/-
# State files when writing fails

A state file is written in place, so a write that is cut short leaves the beginning of a document.
This module follows a store from the time it was opened through changes and saves, each of which may
fail anywhere (`Course`).

* One step (`Course.Sound.step`).  The store knows what was loaded or saved last.  The file holds
  that as long as it is whole, which means that no write was cut short since it was read or written
  to its end.
* A whole course (`Course.Sound.run`), and what a save at its end gives and leaves
  (`save_in_course`).
-/
import MultiSigner.Proofs.Saving.Files

namespace MultiSigner

/-! ## 1. Courses -/

/-- What happens to a store that is open. -/
inductive StoreEvent
  | change (s : State)
  | save (outcome : WriteOutcome)

/-- Whether a save creates the file anew. -/
def StateStore.rewrites (store : StateStore) (outcome : WriteOutcome) : Bool :=
  match store.pending with
  | .ok (some _) => outcome ≠ .notCreated
  | _ => false

/-- A store with its file, and what happened to them. -/
structure Course where
  store : StateStore
  disk : Disk
  /-- The state of the last load or save that succeeded. -/
  last : State
  /-- Whether no write was cut short since the file was read or written to its end. -/
  whole : Bool

namespace Course

/-- A store that was just opened. -/
def opened (store : StateStore) (disk : Disk) : Course :=
  ⟨store, disk, store.state, true⟩

/-- What an event makes of a course. -/
def step (c : Course) : StoreEvent → Course
  | .change s => { c with store := { c.store with state := s } }
  | .save outcome =>
    match c.store.saveDisk c.disk outcome with
    | (.ok (), store, disk) => ⟨store, disk, c.store.state, c.store.rewrites outcome || c.whole⟩
    | (.error _, store, disk) => ⟨store, disk, c.last, !c.store.rewrites outcome && c.whole⟩

/-- What some events make of a course. -/
def run (c : Course) (events : List StoreEvent) : Course :=
  events.foldl step c

/-- What holds all along. -/
structure Sound (c : Course) : Prop where
  usable : c.disk ≠ .unusable
  saved : c.store.saved.same c.last = true
  state : c.store.state.Legible ∨ c.store.state.same c.store.saved = true
  holds : c.whole = true → c.disk.Holds c.last

end Course

namespace StateStore

variable {store : StateStore} {d : Disk} {outcome : WriteOutcome}

theorem rewrites_of_same (h : store.state.same store.saved = true) :
    store.rewrites outcome = false := by
  rw [rewrites, pending, if_pos h]

theorem rewrites_of_ok (hnew : store.state.same store.saved = false) {text : String}
    (htext : store.state.documentText = .ok text) :
    store.rewrites outcome = decide (outcome ≠ .notCreated) := by
  rw [rewrites, pending, hnew, htext]
  rfl

/-- What was found when a store was opened. -/
theorem of_openDisk {d₀ : Disk} (h : openDisk d₀ outcome = (.ok store, d)) :
    store.saved = store.state ∧ d ≠ .unusable ∧ d.Holds store.state := by
  have hfound {text : String} (htext : ofText text = .ok store) :
      store.saved = store.state ∧ (Disk.file text).Holds store.state := by
    unfold ofText at htext
    cases hread : State.ofDocumentText text with
    | error e =>
      rw [hread] at htext
      cases htext
    | ok s =>
      rw [hread] at htext
      cases htext
      exact ⟨rfl, text, s, rfl, hread, State.same_refl s⟩
  cases d₀ with
  | unusable | garbled _ => cases h
  | file text =>
    obtain ⟨htext, rfl⟩ := Prod.mk.inj h
    exact ⟨(hfound htext).1, by simp, (hfound htext).2⟩
  | missing =>
    cases hempty : emptyText with
    | error e =>
      rw [openDisk, hempty] at h
      cases h
    | ok text =>
      rw [openDisk, hempty] at h
      cases outcome with
      | done =>
        obtain ⟨htext, rfl⟩ := Prod.mk.inj h
        exact ⟨(hfound htext).1, by simp, (hfound htext).2⟩
      | notCreated | notWritten _ | notFlushed _ => cases h

end StateStore

namespace Course

theorem sound_opened {d₀ d : Disk} {outcome : WriteOutcome} {store : StateStore}
    (h : StateStore.openDisk d₀ outcome = (.ok store, d)) : (opened store d).Sound := by
  obtain ⟨hsaved, husable, hholds⟩ := StateStore.of_openDisk h
  refine ⟨husable, ?_, .inr ?_, fun _ => hholds⟩
  · change store.saved.same store.state = true
    rw [hsaved]
    exact State.same_refl _
  · change store.state.same store.saved = true
    rw [hsaved]
    exact State.same_refl _

/-- A state that says something else than what was saved is one that was put there. -/
theorem Sound.legible {c : Course} (hc : c.Sound)
    (hnew : c.store.state.same c.store.saved = false) : c.store.state.Legible :=
  hc.state.resolve_right (by rw [hnew]; exact Bool.false_ne_true)

/-- **One event keeps what holds all along.** -/
theorem Sound.step {c : Course} (hc : c.Sound) {event : StoreEvent}
    (hevent : ∀ s, event = .change s → s.Legible) : (c.step event).Sound := by
  cases event with
  | change s => exact ⟨hc.usable, hc.saved, .inl (hevent s rfl), hc.holds⟩
  | save outcome =>
    have hsaved := StateStore.saved_saveDisk c.store hc.usable outcome
    unfold Course.step
    simp only
    generalize c.store.saveDisk c.disk outcome = result at hsaved ⊢
    cases hsaved with
    | skipped hold =>
      refine ⟨hc.usable, State.same_symm hold, .inr hold, fun hwhole => ?_⟩
      rw [StateStore.rewrites_of_same hold, Bool.false_or] at hwhole
      exact (hc.holds hwhole).of_same (State.same_symm (State.same_trans hold hc.saved))
    | unwritable hnew htext =>
      refine ⟨hc.usable, hc.saved, hc.state, fun hwhole => hc.holds ?_⟩
      exact (Bool.and_eq_true _ _ ▸ hwhole).2
    | notCreated hnew htext =>
      refine ⟨hc.usable, hc.saved, hc.state, fun hwhole => hc.holds ?_⟩
      exact (Bool.and_eq_true _ _ ▸ hwhole).2
    | cutShort hnew htext houtcome =>
      refine ⟨Disk.ofBytes_ne_unusable _, hc.saved, hc.state, fun hwhole => ?_⟩
      rw [StateStore.rewrites_of_ok hnew htext] at hwhole
      rcases houtcome with rfl | rfl <;> cases hwhole
    | written hnew htext =>
      refine ⟨by simp, State.same_refl _, .inr (State.same_refl _), fun _ => ?_⟩
      exact StateStore.holds_documentText (hc.legible hnew) htext

/-- **A whole course keeps it**, if every state that is put there is legible. -/
theorem Sound.run {c : Course} (hc : c.Sound) {events : List StoreEvent}
    (hevents : ∀ s, .change s ∈ events → s.Legible) : (c.run events).Sound := by
  induction events generalizing c with
  | nil => exact hc
  | cons event events ih =>
    refine ih (hc.step fun s hs => ?_) fun s hs => hevents s (List.mem_cons_of_mem _ hs)
    exact hevents s (hs ▸ List.mem_cons_self)

/-! ## 3. Saving at the end -/

section

variable {c : Course} {outcome : WriteOutcome}

/-- After a save that succeeds, the file holds the state. -/
theorem Sound.holds_state (hc : c.Sound) (hok : (c.store.saveDisk c.disk outcome).1 = .ok ())
    (hfile : c.whole = true ∨ c.store.state.same c.last = false) :
    (c.store.saveDisk c.disk outcome).2.2.Holds c.store.state := by
  have hsaved := StateStore.saved_saveDisk c.store hc.usable outcome
  generalize c.store.saveDisk c.disk outcome = result at hsaved hok ⊢
  cases hsaved with
  | skipped hold =>
    have hlast : c.store.state.same c.last = true := State.same_trans hold hc.saved
    have hwhole : c.whole = true := hfile.resolve_right (by rw [hlast]; simp)
    exact (hc.holds hwhole).of_same (State.same_symm hlast)
  | unwritable | notCreated | cutShort => cases hok
  | written hnew htext => exact StateStore.holds_documentText (hc.legible hnew) htext

/-- A save that fails before the file is created leaves the file as it was. -/
theorem Sound.untouched (hc : c.Sound) {e : Error}
    (hfail : (c.store.saveDisk c.disk outcome).1 = .error e)
    (hearly : (∀ text, c.store.state.documentText ≠ .ok text) ∨ outcome = .notCreated) :
    (c.store.saveDisk c.disk outcome).2.2 = c.disk := by
  have hsaved := StateStore.saved_saveDisk c.store hc.usable outcome
  generalize c.store.saveDisk c.disk outcome = result at hsaved hfail ⊢
  cases hsaved with
  | skipped | written => cases hfail
  | unwritable | notCreated => rfl
  | cutShort hnew htext houtcome =>
    rcases hearly with hunwritable | rfl
    · exact absurd htext (hunwritable _)
    · rcases houtcome with h | h <;> cases h

/-- A save that fails later leaves the first bytes of the document, and so the state if these are all
of them. -/
theorem Sound.cutShort (hc : c.Sound) {e : Error}
    (hfail : (c.store.saveDisk c.disk outcome).1 = .error e) {text : String}
    (htext : c.store.state.documentText = .ok text) (hcreated : outcome ≠ .notCreated) :
    ∃ count, (c.store.saveDisk c.disk outcome).2.2 = .ofBytes (Disk.firstBytes count text) ∧
      (text.utf8ByteSize ≤ count →
        (c.store.saveDisk c.disk outcome).2.2.Holds c.store.state) := by
  have hsaved := StateStore.saved_saveDisk c.store hc.usable outcome
  generalize c.store.saveDisk c.disk outcome = result at hsaved hfail ⊢
  cases hsaved with
  | skipped | written => cases hfail
  | unwritable hnew hunwritable =>
    rw [hunwritable] at htext
    cases htext
  | notCreated => exact absurd rfl hcreated
  | cutShort hnew hshort houtcome =>
    obtain rfl : text = _ := Except.ok.inj (htext.symm.trans hshort)
    refine ⟨_, rfl, fun hall => ?_⟩
    rw [Disk.ofBytes_firstBytes hall]
    exact StateStore.holds_documentText (hc.legible hnew) htext

/-- A save of something that can be written, and is written, succeeds. -/
theorem Sound.succeeds (hc : c.Sound) {text : String}
    (htext : c.store.state.documentText = .ok text) :
    (c.store.saveDisk c.disk .done).1 = .ok () := by
  have hsaved := StateStore.saved_saveDisk c.store hc.usable .done
  generalize c.store.saveDisk c.disk .done = result at hsaved ⊢
  cases hsaved with
  | skipped | written => rfl
  | unwritable hnew hunwritable =>
    rw [hunwritable] at htext
    cases htext
  | cutShort hnew hshort houtcome => rcases houtcome with h | h <;> cases h

end

end Course

/-- **What a save gives and leaves**, after a store was opened, and after any changes and saves that
may have failed.

* If it succeeds, the file holds the state, unless the file was cut short before and the state says
  what was loaded or saved last.
* If it fails because the state can not be written, or because the file can not be created, the file
  stays as it was.  So it holds what was loaded or saved last, unless it was cut short before.
* If it fails otherwise, the file holds the first bytes of the document, and the state if these are
  all bytes.
* If the state can be written, and nothing fails, then the save succeeds.  So a file that was cut
  short is whole again after a save of something new. -/
theorem save_in_course {d₀ d : Disk} {opening : WriteOutcome} {store : StateStore}
    (hopen : StateStore.openDisk d₀ opening = (.ok store, d)) {events : List StoreEvent}
    (hevents : ∀ s, .change s ∈ events → s.Legible) (outcome : WriteOutcome) :
    let c := (Course.opened store d).run events
    let result := c.store.saveDisk c.disk outcome
    (result.1 = .ok () → c.whole = true ∨ c.store.state.same c.last = false →
        result.2.2.Holds c.store.state)
      ∧ (∀ e, result.1 = .error e →
        (∀ text, c.store.state.documentText ≠ .ok text) ∨ outcome = .notCreated →
        result.2.2 = c.disk ∧ (c.whole = true → result.2.2.Holds c.last))
      ∧ (∀ e text, result.1 = .error e → c.store.state.documentText = .ok text →
        outcome ≠ .notCreated → ∃ count, result.2.2 = .ofBytes (Disk.firstBytes count text) ∧
          (text.utf8ByteSize ≤ count → result.2.2.Holds c.store.state))
      ∧ (∀ text, c.store.state.documentText = .ok text → outcome = .done → result.1 = .ok ()) := by
  intro c result
  have hc : c.Sound := (Course.sound_opened hopen).run hevents
  refine ⟨hc.holds_state, fun e hfail hearly => ?_,
    fun e text hfail htext => hc.cutShort hfail htext, fun text htext => ?_⟩
  · have hsame : result.2.2 = c.disk := hc.untouched hfail hearly
    exact ⟨hsame, fun hwhole => hsame ▸ hc.holds hwhole⟩
  · rintro rfl
    exact hc.succeeds htext

/-- A store whose file was missing. -/
theorem openDisk_missing : ∃ text, State.empty.documentText = .ok text
    ∧ StateStore.openDisk .missing .done = (.ok ⟨.empty, .empty⟩, .file text) := by
  obtain ⟨v, hv⟩ : ∃ v, State.empty.encode = some v :=
    Option.isSome_iff_exists.1 (by decide +kernel)
  have htext : State.empty.documentText = .ok v.pretty := by rw [State.documentText, hv]
  refine ⟨v.pretty, htext, ?_⟩
  rw [StateStore.openDisk, StateStore.emptyText, htext]
  have hread : State.ofDocumentText v.pretty = .ok .empty := by
    refine State.ofDocumentText_pretty hv ?_
    obtain rfl : v = _ := (Option.some.inj hv).symm
    rfl
  simp only [Disk.write, StateStore.ofText, hread]
  rfl

namespace Sample

/-- A document that is put there, and two saves that fail. -/
def failures : List StoreEvent :=
  [.change filed, .save .notCreated, .save (.notWritten 9)]

end Sample

theorem saved_after_failures : ∃ store d, StateStore.openDisk .missing .done = (.ok store, d)
    ∧ (∀ s, .change s ∈ Sample.failures → s.Legible)
    ∧ ∃ c : Course, c = (Course.opened store d).run Sample.failures
      ∧ c.store.state = Sample.filed ∧ c.last = .empty ∧ c.whole = false
      ∧ (c.store.saveDisk c.disk .done).1 = .ok ()
      ∧ (c.store.saveDisk c.disk .done).2.2.Holds Sample.filed := by
  obtain ⟨empty, -, hopen⟩ := openDisk_missing
  obtain ⟨text, htext⟩ := Sample.restorable_filed.exists_documentText
  have hnew : Sample.filed.same .empty = false := by decide +kernel
  have hevents : ∀ s, .change s ∈ Sample.failures → s.Legible := by
    intro s hs
    obtain rfl : s = Sample.filed := by simpa [Sample.failures] using hs
    exact Sample.restorable_filed.legible
  have hrun : (Course.opened ⟨.empty, .empty⟩ (.file empty)).run Sample.failures
      = ⟨⟨Sample.filed, .empty⟩, .ofBytes (Disk.firstBytes 9 text), .empty, false⟩ := by
    simp [Sample.failures, Course.run, Course.opened, Course.step, StateStore.saveDisk,
      StateStore.pending, StateStore.rewrites, hnew, htext, Disk.write]
  obtain ⟨hholds, -, -, hsucceeds⟩ := save_in_course hopen hevents .done
  rw [hrun] at hholds hsucceeds
  have hok := hsucceeds text htext rfl
  exact ⟨_, _, hopen, hevents, _, hrun.symm, rfl, rfl, rfl, hok, hholds hok (.inr hnew)⟩

namespace Sample

/-- The zone has a label that is printed as a sharp s, which is read as two letters. -/
def sharp : State where
  groups := .ofList [(named "xn--zca.", { parent := "p" })]

end Sample

theorem not_holds_of_reread {s t : State} {v : Json} (hv : s.encode = some v)
    (ht : State.decode v.draft = .ok t) (hother : t.same s = false) :
    ¬ (Disk.file v.pretty).Holds s := by
  rintro ⟨text, u, htext, hu, hsame⟩
  obtain rfl : v.pretty = text := Disk.file.inj htext
  obtain rfl : t = u := Except.ok.inj ((State.ofDocumentText_pretty hv ht).symm.trans hu)
  rw [hother] at hsame
  cases hsame

/-- Nothing is read from a file of which no byte arrived. -/
theorem not_holds_of_isEmpty (text : String) (s : State) :
    ¬ (Disk.ofBytes (Disk.firstBytes 0 text)).Holds s := by
  have hempty : Disk.ofBytes (Disk.firstBytes 0 text) = .file "" := by
    rw [Disk.firstBytes, List.take_zero]
    rfl
  rw [hempty]
  rintro ⟨text, t, htext, ht, -⟩
  obtain rfl : "" = text := Disk.file.inj htext
  have hfail : (State.ofDocumentText "").isOk = false := by decide +kernel
  rw [ht] at hfail
  cases hfail

/-- **Neither half holds without its condition.**  A save that succeeds may leave a file in which
another name is found, and a save that fails may leave one that can not be opened. -/
theorem lost_in_course : ∃ store d, StateStore.openDisk .missing .done = (.ok store, d)
    ∧ (∃ c : Course, c = (Course.opened store d).run [.change Sample.sharp]
      ∧ (c.store.saveDisk c.disk .done).1 = .ok ()
      ∧ ¬ (c.store.saveDisk c.disk .done).2.2.Holds c.store.state)
    ∧ ∃ c : Course, c = (Course.opened store d).run [.change Sample.filed]
      ∧ (c.store.saveDisk c.disk (.notWritten 0)).1 = .error .io
      ∧ ¬ (c.store.saveDisk c.disk (.notWritten 0)).2.2.Holds c.last := by
  obtain ⟨empty, -, hopen⟩ := openDisk_missing
  refine ⟨_, _, hopen, ⟨⟨⟨Sample.sharp, .empty⟩, .file empty, .empty, true⟩, rfl, ?_⟩,
    ⟨⟨Sample.filed, .empty⟩, .file empty, .empty, true⟩, rfl, ?_⟩
  · obtain ⟨v, t, hv, ht, hother⟩ := Sample.exists_reread (s := Sample.sharp) (by decide +kernel)
    have hnew : Sample.sharp.same .empty = false := by decide +kernel
    rw [StateStore.saveDisk_done hnew (by rw [State.documentText, hv]) (by simp)]
    exact ⟨rfl, not_holds_of_reread hv ht hother⟩
  · have hnew : Sample.filed.same .empty = false := by decide +kernel
    obtain ⟨text, htext⟩ := Sample.restorable_filed.exists_documentText
    rw [StateStore.saveDisk, StateStore.pending, hnew, htext]
    exact ⟨rfl, not_holds_of_isEmpty text _⟩

end MultiSigner
