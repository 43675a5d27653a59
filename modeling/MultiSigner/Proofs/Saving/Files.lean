/-
# State files are read back

A state that was saved is the one that is found when its file is opened again, up to the spelling of
names (`reopened_of_saved`).

Without the condition on the parts of labels this is wrong.  A label may have an escaped dot, and
the part after it may be marked as internationalized; such a part is decoded and encoded whenever it
is read, and may come out as a shorter one each time (`reread_of_unsettled`).
-/
import MultiSigner.Proofs.Saving.Documents
import MultiSigner.State.File

namespace MultiSigner

/-! ## 1. What a file holds -/

/-- A file from which a state is read that says the same as the given one. -/
def Disk.Holds (d : Disk) (s : State) : Prop :=
  ∃ text t, d = .file text ∧ State.ofDocumentText text = .ok t ∧ t.same s = true

theorem Disk.Holds.of_same {d : Disk} {s t : State} (h : d.Holds s) (hsame : s.same t = true) :
    d.Holds t := by
  obtain ⟨text, u, hd, hu, hus⟩ := h
  exact ⟨text, u, hd, hu, State.same_trans hus hsame⟩

namespace StateStore

variable {store : StateStore} {d : Disk} {outcome : WriteOutcome}

/-- What is found when a file is opened again. -/
theorem openDisk_of_holds {s : State} (h : d.Holds s) (outcome : WriteOutcome) :
    ∃ t, openDisk d outcome = (.ok ⟨t, t⟩, d) ∧ t.same s = true := by
  obtain ⟨text, t, rfl, ht, hsame⟩ := h
  refine ⟨t, ?_, hsame⟩
  rw [openDisk, ofText, ht]
  rfl

/-- The text of a document is a file that holds it. -/
theorem holds_documentText {s : State} {text : String} (h : s.Legible)
    (htext : s.documentText = .ok text) : (Disk.file text).Holds s := by
  obtain ⟨t, ht, hsame⟩ := State.ofDocumentText_documentText h htext
  exact ⟨text, t, rfl, ht, hsame⟩

/-! ## 2. What a save does -/

/-- What a save gives and leaves where something can be written. -/
inductive Saved (store : StateStore) (d : Disk) :
    WriteOutcome → Except Error Unit × StateStore × Disk → Prop
  /-- The state says nothing new. -/
  | skipped {outcome : WriteOutcome} (hold : store.state.same store.saved = true) :
    Saved store d outcome (.ok (), store, d)
  /-- A deadline can not be written. -/
  | unwritable {outcome : WriteOutcome} (hnew : store.state.same store.saved = false)
    (htext : store.state.documentText = .error .invalidJson) :
    Saved store d outcome (.error .invalidJson, store, d)
  /-- The file can not be created. -/
  | notCreated {text : String} (hnew : store.state.same store.saved = false)
    (htext : store.state.documentText = .ok text) :
    Saved store d .notCreated (.error .io, store, d)
  /-- The file is created, and only part of the text arrives. -/
  | cutShort {outcome : WriteOutcome} {text : String} {count : Nat}
    (hnew : store.state.same store.saved = false) (htext : store.state.documentText = .ok text)
    (houtcome : outcome = .notWritten count ∨ outcome = .notFlushed count) :
    Saved store d outcome (.error .io, store, .ofBytes (Disk.firstBytes count text))
  /-- The file is created, and the whole text arrives. -/
  | written {text : String} (hnew : store.state.same store.saved = false)
    (htext : store.state.documentText = .ok text) :
    Saved store d .done (.ok (), store.confirmed, .file text)

/-- **A save does one of five things.** -/
theorem saved_saveDisk (store : StateStore) (hd : d ≠ .unusable) (outcome : WriteOutcome) :
    Saved store d outcome (store.saveDisk d outcome) := by
  by_cases hsame : store.state.same store.saved = true
  · rw [saveDisk, pending, if_pos hsame]
    exact .skipped hsame
  · have hnew : store.state.same store.saved = false := Bool.eq_false_iff.2 hsame
    rw [saveDisk, pending, if_neg hsame]
    cases htext : store.state.documentText with
    | error e =>
      obtain rfl : e = .invalidJson := by
        unfold State.documentText at htext
        split at htext <;> cases htext
        rfl
      exact .unwritable hnew htext
    | ok text =>
      cases d with
      | unusable => exact absurd rfl hd
      | missing | file _ | garbled _ =>
        cases outcome with
        | done => exact .written hnew htext
        | notCreated => exact .notCreated hnew htext
        | notWritten count => exact .cutShort hnew htext (.inl rfl)
        | notFlushed count => exact .cutShort hnew htext (.inr rfl)

/-- Something new that is written to its end. -/
theorem saveDisk_done {text : String} (hnew : store.state.same store.saved = false)
    (htext : store.state.documentText = .ok text) (hd : d ≠ .unusable) :
    store.saveDisk d .done = (.ok (), store.confirmed, .file text) := by
  rw [saveDisk, pending, hnew, htext]
  cases d with
  | unusable => exact absurd rfl hd
  | missing | file _ | garbled _ => rfl

/-! ## 3. Saving and opening -/

/-- **A saved state is found when its file is opened again.**  The file holds what the store takes
it to hold, or the state says something else, so that it is written. -/
theorem reopened_of_saved (hs : store.state.Restorable) (hd : d ≠ .unusable)
    (hfile : d.Holds store.saved ∨ store.state.same store.saved = false) (outcome : WriteOutcome) :
    ∃ store' d' t, store.saveDisk d .done = (.ok (), store', d')
      ∧ openDisk d' outcome = (.ok ⟨t, t⟩, d') ∧ t.same store.state = true := by
  have hsaved := saved_saveDisk store hd .done
  generalize store.saveDisk d .done = result at hsaved ⊢
  cases hsaved with
  | skipped hold =>
    obtain ⟨t, hopen, hsame⟩ := openDisk_of_holds (hfile.resolve_right (by rw [hold]; simp)) outcome
    exact ⟨store, d, t, rfl, hopen, State.same_trans hsame (State.same_symm hold)⟩
  | unwritable hnew htext =>
    obtain ⟨text, htext'⟩ := hs.exists_documentText
    rw [htext'] at htext
    cases htext
  | cutShort hnew htext houtcome => rcases houtcome with h | h <;> cases h
  | written hnew htext =>
    obtain ⟨t, hopen, hsame⟩ := openDisk_of_holds (holds_documentText hs.legible htext) outcome
    exact ⟨_, _, t, rfl, hopen, hsame⟩

end StateStore

namespace Sample

/-- The name that a text denotes. -/
def named (text : String) : DomainName :=
  (DomainName.ofString? text).getD .root

theorem restorable_named {text : String} (h : DomainName.ofString? text = some (named text))
    (hplain : ∀ l ∈ (named text).labels, DomainName.internationalMark.isPrefixOf l = false
      ∧ ∀ part ∈ Idna.splitDots (DomainName.chars l), Idna.asciiMark.isPrefixOf part = false) :
    (named text).Restorable :=
  ⟨⟨text, h⟩, DomainName.plain_of_unmarked hplain⟩

/-- A document with an asterisk and an escaped dot, two names that differ only in the dot, a
deadline in nanoseconds, and texts that have to be escaped. -/
def filed : State where
  groups := .ofList [
    (named "*.a\\.b.example.", ⟨["s"], "192.0.2.53:53", .walking .joining .wait, none,
      some ⟨1704164645123456789, 60⟩, none, 60, {}⟩),
    (named "*.a.b.example", ⟨[], "p", .error, some "a \"quote\"\n", none, none, 300, {}⟩)]
  signers := .ofList [("s", ⟨named "*.a\\.b.example.", "192.0.2.1:53", named "_ns.example",
    .nsupdate, none, false, true⟩)]
  settings := .ofList [("debug-updater", "ja, bitte: ü\\")]

theorem restorable_filed : filed.Restorable := by
  refine ⟨fun n hn => ?_, fun t ht => ?_⟩
  · have hnames : ∀ n ∈ filed.names, n = named "*.a\\.b.example." ∨ n = named "*.a.b.example"
        ∨ n = named "_ns.example" := by decide +kernel
    rcases hnames n hn with rfl | rfl | rfl <;>
    · exact restorable_named (by decide +kernel) (by decide +kernel)
  · have hdeadlines : ∀ t ∈ filed.deadlines, t.text?.isSome = true ∧ t.offset.natAbs < 1440 := by
      decide +kernel
    exact ⟨(hdeadlines t ht).1, (hdeadlines t ht).2⟩

end Sample

theorem reopened_of_filed : ∃ store' d' t,
    (⟨Sample.filed, .empty⟩ : StateStore).saveDisk .missing .done = (.ok (), store', d')
      ∧ StateStore.openDisk d' .done = (.ok ⟨t, t⟩, d') ∧ t.same Sample.filed = true :=
  StateStore.reopened_of_saved Sample.restorable_filed (by decide) (.inr (by decide +kernel)) .done

/-! ## 4. Parts that are not settled -/

namespace Sample

/-- Whether a document is decoded as one that says something else. -/
def rereads (s : State) : Bool :=
  match s.encode with
  | some v =>
    match State.decode v.draft with
    | .ok t => !t.same s
    | .error _ => false
  | none => false

theorem exists_reread {s : State} (h : rereads s = true) :
    ∃ v t, s.encode = some v ∧ State.decode v.draft = .ok t ∧ t.same s = false := by
  unfold rereads at h
  cases hv : s.encode with
  | none =>
    rw [hv] at h
    cases h
  | some v =>
    rw [hv] at h
    cases ht : State.decode v.draft with
    | error e =>
      simp only [ht] at h
      cases h
    | ok t =>
      simp only [ht] at h
      exact ⟨v, t, rfl, ht, by simpa using h⟩

/-- The zone has one label in which a part between dots is marked, but not the first one. -/
def unsettled : State where
  groups := .ofList [(named "a\\.xn--xn--foo--.", { parent := "p" })]

end Sample

/-- **A part that is not settled changes when it is read again**, although its label is not marked.
`xn--foo-` is the text `foo`, so that the label `a.xn--foo-` is read as `a.foo`. -/
theorem reread_of_unsettled :
    (∀ n ∈ Sample.unsettled.names, (∃ text, DomainName.ofString? text = some n)
      ∧ ∀ l ∈ n.labels, DomainName.internationalMark.isPrefixOf l = false)
    ∧ (∀ t ∈ Sample.unsettled.deadlines, t.Representable)
    ∧ ∃ store' d' t,
      (⟨Sample.unsettled, .empty⟩ : StateStore).saveDisk .missing .done = (.ok (), store', d')
      ∧ StateStore.openDisk d' .done = (.ok ⟨t, t⟩, d') ∧ t.same Sample.unsettled = false := by
  have hnew : Sample.unsettled.same .empty = false := by decide +kernel
  have hdeadlines : Sample.unsettled.deadlines = [] := by decide +kernel
  refine ⟨fun n hn => ?_, fun t ht => ?_, ?_⟩
  · have hall : ∀ n ∈ Sample.unsettled.names,
        DomainName.ofString? "a\\.xn--xn--foo--." = some n
          ∧ ∀ l ∈ n.labels, DomainName.internationalMark.isPrefixOf l = false := by decide +kernel
    exact ⟨⟨_, (hall n hn).1⟩, (hall n hn).2⟩
  · rw [hdeadlines] at ht
    cases ht
  · obtain ⟨v, t, hv, ht, hsame⟩ := Sample.exists_reread (s := Sample.unsettled) (by decide +kernel)
    refine ⟨⟨Sample.unsettled, Sample.unsettled⟩, .file v.pretty, t, ?_, ?_, hsame⟩
    · exact StateStore.saveDisk_done hnew (by rw [State.documentText, hv]) (by decide)
    · rw [StateStore.openDisk, StateStore.ofText, State.ofDocumentText_pretty hv ht]
      rfl

end MultiSigner
