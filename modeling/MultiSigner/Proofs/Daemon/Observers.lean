/-
# Observers stay in step

An observer is told the status of all groups when it subscribes, and then what happens.  It keeps, for
each name that it is told, the stage and the signers that it was told last; this is its `View`.
`in_step_of_history` says that its view of every group is right after every move, whether the move
succeeded or failed.  A group that is removed is never told of again, so that the view still has it.

Observers are told the names of groups as texts.  Labels in another script are decoded for that, and
two of them may come out alike, which is why there must be none.  Names are all absolute, since they
all come from the arguments of commands; so no group goes by two texts.
-/
import MultiSigner.Proofs.Daemon.Sights
import MultiSigner.Proofs.Saving.Names
import Mathlib.Logic.Function.Basic

namespace MultiSigner

open Operation Automation

variable {ω : Type} {c : Controller ω} {s t : Session ω} {σ τ : State} {zone z n m : DomainName}
  {e : Event}

/-! ## 1. Names that are displayed as they are -/

namespace DomainName

/-- No label is marked as one in another script. -/
def Unmarked (n : DomainName) : Prop :=
  ∀ l ∈ n.labels, internationalMark.isPrefixOf l = false

/-- A name that was given in the arguments of a command, without marked labels. -/
structure Ordinary (n : DomainName) : Prop where
  read : n.AsRead
  absolute : n.absolute = true
  unmarked : n.Unmarked

/-- **Names that are displayed alike are the same.** -/
theorem labels_of_display (hn : n.AsRead) (hm : m.AsRead) (hn' : n.Unmarked) (hm' : m.Unmarked)
    (h : n.display = m.display) : n.labels = m.labels := by
  have hread {k : DomainName} (hk : k.AsRead) (hk' : k.Unmarked) :
      ∃ absolute, parseWith asciiLabel k.display.toList = .ok ⟨k.labels, absolute⟩ := by
    rw [toList_display hk']
    exact hk.parseWith_asciiLabel
  obtain ⟨a, ha⟩ := hread hn hn'
  obtain ⟨b, hb⟩ := hread hm hm'
  rw [h, hb] at ha
  exact (congrArg labels (Except.ok.inj ha)).symm

theorem Ordinary.beq_of_display (hn : n.Ordinary) (hm : m.Ordinary) (h : n.display = m.display) :
    (n == m) = true :=
  beq_iff.2 (labels_of_display hn.read hm.read hn.unmarked hm.unmarked h)

theorem Ordinary.eq_of_beq (hn : n.Ordinary) (hm : m.Ordinary) (h : (n == m) = true) : n = m := by
  obtain ⟨labels, absolute⟩ := n
  obtain ⟨labels', absolute'⟩ := m
  cases beq_iff.1 h
  cases hn.absolute
  cases hm.absolute
  rfl

theorem asRead_of_parse {text : String} (h : parse text = .ok n) : n.AsRead :=
  have hread : ofString? text = some n := by rw [ofString?, h]; rfl
  asRead_of_ofString? hread

end DomainName

namespace Command

theorem zone_of_arguments {a : Arguments} (h : a.zone = .ok z) :
    ∃ text, DomainName.parseAbsolute text = .ok z := by
  obtain ⟨text, -, h⟩ := bind_eq_ok.1 h
  exact ⟨text, h⟩

theorem zone_of_parseArguments {mode : Mode} {name : String} {a : Arguments} {cmd : Command}
    (h : parseArguments mode name a = .ok cmd) (hz : cmd.zone? = some z) :
    ∃ text, DomainName.parseAbsolute text = .ok z := by
  unfold parseArguments at h
  split at h
  all_goals try split at h
  all_goals
    repeat obtain ⟨_, _, h⟩ := bind_eq_ok.1 h
    cases h <;> cases hz <;> exact zone_of_arguments ‹_›

/-- **The zone of a command is a name that was read from its arguments.** -/
theorem zone_of_parse {mode : Mode} {args : List String} {cmd : Command}
    (h : parse mode args = .ok cmd) (hz : cmd.zone? = some z) :
    z.AsRead ∧ z.absolute = true := by
  have hread : ∃ text, DomainName.parseAbsolute text = .ok z := by
    cases args with
    | nil => cases h
    | cons name values =>
      simp only [parse] at h
      split at h
      · cases h
      · exact zone_of_parseArguments h hz
  obtain ⟨text, htext⟩ := hread
  rw [DomainName.parseAbsolute] at htext
  split at htext
  · cases htext
  · rename_i n hn
    split at htext
    · cases htext
      exact ⟨DomainName.asRead_of_parse hn, ‹_›⟩
    · cases htext

end Command

/-! ## 2. What observers know -/

/-- What an observer knows of groups, by the texts of their names. -/
abbrev View :=
  String → Option (Stage × List (String × Bool))

namespace View

variable {v : View} {es : List Event}

/-- The view of an observer that knows nothing. -/
def empty : View := fun _ => none

/-- What is told of a group takes the place of what was known of it. -/
def learn (v : View) : Event → View
  | .status zone stage signers => Function.update v zone.display (some (stage, signers))
  | .log _ => v
  | .left _ _ => v

/-- The view after some events. -/
def learns (v : View) (es : List Event) : View :=
  es.foldl learn v

/-- The view of each group is right. -/
def InStep (v : View) (σ : State) : Prop :=
  ∀ n : DomainName, n.Ordinary → (σ.sight n).isSome = true → v n.display = σ.sight n

theorem learns_append (v : View) (es fs : List Event) :
    v.learns (es ++ fs) = (v.learns es).learns fs :=
  List.foldl_append

theorem learn_of_plain (h : e.Plain) : v.learn e = v := by
  cases e with
  | status zone stage signers => exact absurd rfl (h zone stage signers)
  | log _ | left _ _ => rfl

theorem learns_of_plain : ∀ {es : List Event}, (∀ e ∈ es, e.Plain) → v.learns es = v
  | [], _ => rfl
  | e :: es, h => by
    rw [learns, List.foldl_cons, learn_of_plain (h e List.mem_cons_self)]
    exact learns_of_plain fun f hf => h f (List.mem_cons_of_mem e hf)

/-- The status of a group is learned. -/
theorem learns_status? (h : (σ.sight zone).isSome = true) :
    v.learns (Event.status? σ zone).toList = Function.update v zone.display (σ.sight zone) := by
  obtain ⟨p, hp⟩ := Option.isSome_iff_exists.1 h
  rw [State.status?_eq, hp]
  rfl

/-- **All that there is to know is told at the start.** -/
theorem learns_statuses (hn : n.Ordinary) (hthere : (σ.sight n).isSome = true) :
    ∀ {keys : List DomainName} {v : View}, (∀ k ∈ keys, k.Ordinary) →
      n ∈ keys ∨ v n.display = σ.sight n →
        v.learns (keys.filterMap (Event.status? σ)) n.display = σ.sight n
  | [], v, _, h => h.resolve_left (by simp)
  | k :: keys, v, hkeys, h => by
    have hk := hkeys k List.mem_cons_self
    have hrest := fun l hl => hkeys l (List.mem_cons_of_mem k hl)
    cases hsight : σ.sight k with
    | none =>
      rw [List.filterMap_cons, State.status?_eq, hsight]
      refine learns_statuses hn hthere hrest (h.imp_left fun hmem => ?_)
      refine (List.mem_cons.1 hmem).resolve_left ?_
      rintro rfl
      rw [hsight] at hthere
      cases hthere
    | some p =>
      rw [List.filterMap_cons, State.status?_eq, hsight]
      refine learns_statuses (v := Function.update v k.display (some p)) hn hthere hrest ?_
      by_cases hsame : n.display = k.display
      · right
        rw [hsame, Function.update_self, ← hsight]
        exact (σ.sight_of_beq (hn.beq_of_display hk hsame)).symm
      · refine h.imp (fun hmem => (List.mem_cons.1 hmem).resolve_left ?_) fun hknown => ?_
        · rintro rfl
          exact hsame rfl
        · rw [Function.update_of_ne hsame]
          exact hknown

/-- **What is told of a move keeps the view in step.** -/
theorem InStep.shows {named : DomainName → Prop} (h : v.InStep s.state) (hshows : Shows named s t)
    (hnamed : ∀ n, named n → n.Ordinary) :
    (v.learns (t.events.drop s.events.length)).InStep t.state := by
  intro n hn hthere
  cases hshows with
  | nothing hsights hplain hevents =>
    rw [hevents, List.drop_left, learns_of_plain hplain, hsights]
    rw [hsights] at hthere
    exact h n hn hthere
  | @changed zone news logs hzone helsewhere hthere' hfresh hplain hevents =>
    rw [hevents, List.drop_left, learns_append, learns_append, learns_of_plain hplain,
      learns_of_plain hfresh, learns_status? hthere']
    have hzone := hnamed zone hzone
    cases hsame : n == zone with
    | true => rw [hn.eq_of_beq hzone hsame, Function.update_self]
    | false =>
      rw [Function.update_of_ne, helsewhere n hsame]
      · rw [helsewhere n hsame] at hthere
        exact h n hn hthere
      · intro hdisplay
        rw [hn.beq_of_display hzone hdisplay] at hsame
        cases hsame
  | @removed zone _ _ helsewhere hgone hplain hevents =>
    rw [hevents, List.drop_left, learns_of_plain hplain]
    cases hsame : n == zone with
    | true =>
      rw [hgone n hsame] at hthere
      cases hthere
    | false =>
      rw [helsewhere n hsame] at hthere ⊢
      exact h n hn hthere

end View

/-! ## 3. Histories -/

/-- What observers are told of a move. -/
def Happening.news (c : Controller ω) (x : Happening ω) : List Event :=
  (x.after c).session.events.drop x.before.session.events.length

namespace State

/-- What is seen has a key. -/
theorem mem_keys_of_sight (h : (σ.sight zone).isSome = true) :
    ∃ k ∈ σ.groups.keys, (zone == k) = true := by
  rw [isSome_sight] at h
  obtain ⟨g, hg⟩ := Option.isSome_iff_exists.1 h
  obtain ⟨e, he, -⟩ := Option.map_eq_some_iff.1 hg
  refine ⟨e.1, List.mem_map_of_mem (List.mem_of_find?_eq_some he), ?_⟩
  have := List.find?_some he
  exact DomainName.beq_iff.2 (DomainName.compare_eq_iff.1 (beq_iff_eq.1 this))

/-- What has a key is seen. -/
theorem isSome_sight_of_key (h : zone ∈ σ.groups.keys) : (σ.sight zone).isSome = true := by
  obtain ⟨e, he, rfl⟩ := List.mem_map.1 h
  rw [isSome_sight, OrderedMap.get?, Option.isSome_map]
  exact List.find?_isSome.2 ⟨e, he, beq_iff_eq.2 Std.ReflCmp.compare_self⟩

end State

/-- Nothing is mentioned before anything happened. -/
theorem Moment.not_mentions_of_empty {m : Moment ω} (hempty : m.session.state = .empty)
    (htasks : m.session.scheduler.tasks = []) (hwaiting : m.waiting = []) : ¬ m.Mentions n := by
  intro hn
  cases hn with
  | document hspells =>
    rw [hempty] at hspells
    cases hspells with
    | key h | autostart h => cases h
    | home h _ => cases h
  | waiting h =>
    rw [hwaiting] at h
    cases h
  | task h _ =>
    rw [htasks] at h
    cases h

/-- **An observer that has just subscribed is in step.** -/
theorem View.inStep_current (hkeys : ∀ k ∈ s.state.groups.keys, k.Ordinary) :
    (View.empty.learns (Controller.current s)).InStep s.state := by
  intro n hn hthere
  obtain ⟨k, hk, hsame⟩ := State.mem_keys_of_sight hthere
  refine View.learns_statuses hn hthere hkeys (.inl ?_)
  rw [hn.eq_of_beq (hkeys k hk) hsame]
  exact hk

namespace History

variable {first last : Moment ω} {hs : List (Happening ω)}

/-- **Names come from commands.** -/
theorem ordinary (h : History c first hs last) (hfirst : first.Sound)
    (hnames : ∀ n, first.Mentions n → n.Ordinary)
    (hgiven : ∀ x ∈ hs, ∀ n, x.move.Given c n → n.Ordinary) :
    ∀ n, last.Mentions n → n.Ordinary := by
  induction h with
  | nil m => exact hnames
  | @cons m n x hs hpasses hrest ih =>
    have hx := hpasses.sound hfirst
    refine ih (Moment.sound_of_take c _ hx) (fun n hn => ?_) fun y hy =>
      hgiven y (List.mem_cons_of_mem x hy)
    rcases x.move.mentions_of_take c hx.reachable.intact hn with hold | hnew
    · exact hnames n (hpasses.mentions hold)
    · exact hgiven x List.mem_cons_self n hnew

/-- **An observer that is in step stays in step.** -/
theorem inStep (h : History c first hs last) (hfirst : first.Sound)
    (hnames : ∀ n, first.Mentions n → n.Ordinary)
    (hgiven : ∀ x ∈ hs, ∀ n, x.move.Given c n → n.Ordinary) {v : View}
    (hv : v.InStep first.session.state) :
    (v.learns (hs.flatMap fun x => x.news c)).InStep last.session.state := by
  induction h generalizing v with
  | nil m => exact hv
  | @cons m n x hs hpasses hrest ih =>
    have hx := hpasses.sound hfirst
    have hintact := hx.reachable.intact
    have hnames' : ∀ n, x.before.Mentions n → n.Ordinary := fun n hn =>
      hnames n (hpasses.mentions hn)
    have hgiven' := hgiven x List.mem_cons_self
    rw [List.flatMap_cons, View.learns_append]
    refine ih (Moment.sound_of_take c _ hx) (fun n hn => ?_)
      (fun y hy => hgiven y (List.mem_cons_of_mem x hy)) ?_
    · exact (x.move.mentions_of_take c hintact hn).elim (hnames' n) (hgiven' n)
    · refine View.InStep.shows (s := x.before.session) ?_ (x.move.seen_of_take c hintact).shows
        fun n hn => hn.elim (hnames' n) (hgiven' n)
      rw [hpasses.state]
      exact hv

end History

/-- **Observers stay in step.**  From the empty document on, anything happens in any order, and
succeeds or fails.  An observer subscribes at any moment and learns of everything after it.  If no
command is given a zone with a marked label, its view of every group is right at the end, and so after
every move. -/
theorem in_step_of_history (c : Controller ω) {first m last : Moment ω}
    {past future : List (Happening ω)} (hempty : first.session.state = .empty)
    (htasks : first.session.scheduler.tasks = []) (hwaiting : first.waiting = [])
    (hpast : History c first past m) (hfuture : History c m future last)
    (hunmarked : ∀ x ∈ past ++ future, ∀ zone, x.move.Given c zone → zone.Unmarked) :
    ∀ zone ∈ last.session.state.groups.keys,
      ((View.empty.learns (Controller.current m.session)).learns
        (future.flatMap fun x => x.news c)) zone.display = last.session.state.sight zone := by
  have hfirst : first.Sound := Moment.sound_of_no_tasks (hempty ▸ .empty) htasks
  have hgiven : ∀ x ∈ past ++ future, ∀ n, x.move.Given c n → n.Ordinary := by
    intro x hx n hn
    obtain ⟨args, cmd, -, hparse, hzone⟩ := id hn
    obtain ⟨hread, habsolute⟩ := Command.zone_of_parse hparse hzone
    exact ⟨hread, habsolute, hunmarked x hx n hn⟩
  have hnone : ∀ n, ¬ first.Mentions n := fun _ =>
    Moment.not_mentions_of_empty hempty htasks hwaiting
  have hm := hpast.sound hfirst
  have hmnames : ∀ n, m.Mentions n → n.Ordinary :=
    hpast.ordinary hfirst (fun n hn => absurd hn (hnone n)) fun x hx =>
      hgiven x (List.mem_append_left _ hx)
  have hfuture' := fun x hx => hgiven x (List.mem_append_right past hx)
  have hstart : (View.empty.learns (Controller.current m.session)).InStep m.session.state :=
    View.inStep_current fun k hk => hmnames k (.document (.key hk))
  intro zone hzone
  exact hfuture.inStep hm hmnames hfuture' hstart zone
    (hfuture.ordinary hm hmnames hfuture' zone (.document (.key hzone)))
    (State.isSome_sight_of_key hzone)

namespace Sample

/-- The zone of the command, if it is one, has no marked label. -/
def unmarks (mode : Mode) : Move → Bool
  | .command args => match Command.parse mode args with
    | .ok cmd => cmd.zone?.all fun z => z.labels.all fun l => !DomainName.internationalMark.isPrefixOf l
    | .error _ => true
  | _ => true

theorem unmarked_of_unmarks {ω : Type} {c : Controller ω} : ∀ {moves : List Move} {m : Moment ω},
    moves.all (unmarks c.mode) = true → ∀ x ∈ m.happenings c moves, ∀ zone,
      x.move.Given c zone → zone.Unmarked
  | [], _, _, x, hx => by cases hx
  | move :: rest, m, h, x, hx => by
    obtain ⟨hmove, hrest⟩ := Bool.and_eq_true_iff.1 (List.all_cons ▸ h)
    rcases List.mem_cons.1 hx with rfl | hx
    · rintro zone ⟨args, cmd, rfl, hparse, hzone⟩ l hl
      rw [unmarks, hparse] at hmove
      simp only [hzone, Option.all_some] at hmove
      simpa using List.all_eq_true.1 hmove l hl
    · exact unmarked_of_unmarks hrest x hx

/-- A daemon whose servers do not answer. -/
def unanswered : Controller Int :=
  ⟨.daemon, { outside with query := fun server _ _ w => (.error (.transport server "timed out"), w) }⟩

/-- A daemon with an empty document. -/
def founded : Moment Int where
  session := session .empty 0

/-- What is done before the observer subscribes. -/
def earlier : List Move :=
  [.command ["group-add", "x.", "192.0.2.4"], .command ["signer-add", "x.", "a", "a.", "192.0.2.3"]]

/-- What it is told of: the group begins to walk, its first step fails, and a signer is leaving. -/
def later : List Move :=
  [.command ["signer-add", "x.", "b", "b.", "192.0.2.3"], .command ["automate-start", "x."],
    .wake 0, .command ["signer-mark-leave", "a"], .command ["group-add", "y.", "192.0.2.4"]]

/-- The observer knows of the failure, and of the group that was added since. -/
theorem in_step_of_later :
    let m := founded.makes unanswered earlier
    let last := m.makes unanswered later
    let view := (View.empty.learns (Controller.current m.session)).learns
      ((m.happenings unanswered later).flatMap fun x => x.news unanswered)
    view "x." = some (.error, [("a", true), ("b", false)]) ∧ view "y." = some (.ready, []) ∧
      ∀ zone ∈ last.session.state.groups.keys, view zone.display = last.session.state.sight zone := by
  intro m last view
  have hunmarked : ∀ x ∈ founded.happenings unanswered earlier ++ m.happenings unanswered later,
      ∀ zone, x.move.Given unanswered zone → zone.Unmarked := fun x hx =>
    (List.mem_append.1 hx).elim (unmarked_of_unmarks (by decide +kernel) x)
      (unmarked_of_unmarks (by decide +kernel) x)
  exact ⟨by decide +kernel, by decide +kernel,
    in_step_of_history unanswered rfl rfl rfl (history_happenings unanswered earlier founded)
      (history_happenings unanswered later m) hunmarked⟩

end Sample
end MultiSigner
