/-
# What a hold gives, and for how long

A hold is a gate: it gives a deadline and leaves it to its caller to compare it with the time.  The
deadline is worked out once, from what all members and the parent answer, and is stored with the
group; from then on the hold gives the stored one and asks nobody.

`Hold.Waits` takes one hold apart, however it goes.  What may be done to the document while a
deadline is stored is `Hold.Meanwhile`: the invariant of these changes is that the stored deadline
is still the same one (`Hold.stored_of_meanwhile`, along a run `Hold.stored_of_meanwhiles`).

Main statement: `Hold.gate_of_wait`.  Deadlines must have years of four digits, as they cannot be
written otherwise; a deadline that cannot be written is stored before the hold fails.
-/
import MultiSigner.Proofs.Deadlines

namespace MultiSigner

open Operation

variable {ω : Type} {o : Outside ω} {s t : Session ω} {zone z : DomainName} {σ τ : State}

/-! ## 1. Timestamps that can be written -/

namespace Timestamp

/-- The year of a timestamp, as its own clock shows it. -/
def year (t : Timestamp) : Int :=
  (Time.Date.ofDay ((t.nanos + t.offset * 60 * second) / second / 86400)).year

/-- The year has four digits, or fewer. -/
def Writable (t : Timestamp) : Prop :=
  0 ≤ t.year ∧ t.year ≤ 9999

instance (t : Timestamp) : Decidable t.Writable :=
  inferInstanceAs (Decidable (_ ∧ _))

theorem writable_iff {t : Timestamp} : t.Writable ↔ ∃ text, t.text? = some text := by
  simp only [text?, Writable, year, Option.ite_none_right_eq_some, Option.some.injEq,
    exists_and_left, exists_eq', and_true]

end Timestamp

/-! ## 2. Questions and answers -/

/-- A network answers questions, one after the other. -/
inductive Outside.Answers (o : Outside ω) (zone : DomainName) :
    List (String × RecordKind) → ω → List Answer → ω → Prop
  | done (w : ω) : Answers o zone [] w [] w
  | ask {server : String} {kind : RecordKind} {rest : List (String × RecordKind)} {w w' w'' : ω}
      {a : Answer} {as : List Answer} (first : o.query server zone kind w = (.ok a, w'))
      (later : Answers o zone rest w' as w'') :
      Answers o zone ((server, kind) :: rest) w (a :: as) w''

namespace Outside

theorem answers_singleton {server : String} {kind : RecordKind} {a : Answer} {w w' : ω}
    (h : o.query server zone kind w = (.ok a, w')) :
    o.Answers zone [(server, kind)] w [a] w' :=
  .ask h (.done w')

theorem answers_append {qs ps : List (String × RecordKind)} {w v : ω} {cs : List Answer} :
    o.Answers zone (qs ++ ps) w cs v ↔ ∃ as bs u, o.Answers zone qs w as u ∧
      o.Answers zone ps u bs v ∧ cs = as ++ bs := by
  constructor
  · induction qs generalizing w cs with
    | nil => exact fun h => ⟨[], cs, w, .done w, h, rfl⟩
    | cons q qs ih =>
      intro h
      cases h with
      | ask first later =>
        obtain ⟨as, bs, u, has, hbs, rfl⟩ := ih later
        exact ⟨_, bs, u, .ask first has, hbs, rfl⟩
  · rintro ⟨as, bs, u, has, hbs, rfl⟩
    induction has with
    | done w => exact hbs
    | ask first _ ih => exact .ask first (ih hbs)

end Outside

namespace Hold

variable {h k : Hold} {d : Timestamp} {as : List Answer} {w : ω}

/-- All that a hold asks, in order: every member, and then the parent. -/
def questions (h : Hold) (members : List Member) (parent : String) :
    List (String × RecordKind) :=
  members.map (fun m => (m.signer.address, h.signerKind)) ++ [(parent, h.parentKind)]

/-- A hold knows whom to ask, and all of them answer. -/
inductive Answered (h : Hold) (zone : DomainName) (o : Outside ω) (s : Session ω)
    (as : List Answer) (w : ω) : Prop
  | mk {members : List Member} {g : Group} (listed : s.state.members zone = .ok members)
      (nonempty : members ≠ []) (group : s.state.groups.get? zone = some g)
      (addressed : ∀ m ∈ members, m.signer.address.isEmpty = false)
      (parent : g.parent.isEmpty = false)
      (answers : o.Answers zone (h.questions members g.parent) s.world as w)

theorem exists_perform_askAnswer (label : String) {kind : RecordKind} {server : String}
    {a : Answer} :
    (∃ t, (askAnswer zone kind label server).perform o s = (.ok a, t) ∧ t.world = w) ↔
      o.query server zone kind s.world = (.ok a, w) := by
  simp only [askAnswer, perform_bind, perform_query]
  rcases o.query server zone kind s.world with ⟨e | b, v⟩
  · simp
  · simp only [perform_lines, perform_pure, Prod.mk.injEq, Except.ok.injEq]
    constructor
    · rintro ⟨t, ⟨rfl, rfl⟩, rfl⟩
      exact ⟨rfl, rfl⟩
    · rintro ⟨rfl, rfl⟩
      exact ⟨_, ⟨rfl, rfl⟩, rfl⟩

/-- A member is asked at its address, which it must have. -/
theorem exists_perform_askMember {kind : RecordKind} {m : Member} {a : Answer} :
    (∃ t, (do
        checkAddress m
        askAnswer zone kind m.name m.signer.address : Operation ω Answer).perform o s
          = (.ok a, t) ∧ t.world = w) ↔
      m.signer.address.isEmpty = false ∧
        o.query m.signer.address zone kind s.world = (.ok a, w) := by
  rw [← exists_perform_askAnswer m.name]
  simp only [perform_bind, perform_lift, checkAddress]
  cases m.signer.address.isEmpty <;> simp

/-- **The members are asked one after the other.** -/
theorem exists_perform_askMembers {kind : RecordKind} :
    ∀ {members : List Member} {s : Session ω} {as : List Answer},
      (∃ t, (members.mapM fun m => do
          checkAddress m
          askAnswer zone kind m.name m.signer.address : Operation ω (List Answer)).perform o s
            = (.ok as, t) ∧ t.world = w) ↔
        (∀ m ∈ members, m.signer.address.isEmpty = false) ∧
          o.Answers zone (members.map fun m => (m.signer.address, kind)) s.world as w
  | [], s, as => by
    rw [List.mapM_nil, perform_pure]
    constructor
    · rintro ⟨t, h, rfl⟩
      cases h
      exact ⟨by simp, .done _⟩
    · rintro ⟨-, h⟩
      cases h
      exact ⟨s, rfl, rfl⟩
  | m :: members, s, as => by
    rw [List.mapM_cons]
    constructor
    · rintro ⟨t, h, hw⟩
      obtain ⟨a, u, hu, h⟩ := perform_bind_eq_ok.1 h
      obtain ⟨bs, v, hv, h⟩ := perform_bind_eq_ok.1 h
      cases h
      obtain ⟨hm, hfirst⟩ := exists_perform_askMember.1 ⟨u, hu, rfl⟩
      obtain ⟨haddressed, hrest⟩ := exists_perform_askMembers.1 ⟨_, hv, hw⟩
      exact ⟨List.forall_mem_cons.2 ⟨hm, haddressed⟩, .ask hfirst hrest⟩
    · rintro ⟨haddressed, hanswers⟩
      obtain ⟨hm, haddressed⟩ := List.forall_mem_cons.1 haddressed
      cases hanswers with
      | @ask _ _ _ _ _ _ a bs first later =>
        obtain ⟨u, hu, rfl⟩ := exists_perform_askMember.2 ⟨hm, first⟩
        obtain ⟨v, hv, hw⟩ := exists_perform_askMembers.2 ⟨haddressed, later⟩
        exact ⟨v, perform_bind_eq_ok.2 ⟨a, u, hu, perform_bind_eq_ok.2 ⟨bs, v, hv, rfl⟩⟩, hw⟩

/-- The parent of a group that has one. -/
theorem parentAddress_eq_ok {parent : String} :
    (parentAddress zone).perform o s = (.ok parent, t) ↔
      ∃ g, s.state.groups.get? zone = some g ∧ g.parent.isEmpty = false ∧ g.parent = parent ∧
        t = s := by
  simp only [parentAddress, perform_bind, perform_state, perform_lift]
  cases hg : s.state.group zone with
  | error e =>
    refine iff_of_false nofun fun ⟨g, hfound, _⟩ => ?_
    rw [State.group_eq_ok.2 hfound] at hg
    cases hg
  | ok g =>
    have hfound : ∀ g', s.state.groups.get? zone = some g' ↔ g = g' := fun g' => by
      rw [State.group_eq_ok.1 hg, Option.some.injEq]
    simp only [hfound, exists_eq_left']
    cases g.parent.isEmpty with
    | true => simp only [if_true, perform_bind, perform_throw, Prod.mk.injEq, reduceCtorEq,
        false_and]
    | false => simp only [Bool.false_eq_true, if_false, perform_pure, Prod.mk.injEq,
        Except.ok.injEq, true_and, eq_comm]

theorem quiet_askMembers (h : Hold) (zone : DomainName) (members : List Member) :
    Quiet (members.mapM fun m => do
      checkAddress m
      askAnswer zone h.signerKind m.name m.signer.address : Operation ω (List Answer)) :=
  leaves_mapM (fun _ => leaves_bind (leaves_lift _) fun _ => quiet_askAnswer _ _ _ _) members

/-- **A hold gets its answers** just if it knows whom to ask, and all of them answer. -/
theorem exists_perform_answers :
    (∃ t, (h.answers zone).perform o s = (.ok as, t) ∧ t.world = w) ↔ h.Answered zone o s as w := by
  constructor
  · rintro ⟨t, hp, hw⟩
    rw [answers, perform_bind_eq_ok] at hp
    obtain ⟨members, u, hu, hp⟩ := hp
    obtain ⟨hlisted, hnonempty, rfl⟩ := groupMembers_eq_ok.1 hu
    rw [perform_bind_eq_ok] at hp
    obtain ⟨bs, v, hv, hp⟩ := hp
    obtain ⟨haddressed, hmembers⟩ := exists_perform_askMembers.1 ⟨v, hv, rfl⟩
    rw [perform_bind_eq_ok] at hp
    obtain ⟨parent, x, hx, hp⟩ := hp
    obtain ⟨g, hg, hparent, rfl, rfl⟩ := parentAddress_eq_ok.1 hx
    rw [perform_bind_eq_ok] at hp
    obtain ⟨a, y, hy, hp⟩ := hp
    cases hp
    have hlast := Outside.answers_singleton ((exists_perform_askAnswer _).1 ⟨_, hy, hw⟩)
    rw [(quiet_askMembers h zone members).state_eq hv] at hg
    exact .mk hlisted hnonempty hg haddressed hparent
      (Outside.answers_append.2 ⟨bs, [a], _, hmembers, hlast, rfl⟩)
  · rintro ⟨hlisted, hnonempty, hg, haddressed, hparent, hanswers⟩
    obtain ⟨bs, cs, u, hmembers, hlast, rfl⟩ := Outside.answers_append.1 hanswers
    obtain ⟨v, hv, rfl⟩ := exists_perform_askMembers.2 ⟨haddressed, hmembers⟩
    cases hlast with
    | @ask _ _ _ _ _ _ a _ first later =>
      cases later
      obtain ⟨y, hy, rfl⟩ := (exists_perform_askAnswer "parent").2 first
      rw [← (quiet_askMembers h zone _).state_eq hv] at hg
      refine ⟨y, ?_, rfl⟩
      rw [answers, perform_bind_eq_ok]
      refine ⟨_, s, groupMembers_eq_ok.2 ⟨hlisted, hnonempty, rfl⟩, ?_⟩
      rw [perform_bind_eq_ok]
      refine ⟨bs, v, hv, ?_⟩
      rw [perform_bind_eq_ok]
      refine ⟨_, v, parentAddress_eq_ok.2 ⟨_, hg, hparent, rfl, rfl⟩, ?_⟩
      rw [perform_bind_eq_ok]
      exact ⟨a, y, hy, rfl⟩

/-! ## 3. Deadlines in the document -/

/-- The deadline that is stored with the group of a zone. -/
def stored (h : Hold) (zone : DomainName) (σ : State) : Option Timestamp :=
  (σ.groups.get? zone).bind h.deadline

/-- The stored deadline, if there is one, can be written. -/
def Datable (h : Hold) (zone : DomainName) (σ : State) : Prop :=
  ∀ d, h.stored zone σ = some d → d.Writable

theorem deadline_withDeadline_of_ne (hk : k ≠ h) (x : Option Timestamp) (g : Group) :
    h.deadline (k.withDeadline x g) = h.deadline g := by
  cases h <;> cases k <;> first | exact absurd rfl hk | rfl

theorem stored_modifyGroup {g : Group} (hg : σ.groups.get? zone = some g)
    (x : Option Timestamp) : h.stored zone (σ.modifyGroup zone (h.withDeadline x)) = x := by
  rw [stored, State.get?_modifyGroup, hg]
  exact deadline_withDeadline h x g

/-- A deadline that is forgotten is not there. -/
theorem stored_clear (h : Hold) (zone : DomainName) (σ : State) :
    h.stored zone (h.clear zone σ) = none := by
  rw [stored, clear, State.get?_modifyGroup]
  cases σ.groups.get? zone with
  | none => rfl
  | some g => exact deadline_withDeadline h none g

/-- What is stored for other zones, or for the other hold, is another deadline. -/
theorem stored_modifyGroup_of_ne (hne : k ≠ h ∨ (z == zone) = false) (x : Option Timestamp)
    (σ : State) : h.stored zone (σ.modifyGroup z (k.withDeadline x)) = h.stored zone σ := by
  rw [stored, stored, State.modifyGroup, OrderedMap.get?_modify]
  split
  · rename_i hz
    have hz := BEq.symm (DomainName.compare_eq_iff_beq.1 hz)
    have hk := hne.resolve_right (by simp [hz])
    cases σ.groups.get? zone with
    | none => rfl
    | some g => exact deadline_withDeadline_of_ne hk x g
  · rfl

/-! ## 4. How a hold goes -/

/-- A deadline is worked out: everybody is asked and answers, the deadline lies twice the largest
time to live of these answers ahead, and the document changes in this deadline only.  Twice a time
to live, as machine integers of 64 bits have it, is twice a time to live. -/
inductive WorkedOut (h : Hold) (zone : DomainName) (o : Outside ω) (s t : Session ω)
    (d : Timestamp) : Prop
  | mk {as : List Answer} {ttl : UInt32} (answered : h.Answered zone o s as t.world)
      (largest : IsLargest ttl as)
      (exact : (2 * Int64.ofNat ttl.toNat).toInt = 2 * ttl.toNat)
      (deadline : d = (o.now s.world).addSeconds (2 * ttl.toNat))
      (state : t.state = s.state.modifyGroup zone (h.withDeadline (some d)))

/-- How a hold goes. -/
inductive Waits (h : Hold) (zone : DomainName) (o : Outside ω) (s : Session ω) :
    Except Error Timestamp → Session ω → Prop
  | told {d : Timestamp} {text : String} (found : h.stored zone s.state = some d)
      (written : d.text? = some text) :
      Waits h zone o s (.ok d) { s with
        transcript := s.transcript.line
          s!"Wait until {text} ({d.remainingSeconds (o.now s.world)}s)" }
  | untold {d : Timestamp} (found : h.stored zone s.state = some d) (unwritten : ¬ d.Writable) :
      Waits h zone o s (.error .timestampFormat) s
  | refused {e : Error} {t : Session ω} (none : h.stored zone s.state = none)
      (unanswered : ∀ as w, ¬ h.Answered zone o s as w) (same : t.state = s.state) :
      Waits h zone o s (.error e) t
  | worked {d : Timestamp} {t : Session ω} (none : h.stored zone s.state = none)
      (works : h.WorkedOut zone o s t d) (written : d.Writable) : Waits h zone o s (.ok d) t
  | lost {d : Timestamp} {t : Session ω} (none : h.stored zone s.state = none)
      (works : h.WorkedOut zone o s t d) (unwritten : ¬ d.Writable) :
      Waits h zone o s (.error .timestampFormat) t

theorem toInt_two_mul (ttl : UInt32) : (2 * Int64.ofNat ttl.toNat).toInt = 2 * ttl.toNat := by
  have hlt := ttl.toNat_lt
  rw [Int64.toInt_mul, Int64.toInt_ofNat_of_lt (by omega), show (2 : Int64).toInt = 2 from rfl]
  exact Int.bmod_eq_of_le (by omega) (by omega)

theorem not_answered {e : Error} {u : Session ω}
    (hask : (h.answers zone).perform o s = (.error e, u)) (as : List Answer) (w : ω) :
    ¬ h.Answered zone o s as w := by
  intro hanswered
  obtain ⟨t, hp, -⟩ := exists_perform_answers.2 hanswered
  rw [hask] at hp
  cases hp

/-- **A hold, taken apart**, however it goes. -/
theorem waits {r : Except Error Timestamp} (hp : (h.wait zone).perform o s = (r, t)) :
    Waits h zone o s r t := by
  simp only [wait, perform_bind, perform_now, perform_state, perform_lift] at hp
  cases hfound : s.state.group zone with
  | error e =>
    have hgroup : s.state.groups.get? zone = none := by
      cases hg : s.state.groups.get? zone with
      | none => rfl
      | some g =>
        rw [State.group_eq_ok.2 hg] at hfound
        cases hfound
    rw [hfound] at hp
    cases hp
    refine .refused (by rw [stored, hgroup]; rfl) (fun as w hanswered => ?_) rfl
    cases hanswered with
    | mk _ _ hg =>
      rw [hgroup] at hg
      cases hg
  | ok g =>
    have hg := State.group_eq_ok.1 hfound
    have hstored : h.stored zone s.state = h.deadline g := by rw [stored, hg]; rfl
    rw [hfound] at hp
    cases hd : h.deadline g with
    | some d =>
      simp only [hd, perform_bind, perform_report] at hp
      rw [hd] at hstored
      cases htext : d.text? with
      | none =>
        rw [htext] at hp
        cases hp
        exact .untold hstored (by simp [Timestamp.writable_iff, htext])
      | some text =>
        rw [htext] at hp
        cases hp
        exact .told hstored htext
    | none =>
      rw [hd] at hstored
      simp only [hd, perform_bind, largestTtl_eq, map_eq_pure_bind] at hp
      rcases hask : (h.answers zone).perform o s with ⟨e | as, u⟩
      all_goals
        have hstate := (quiet_answers h zone).state_eq hask
        rw [hask] at hp
      · cases hp
        exact .refused hstored (not_answered hask) hstate
      · have hworks : ∀ t : Session ω, t.world = u.world → t.state = u.state.modifyGroup zone
            (h.withDeadline (some ((o.now s.world).addSeconds (2 * (largest as).toNat)))) →
              h.WorkedOut zone o s t ((o.now s.world).addSeconds (2 * (largest as).toNat)) :=
          fun t hworld ht => .mk (exists_perform_answers.1 ⟨u, hask, hworld.symm⟩) (isLargest as)
            (toInt_two_mul _) rfl (hstate ▸ ht)
        simp only [perform_pure, perform_line, perform_modifyState, perform_report] at hp
        cases htext : ((o.now s.world).addSeconds (2 * (largest as).toNat)).text? with
        | none =>
          rw [htext] at hp
          cases hp
          exact .lost hstored (hworks _ rfl rfl) (by simp [Timestamp.writable_iff, htext])
        | some text =>
          rw [htext] at hp
          cases hp
          exact .worked hstored (hworks _ rfl rfl) (Timestamp.writable_iff.2 ⟨text, htext⟩)

theorem WorkedOut.stored {t : Session ω} (hworks : h.WorkedOut zone o s t d) :
    h.stored zone t.state = some d := by
  obtain ⟨⟨-, -, hg, -⟩, -, -, -, hstate⟩ := hworks
  rw [hstate]
  exact stored_modifyGroup hg (some d)

/-! ## 5. Between two holds -/

/-- What may happen to a document while a deadline is stored: somebody waits, on any network and
however that goes; another deadline is forgotten; the document is edited, without this deadline
being forgotten. -/
inductive Meanwhile (h : Hold) (zone : DomainName) : State → State → Prop
  | waited {ψ : Type} {k : Hold} {z : DomainName} {o : Outside ψ} {s t : Session ψ}
      {r : Except Error Timestamp} (hp : (k.wait z).perform o s = (r, t)) :
      Meanwhile h zone s.state t.state
  | cleared {k : Hold} {z : DomainName} (other : k ≠ h ∨ (z == zone) = false) (σ : State) :
      Meanwhile h zone σ (k.clear z σ)
  | edited {σ τ : State} (edit : State.Edit σ τ) (kept : h.stored zone τ ≠ none) :
      Meanwhile h zone σ τ

theorem stored_of_beq (hz : (z == zone) = true) (σ : State) :
    h.stored z σ = h.stored zone σ := by
  rw [stored, stored, State.groups_get?_of_beq _ hz]

/-- A hold does not touch deadlines that are stored. -/
theorem stored_of_wait {r : Except Error Timestamp} (hp : (k.wait z).perform o s = (r, t))
    (hd : h.stored zone s.state = some d) : h.stored zone t.state = some d := by
  have hworked : ∀ {d'}, k.stored z s.state = none → k.WorkedOut z o s t d' →
      h.stored zone t.state = some d := by
    rintro d' hnone ⟨-, -, -, -, hstate⟩
    have hne : k ≠ h ∨ (z == zone) = false := by
      by_contra hsame
      obtain ⟨rfl, hz⟩ := not_or.1 hsame |>.imp not_not.1 (Bool.not_eq_false _).mp
      rw [stored_of_beq hz, hd] at hnone
      cases hnone
    rw [hstate, stored_modifyGroup_of_ne hne, hd]
  cases waits hp with
  | told | untold => exact hd
  | refused _ _ same => rw [same, hd]
  | worked none works => exact hworked none works
  | lost none works => exact hworked none works

/-- No edit replaces a deadline by another one. -/
theorem stored_of_edit (he : State.Edit σ τ) (hkept : h.stored zone τ ≠ none) :
    h.stored zone τ = h.stored zone σ := by
  obtain ⟨direction, rfl⟩ : ∃ direction, h = Automation.holdOf direction := by
    cases h
    · exact ⟨.joining, rfl⟩
    · exact ⟨.leaving, rfl⟩
  cases hg' : τ.groups.get? zone with
  | none =>
    rw [stored, hg'] at hkept
    exact absurd rfl hkept
  | some g' =>
    rw [stored, hg', Option.bind_some] at hkept
    rcases State.steady_of_edit (d := direction) he g' hg' with hnone | ⟨g, hg, hsame, -⟩
    · exact absurd hnone hkept
    · rw [stored, stored, hg, hg', Option.bind_some, Option.bind_some, hsame]

/-- **What happens meanwhile keeps a stored deadline.** -/
theorem stored_of_meanwhile (hm : h.Meanwhile zone σ τ) (hd : h.stored zone σ = some d) :
    h.stored zone τ = some d := by
  cases hm with
  | waited hp => exact stored_of_wait hp hd
  | cleared other => rw [clear, stored_modifyGroup_of_ne other, hd]
  | edited edit kept => rw [stored_of_edit edit kept, hd]

/-- **A stored deadline is the same one later on.** -/
theorem stored_of_meanwhiles (hm : Relation.ReflTransGen (h.Meanwhile zone) σ τ)
    (hd : h.stored zone σ = some d) : h.stored zone τ = some d := by
  induction hm with
  | refl => exact hd
  | tail _ hm ih => exact stored_of_meanwhile hm ih

/-! ## 6. The gate -/

/-- A hold gives the stored deadline: nobody is asked, and all that is left is a line about it. -/
inductive Recalls (h : Hold) (zone : DomainName) (o : Outside ω) (s : Session ω) (d : Timestamp) :
    Prop
  | mk {text : String} (written : d.text? = some text)
      (run : (h.wait zone).perform o s = (.ok d, { s with
        transcript := s.transcript.line
          s!"Wait until {text} ({d.remainingSeconds (o.now s.world)}s)" }))

theorem recalls_of_stored (hd : h.stored zone s.state = some d) (hwritable : d.Writable) :
    h.Recalls zone o s d := by
  rcases hp : (h.wait zone).perform o s with ⟨r, t⟩
  cases waits hp with
  | told found written =>
    rw [hd] at found
    cases found
    exact .mk written hp
  | untold found unwritten =>
    rw [hd] at found
    cases found
    exact absurd hwritable unwritten
  | refused none | worked none | lost none =>
    rw [hd] at none
    cases none

/-- A hold works its deadline out: if it gives one, it is worked out from the answers that it gets;
if everybody answers, it gives one; and if it fails, the document is as it was. -/
structure Anew (h : Hold) (zone : DomainName) (o : Outside ω) (s t : Session ω)
    (r : Except Error Timestamp) : Prop where
  ok : ∀ d, r = .ok d → h.WorkedOut zone o s t d
  total : ∀ as w, h.Answered zone o s as w → ∃ d, r = .ok d
  error : ∀ e, r = .error e → t.state = s.state

theorem anew_of_none {r : Except Error Timestamp} (hp : (h.wait zone).perform o s = (r, t))
    (hnone : h.stored zone s.state = none) (hafter : h.Datable zone t.state) :
    h.Anew zone o s t r := by
  cases waits hp with
  | told found | untold found =>
    rw [hnone] at found
    cases found
  | refused _ unanswered same =>
    exact ⟨nofun, fun as w h => absurd h (unanswered as w), fun _ _ => same⟩
  | @worked d _ _ works =>
    exact ⟨fun _ h => by cases h; exact works, fun _ _ _ => ⟨d, rfl⟩, nofun⟩
  | lost _ works unwritten => exact absurd (hafter _ works.stored) unwritten

/-- **A hold is a gate.**  If a deadline is stored, the hold gives it, asks nobody and changes
nothing.  If none is stored, it is worked out from what everybody answers now and stored; a hold
that fails leaves the document as it was.  Once a hold has given a deadline, it gives the same one
whatever the networks serve later, until that is forgotten; then it is worked out anew. -/
theorem gate_of_wait {r : Except Error Timestamp} (hp : (h.wait zone).perform o s = (r, t))
    (hbefore : h.Datable zone s.state) (hafter : h.Datable zone t.state) :
    (∀ d, h.stored zone s.state = some d → r = .ok d ∧ h.Recalls zone o s d) ∧
    (h.stored zone s.state = none → h.Anew zone o s t r) ∧
    (∀ e, r = .error e → t.state = s.state) ∧
    ∀ d, r = .ok d → ∀ τ, Relation.ReflTransGen (h.Meanwhile zone) t.state τ →
      ∀ {ψ : Type} (o' : Outside ψ) (s' : Session ψ),
        (s'.state = τ → h.Recalls zone o' s' d) ∧
        (s'.state = h.clear zone τ → ∀ r' t', (h.wait zone).perform o' s' = (r', t') →
          h.Datable zone t'.state → h.Anew zone o' s' t' r') := by
  have hrecalls : ∀ d, h.stored zone s.state = some d → r = .ok d ∧ h.Recalls zone o s d := by
    intro d hd
    have hrecalls := recalls_of_stored (o := o) hd (hbefore d hd)
    refine ⟨?_, hrecalls⟩
    obtain ⟨-, hrun⟩ := hrecalls
    rw [hp] at hrun
    exact congrArg Prod.fst hrun
  refine ⟨hrecalls, fun hnone => anew_of_none hp hnone hafter, fun e he => ?_,
    fun d hd τ hm ψ o' s' => ⟨fun hs' => ?_, fun hs' r' t' hp' hafter' => ?_⟩⟩
  · subst he
    cases hs : h.stored zone s.state with
    | none => exact (anew_of_none hp hs hafter).error e rfl
    | some d => cases (hrecalls d hs).1
  · subst hd
    have hstored : h.stored zone t.state = some d := by
      cases waits hp with
      | told found => exact found
      | worked _ works => exact works.stored
    exact recalls_of_stored (by rw [hs', stored_of_meanwhiles hm hstored]) (hafter d hstored)
  · exact anew_of_none hp' (by rw [hs', stored_clear]) hafter'

end Hold

namespace Sample

/-- The signers are asked for their keys, and the parent for references to them. -/
def held : Except Error Timestamp × Session Int :=
  (Hold.ds.wait Sample.zone).perform outside (session document 0)

/-- A network on which nobody answers. -/
def mute : Outside Int :=
  { outside with query := fun server _ _ w => (.error (.missingAddress server), w) }

theorem stored_held : Hold.ds.stored Sample.zone held.2.state = some ⟨120000000000, 0⟩ := by
  decide +kernel

/-- Keys of a minute hold the group for two minutes, also when nobody answers any more. -/
theorem gate_of_held :
    Hold.ds.WorkedOut Sample.zone outside (session document 0) held.2 ⟨120000000000, 0⟩ ∧
    Hold.ds.Recalls Sample.zone mute (session held.2.state 5) ⟨120000000000, 0⟩ := by
  have hp : (Hold.ds.wait Sample.zone).perform outside (session document 0)
      = (.ok ⟨120000000000, 0⟩, held.2) := perform_of_fst (by decide +kernel)
  obtain ⟨-, hanew, -, hlater⟩ := Hold.gate_of_wait hp
    (fun d hd => by
      have hnone : Hold.ds.stored Sample.zone document = none := by decide +kernel
      rw [show (session document 0).state = document from rfl, hnone] at hd
      cases hd)
    (fun d hd => by
      rw [stored_held] at hd
      cases hd
      decide +kernel)
  exact ⟨(hanew (by decide +kernel)).ok _ rfl,
    (hlater _ rfl _ .refl mute (session held.2.state 5)).1 rfl⟩

end Sample
end MultiSigner
