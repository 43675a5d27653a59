/-
# No gate is skipped

Here a group walks undisturbed: after a change of members put it at the start of a walk, only steps
of the automation act on its record, while all else, other groups and the outside included, may
change at any time.  `no_gate_skipped` says what every such run looks like.  Each step leads to one
of four stages; no activity is left for the next one without what it stands for (`Cleared`); and a
run that ends in `ready` has passed all twelve activities, in order.

The hold needs a history, since its deadline is worked out in one step and looked at in others.  The
invariant is `Waits`: while a group is held, its deadline is the one that the first step of this
visit worked out, and at any other activity it has none.
-/
import MultiSigner.Proofs.Safety

namespace MultiSigner

open Operation Automation

variable {ω : Type} {c : Controller ω} {zone : DomainName} {d : Direction} {a : Activity}
  {e : Deed ω} {run : List (Deed ω)} {σ σ₀ : State}

/-! ## 1. What an activity stands for -/

/-- A run of deeds that all found the group held, the first of which is not preceded by another
one. -/
structure Visit (zone : DomainName) (d : Direction) (prior visit : List (Deed ω)) : Prop where
  held : ∀ f ∈ visit, f.stage? zone = some (.walking d .wait)
  fresh : ∀ p, prior.getLast? = some p → p.stage? zone ≠ some (.walking d .wait)

/-- The deed works a deadline out: it is told records whose largest time to live is the one
given. -/
def Deed.WorksOut (c : Controller ω) (zone : DomainName) (d : Direction) (ttl : UInt32)
    (e : Deed ω) : Prop :=
  ∃ z as u deadline v, (z == zone) = true ∧
    ((holdOf d).answers z).perform c.outside e.before = (.ok as, u) ∧ Hold.IsLargest ttl as ∧
    ((holdOf d).wait z).perform c.outside e.before = (.ok deadline, v)

/-- What has to be so before a group leaves an activity for the next one.  The past of the deed
comes first. -/
inductive Cleared (c : Controller ω) (zone : DomainName) (d : Direction) (past : List (Deed ω))
    (e : Deed ω) : Activity → Prop
  /-- The changes of every plan were sent, and every update was accepted. -/
  | act {a : Activity} {z : DomainName} {plans : List Plan} {m : Session ω} {us : List Update}
      (same : (z == zone) = true) (acts : acts a = true)
      (plan : (planning z a).perform c.outside e.before = (.ok plans, m))
      (updates : List.Forall₂ (fun p u => Push.update z m.state p = .ok u)
        (Push.effective plans) us)
      (sent : (e.after c).deliveries = e.before.deliveries ++ us.map fun u => ⟨u, .ok ()⟩) :
      Cleared c zone d past e a
  /-- The answers to this very deed were as the check wants them. -/
  | check {a : Activity} {z : DomainName} {flag : SyncFlag} {views : List SignerView}
      {parent : ParentView} {u : Session ω} {f : SyncFlags}
      (same : (z == zone) = true) (check : work z d a = (.check flag : Work ω))
      (ask : (Status.ask z).perform c.outside e.before = (.ok (views, parent), u))
      (flags : (Evaluation.ofViews z views parent u.state.dnskeyOrigin).flags = .ok f)
      (met : f.get flag = true) : Cleared c zone d past e a
  /-- The clock reads at least twice the largest time to live after the first deed of the visit. -/
  | hold {z : DomainName} {prior visit : List (Deed ω)} {first : Deed ω} {ttl : UInt32}
      {deadline : Timestamp} {u : Session ω}
      (split : past ++ [e] = prior ++ first :: visit) (visit : Visit zone d prior (first :: visit))
      (asks : first.WorksOut c zone d ttl)
      (same : (z == zone) = true)
      (wait : ((holdOf d).wait z).perform c.outside e.before = (.ok deadline, u))
      (late : (c.outside.now first.before.world).nanos + 2 * ttl.toNat * Timestamp.second
        ≤ (c.outside.now u.world).nanos) : Cleared c zone d past e .wait

/-! ## 2. Deadlines along a run -/

/-- How the deadline of a group came about.  While the group is held, it is the one that the first
deed of the visit worked out; at any other activity there is none. -/
structure Waits (c : Controller ω) (zone : DomainName) (d : Direction) (run : List (Deed ω))
    (g : Group) : Prop where
  idle : ∀ a, g.stage = .walking d a → a ≠ .wait → (holdOf d).deadline g = none
  held : g.stage = .walking d .wait → ∃ prior visit, run = prior ++ visit ∧
    Visit zone d prior visit ∧
    match visit with
    | [] => (holdOf d).deadline g = none
    | first :: _ => ∃ ttl, first.WorksOut c zone d ttl ∧ (holdOf d).deadline g
        = some ((c.outside.now first.before.world).addSeconds (2 * ttl.toNat))

theorem retry_ne_next (d : Direction) (a : Activity) :
    (Stage.walking d a).retry ≠ (Stage.walking d a).next := by
  cases d <;> cases a <;> decide

/-- The visit that a deed continues or begins. -/
theorem exists_visit {g : Group} {z : DomainName} {deadline : Timestamp} {u : Session ω}
    (hw : Waits c zone d run g) (hz : (z == zone) = true)
    (hg : e.before.state.groups.get? z = some g) (hstage : g.stage = .walking d .wait)
    (hwait : ((holdOf d).wait z).perform c.outside e.before = (.ok deadline, u)) :
    ∃ prior first visit ttl, run ++ [e] = prior ++ first :: visit ∧
      Visit zone d prior (first :: visit) ∧ first.WorksOut c zone d ttl ∧
      deadline = (c.outside.now first.before.world).addSeconds (2 * ttl.toNat) ∧
      (u.state.groups.get? z).map (holdOf d).deadline = some (some deadline) := by
  have hfound : e.stage? zone = some (.walking d .wait) := by
    rw [Deed.stage?, ← State.groups_get?_of_beq _ hz, hg, Option.map_some, hstage]
  obtain ⟨g', hg', hsets⟩ := Hold.wait_eq_ok hwait
  rw [hg] at hg'
  cases hg'
  obtain ⟨prior, visit, rfl, hvisit, hdeadline⟩ := hw.held hstage
  cases visit with
  | nil =>
    cases hsets with
    | stored hd _ =>
      rw [hdeadline] at hd
      cases hd
    | fresh _ has hstate =>
      refine ⟨prior, e, [], _, by rw [List.append_nil], ⟨?_, ?_⟩,
        ⟨z, _, _, _, _, hz, has, Hold.isLargest _, hwait⟩, rfl, ?_⟩
      · intro f hf
        rw [List.mem_singleton.1 hf]
        exact hfound
      · exact hvisit.fresh
      · rw [hstate, State.get?_modifyGroup, hg, Option.map_some, Option.map_some,
          Hold.deadline_withDeadline]
  | cons first visit =>
    obtain ⟨ttl, hworks, hd'⟩ := hdeadline
    cases hsets with
    | stored hd hstate =>
      rw [hd'] at hd
      cases hd
      refine ⟨prior, first, visit ++ [e], ttl, by simp, ⟨?_, hvisit.fresh⟩, hworks, rfl, ?_⟩
      · intro f hf
        rcases List.mem_append.1 (List.cons_append ▸ hf) with hf | hf
        · exact hvisit.held f hf
        · rw [List.mem_singleton.1 hf]
          exact hfound
      · rw [hstate, hg, Option.map_some, hd']
    | fresh hd _ _ =>
      rw [hd'] at hd
      cases hd

/-- **Work that leads on clears its activity.** -/
theorem cleared_of_worked {g : Group} {z : DomainName} {next : Stage} {u : Session ω}
    (hw : Waits c zone d run g) (hz : (z == zone) = true)
    (hg : e.before.state.groups.get? z = some g) (hstage : g.stage = .walking d a)
    (hwork : Worked z d c.outside e.before a next u)
    (hsent : (e.after c).deliveries = u.deliveries) (hnext : next = (Stage.walking d a).next) :
    Cleared c zone d run e a := by
  cases hwork with
  | pushed hacts hplan hupdates hus _ =>
    exact .act hz hacts hplan hupdates (hsent.trans hus)
  | met hcheck hask hflags hmet _ => exact .check hz hcheck hask hflags hmet
  | unmet _ _ => exact absurd hnext (retry_ne_next d a)
  | held _ _ => exact absurd hnext.symm (next_ne_self d .wait)
  | expired hwait hlate _ _ =>
    obtain ⟨prior, first, visit, ttl, hsplit, hvisit, hworks, rfl, -⟩ :=
      exists_visit hw hz hg hstage hwait
    exact .hold hsplit hvisit hworks hz hwait (Int.not_lt.1 (of_decide_eq_false hlate))

/-- A group without a deadline that was not found held. -/
theorem waits_of_none {g' : Group} (hnone : (holdOf d).deadline g' = none)
    (hfound : e.stage? zone ≠ some (.walking d .wait)) : Waits c zone d (run ++ [e]) g' where
  idle _ _ _ := hnone
  held _ := by
    refine ⟨run ++ [e], [], by simp, ⟨by simp, fun p hp => ?_⟩, hnone⟩
    rw [List.getLast?_concat] at hp
    cases hp
    exact hfound

/-- Work other than a hold keeps the deadline. -/
theorem deadline_of_worked {z : DomainName} {next : Stage} {s u : Session ω} {o : Outside ω}
    (hwork : Worked z d o s a next u) (ha : a ≠ .wait) (h : Hold) :
    (u.state.groups.get? z).map h.deadline = (s.state.groups.get? z).map h.deadline := by
  cases hwork with
  | pushed _ hplan _ _ hstate =>
    have hplanned := congrArg Prod.fst ((leaves_planning z a).rel_of_perform hplan)
    rw [hstate, State.groups_of_withoutOrigins hplanned]
  | met _ _ _ _ hrest | unmet _ hrest => exact deadline_of_unflagged h hrest
  | held _ _ | expired _ _ _ _ => exact absurd rfl ha

/-- **A step keeps what is known of deadlines.** -/
theorem Waits.step {g g' : Group} {z : DomainName} {u : Session ω} (hw : Waits c zone d run g)
    (hz : (z == zone) = true) (hg : e.before.state.groups.get? z = some g)
    (hstage : g.stage = .walking d a) (hwork : Worked z d c.outside e.before a g'.stage u)
    (hu : (u.state.groups.get? z).map (holdOf d).deadline = some ((holdOf d).deadline g')) :
    Waits c zone d (run ++ [e]) g' := by
  by_cases ha : a = .wait
  · subst ha
    generalize hnext : g'.stage = next at hwork
    cases hwork with
    | pushed hacts => cases hacts
    | met hcheck => cases hcheck
    | unmet hcheck => cases hcheck
    | held hwait _ =>
      obtain ⟨prior, first, visit, ttl, hsplit, hvisit, hworks, hd, hdeadline⟩ :=
        exists_visit hw hz hg hstage hwait
      refine ⟨fun b hb hne => ?_, fun _ => ⟨prior, first :: visit, hsplit, hvisit, ttl, hworks, ?_⟩⟩
      · rw [hnext] at hb
        cases hb
        exact absurd rfl hne
      · rw [hdeadline, hd] at hu
        exact (Option.some.inj hu).symm
    | expired hwait _ hstate _ =>
      obtain ⟨-, -, -, -, -, -, -, -, hdeadline⟩ := exists_visit hw hz hg hstage hwait
      obtain ⟨gu, hgu, -⟩ := Option.map_eq_some_iff.1 hdeadline
      refine ⟨fun _ _ _ => ?_, fun hheld => ?_⟩
      · rw [hstate, Hold.clear, State.get?_modifyGroup, hgu, Option.map_some, Option.map_some,
          Hold.deadline_withDeadline] at hu
        exact (Option.some.inj hu).symm
      · rw [hnext] at hheld
        exact absurd hheld (next_ne_self d .wait)
  · refine waits_of_none ?_ ?_
    · rw [deadline_of_worked hwork ha, hg, Option.map_some, hw.idle a hstage ha] at hu
      exact (Option.some.inj hu).symm
    · rw [Deed.stage?, ← State.groups_get?_of_beq _ hz, hg, Option.map_some, hstage]
      intro h
      cases h
      exact ha rfl

/-! ## 3. Undisturbed walks -/

/-- What is known of a run in which a group walks undisturbed. -/
structure Undisturbed (c : Controller ω) (zone : DomainName) (d : Direction)
    (run : List (Deed ω)) (g : Group) : Prop where
  waits : Waits c zone d run g
  walked : ∀ d' a, g.stage = .walking d' a → d' = d ∧ Walked (Deed.Passes c zone d) d a run
  ready : g.stage = .ready → List.SublistForall₂ (Deed.Passes c zone d) d.activities run

/-- What holds of one deed, given the deeds before it. -/
structure Orderly (c : Controller ω) (zone : DomainName) (d : Direction) (past : List (Deed ω))
    (e : Deed ω) : Prop where
  led : ∃ s s', e.stage? zone = some s ∧ e.stageAfter? c zone = some s' ∧
    (s' = s ∨ s' = s.next ∨ s' = s.retry ∨ s' = .error)
  cleared : ∀ d' a, e.stage? zone = some (.walking d' a) →
    e.stageAfter? c zone = some (Stage.walking d' a).next → d' = d ∧ Cleared c zone d past e a

theorem next_ne_error (d : Direction) (a : Activity) : (Stage.walking d a).next ≠ .error := by
  cases d <;> cases a <;> decide

theorem retry_ne_ready (d : Direction) (a : Activity) : (Stage.walking d a).retry ≠ .ready := by
  cases d <;> cases a <;> decide

theorem exists_of_isWalking {stage : Stage} (h : stage.isWalking = true) :
    ∃ d a, stage = .walking d a := by
  cases stage with
  | walking d a => exact ⟨d, a, rfl⟩
  | ready | manual | error => cases h

/-- A group that rests goes on resting. -/
theorem Undisturbed.rest {g g' : Group} (h : Undisturbed c zone d run g)
    (hrests : g.stage.isWalking = false) (hsame : g'.stage = g.stage) (e : Deed ω) :
    Undisturbed c zone d (run ++ [e]) g' := by
  have hno : ∀ d' a, g'.stage ≠ .walking d' a := fun d' a hwalk => by
    rw [← hsame, hwalk] at hrests
    cases hrests
  refine ⟨⟨fun a ha => absurd ha (hno d a), fun hw => absurd hw (hno d .wait)⟩,
    fun d' a ha => absurd ha (hno d' a), fun hready => ?_⟩
  exact sublistForall₂_prefix (h.ready (hsame ▸ hready)) (List.prefix_refl _)
    (List.sublist_append_left _ _)

/-- A group in the error stage. -/
theorem undisturbed_of_error {g : Group} (herror : g.stage = .error) (run : List (Deed ω)) :
    Undisturbed c zone d run g := by
  refine ⟨⟨fun a ha => ?_, fun hw => ?_⟩, fun d' a ha => ?_, fun hready => ?_⟩
  · rw [herror] at ha
    cases ha
  · rw [herror] at hw
    cases hw
  · rw [herror] at ha
    cases ha
  · rw [herror] at hready
    cases hready

/-- A group that walks goes on, and clears the activity that it leaves. -/
theorem Undisturbed.walk {g g' : Group} {z : DomainName} {u : Session ω}
    (h : Undisturbed c zone d run g) (he : e.Steps c zone) (hz : (z == zone) = true)
    (hg : e.before.state.groups.get? z = some g) (hstage : g.stage = .walking d a)
    (hleft : e.stageAfter? c zone = some g'.stage)
    (hled : Led z c.outside e.before (.walking d a) g'.stage)
    (hwork : Worked z d c.outside e.before a g'.stage u)
    (hu : (u.state.groups.get? z).map (holdOf d).deadline = some ((holdOf d).deadline g')) :
    Undisturbed c zone d (run ++ [e]) g' := by
  have hpass : g'.stage = (Stage.walking d a).next → e.Passes c zone d a := fun hnext => by
    refine ⟨he, ?_, by rw [hleft, hnext], ?_⟩
    · rw [Deed.stage?, ← State.groups_get?_of_beq _ hz, hg, Option.map_some, hstage]
    · rintro rfl
      rw [hnext] at hled
      exact Deed.holdOver_of_led hz hled
  have hwalked := (h.walked d a hstage).2
  refine ⟨h.waits.step hz hg hstage hwork hu, fun d' b hb => ?_, fun hready => ?_⟩
  · exact hwalked.led hled hpass hb
  · rcases hled.cases with hsame | hnext | hretry | herror
    · rw [hready] at hsame
      cases hsame
    · exact hwalked.ready (hpass hnext) (hnext.symm.trans hready)
    · exact absurd (hretry.symm.trans hready) (retry_ne_ready d a)
    · rw [hready] at herror
      cases herror

/-- **One step of an undisturbed walk.** -/
theorem Undisturbed.step {g : Group} (h : Undisturbed c zone d run g) (he : e.Steps c zone)
    (hg : e.before.state.groups.get? zone = some g) :
    Orderly c zone d run e ∧ ∃ g', (e.after c).state.groups.get? zone = some g' ∧
      Undisturbed c zone d (run ++ [e]) g' := by
  obtain ⟨z, r, t, hz, hstep, hlasting⟩ := he.stepped
  obtain ⟨hstate, -, -, hsent⟩ := Session.lasting_eq_iff.1 hlasting
  have hgz : e.before.state.groups.get? z = some g := by
    rw [State.groups_get?_of_beq _ hz, hg]
  obtain ⟨-, g', hg'z, hled, -⟩ := hstep.after hgz
  have hg' : (e.after c).state.groups.get? zone = some g' := by
    rw [hstate, ← State.groups_get?_of_beq _ hz, hg'z]
  have hfound : e.stage? zone = some g.stage := by rw [Deed.stage?, hg, Option.map_some]
  have hleft : e.stageAfter? c zone = some g'.stage := by
    rw [Deed.stageAfter?, hg', Option.map_some]
  cases hw : g.stage.isWalking with
  | false =>
    have hsame := hled.eq_of_rests hw
    refine ⟨⟨⟨_, _, hfound, hleft, hled.cases⟩, fun d' a ha _ => ?_⟩, g', hg', h.rest hw hsame e⟩
    rw [hfound] at ha
    rw [Option.some.inj ha] at hw
    cases hw
  | true =>
    obtain ⟨d', a, hstage⟩ := exists_of_isWalking hw
    obtain ⟨rfl, -⟩ := h.walked d' a hstage
    rw [hstage] at hled hfound
    rcases hstep.worked hgz hstage hg'z with herror | ⟨u, hwork, hu, hdeadline⟩
    · refine ⟨⟨⟨_, _, hfound, hleft, hled.cases⟩, fun d'' b hb hnext => ?_⟩, g', hg',
        undisturbed_of_error herror _⟩
      rw [hleft, herror] at hnext
      exact absurd (Option.some.inj hnext).symm (next_ne_error d'' b)
    · refine ⟨⟨⟨_, _, hfound, hleft, hled.cases⟩, fun d'' b hb hnext => ?_⟩, g', hg',
        h.walk he hz hgz hstage hleft hled hwork (hdeadline _)⟩
      rw [hfound] at hb
      cases hb
      rw [hleft] at hnext
      exact ⟨rfl, cleared_of_worked h.waits hz hgz hstage hwork (hsent.trans hu)
        (Option.some.inj hnext)⟩

/-! ## 4. Runs -/

/-- What is known at the start of a walk. -/
theorem undisturbed_of_restarted (g : Group) : Undisturbed c zone d [] (restarted d g) where
  waits := by
    refine ⟨fun _ _ _ => by cases d <;> rfl, fun _ => ⟨[], [], rfl, ⟨by simp, by simp⟩, ?_⟩⟩
    cases d <;> rfl
  walked d' a ha := by
    cases ha
    exact ⟨rfl, walked_first _ d _⟩
  ready hready := by cases d <;> cases hready

/-- **The invariant of undisturbed walks.** -/
theorem undisturbed_of_run {g₀ : Group}
    (hrun : Run c (fun σ τ => τ.groups.get? zone = σ.groups.get? zone)
      (fun e => e.Steps c zone) σ₀ run σ)
    (hstart : σ₀.groups.get? zone = some (restarted d g₀)) :
    (∀ past e later, run = past ++ e :: later → Orderly c zone d past e) ∧
      ∃ g, σ.groups.get? zone = some g ∧ Undisturbed c zone d run g := by
  induction hrun with
  | start =>
    refine ⟨fun past e later h => ?_, _, hstart, undisturbed_of_restarted g₀⟩
    cases past <;> cases h
  | deed _ hbefore hsteps ih =>
    obtain ⟨horderly, g, hg, hknown⟩ := ih
    obtain ⟨he, hafter⟩ := hknown.step hsteps (hbefore.trans hg)
    exact ⟨forall_split_snoc horderly he, hafter⟩

/-- **No gate is skipped.**  A change of members put a group at the start of a walk, and since then
only steps of the automation act on it.  Then each step leaves it in its stage, in the next one, in
the one to go back to or in the error stage; an activity is left for the next one only when it is
cleared; and a run that ends in `ready` has passed the twelve activities of the walk, in order, each
of them cleared. -/
theorem no_gate_skipped {g₀ : Group}
    (hrun : Run c (fun σ τ => τ.groups.get? zone = σ.groups.get? zone)
      (fun e => e.Steps c zone) σ₀ run σ)
    (hstart : σ₀.groups.get? zone = some (restarted d g₀)) :
    (∀ e ∈ run, ∃ s s', e.stage? zone = some s ∧ e.stageAfter? c zone = some s' ∧
      (s' = s ∨ s' = s.next ∨ s' = s.retry ∨ s' = .error)) ∧
    (∀ past e later, run = past ++ e :: later → ∀ d' a, e.stage? zone = some (.walking d' a) →
      e.stageAfter? c zone = some (Stage.walking d' a).next →
      d' = d ∧ Cleared c zone d past e a) ∧
    ((σ.groups.get? zone).map Group.stage = some .ready →
      List.SublistForall₂ (fun a e => e.Passes c zone d a ∧
        ∃ past later, run = past ++ e :: later ∧ Cleared c zone d past e a) d.activities run) := by
  obtain ⟨horderly, g, hg, hknown⟩ := undisturbed_of_run hrun hstart
  refine ⟨fun e he => ?_, fun past e later hsplit => (horderly past e later hsplit).cleared,
    fun hready => ?_⟩
  · obtain ⟨past, later, hsplit⟩ := List.append_of_mem he
    exact (horderly past e later hsplit).led
  · rw [hg, Option.map_some] at hready
    refine sublistForall₂_imp (hknown.ready (Option.some.inj hready)) fun a e he hpass => ?_
    obtain ⟨past, later, hsplit⟩ := List.append_of_mem he
    exact ⟨hpass, past, later, hsplit,
      ((horderly past e later hsplit).cleared d a hpass.found hpass.left).2⟩

namespace Sample

/-- The document in which the group begins to walk. -/
def walkStart : State :=
  document.modifyGroup Sample.zone (restarted .joining)

/-- Steps at one time up to the hold, and two minutes later the rest. -/
def walkTimes : List Int :=
  [0, 0, 0, 0, 0, 0, 0, 60000000000, 120000000000, 120000000000, 120000000000, 120000000000,
    120000000000, 120000000000]

end Sample

/-- A walk of the sample group, which is held for a minute and then for another one, passes its
twelve activities. -/
theorem no_gate_skipped_by_sample :
    ((Sample.afterTicks Sample.walkStart Sample.walkTimes).groups.get? Sample.zone).map Group.stage
        = some .ready ∧
      List.SublistForall₂ (fun a e => e.Passes Sample.controller Sample.zone .joining a ∧
          ∃ past later, Sample.ticks Sample.walkStart Sample.walkTimes = past ++ e :: later ∧
            Cleared Sample.controller Sample.zone .joining past e a)
        Direction.joining.activities (Sample.ticks Sample.walkStart Sample.walkTimes) := by
  have hready : ((Sample.afterTicks Sample.walkStart Sample.walkTimes).groups.get?
      Sample.zone).map Group.stage = some .ready := by decide +kernel
  have hrun : Run Sample.controller
      (fun σ τ => τ.groups.get? Sample.zone = σ.groups.get? Sample.zone)
      (fun e => e.Steps Sample.controller Sample.zone) Sample.walkStart
      (Sample.ticks Sample.walkStart Sample.walkTimes)
      (Sample.afterTicks Sample.walkStart Sample.walkTimes) := by
    refine Sample.run_ticks ?_ ?_ _ _
    · exact fun _ => rfl
    · exact Sample.steps_tick
  have hstart : Sample.walkStart.groups.get? Sample.zone
      = some (restarted .joining Sample.group) := by decide +kernel
  exact ⟨hready, (no_gate_skipped hrun hstart).2.2 hready⟩

end MultiSigner
