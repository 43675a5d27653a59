/-
# How long holds last

The deadline of a hold is stored with its group, and whoever finds one goes by it.  Here anybody may
do anything between the steps of a group: the runs of this module interleave all commands and steps
in any order, but for work that is done by name in manual mode.

A deed either keeps the deadline of a group, forgets it, or works it out anew (`Deed.Times`).  The
invariant is `Timed`: a deadline that can be told was worked out in the run, either since the group
came into the stage of the hold, or by a command before that.

* `hold_lasts`: a hold that was not asked for by a command beforehand lasts twice the largest time
  to live from when the group came to it; one that was lasts as long from the command on.
-/
import MultiSigner.Proofs.Commands
import MultiSigner.Proofs.Entries
import MultiSigner.Proofs.Gates

namespace MultiSigner

open Operation Automation
open Hold (Moot)

variable {ω α : Type} {c : Controller ω} {zone z : DomainName} {d : Direction} {e : Deed ω}
  {run : List (Deed ω)} {σ τ σ₀ : State}

/-! ## 1. Deadlines that stay -/

/-- Whatever deadline the group of a zone has was there before, and if the group was held then, it
still is. -/
def State.Steady (zone : DomainName) (d : Direction) (σ τ : State) : Prop :=
  ∀ g', τ.groups.get? zone = some g' → (holdOf d).deadline g' = none ∨
    ∃ g, σ.groups.get? zone = some g ∧ (holdOf d).deadline g' = (holdOf d).deadline g ∧
      (g.stage = .walking d .wait → g'.stage = .walking d .wait)

namespace State

theorem steady_of_groups (h : τ.groups = σ.groups) : Steady zone d σ τ := fun g' hg' =>
  .inr ⟨g', h ▸ hg', rfl, id⟩

theorem Steady.trans {υ : State} (h : Steady zone d σ τ) (k : Steady zone d τ υ) :
    Steady zone d σ υ := by
  intro g'' hg''
  rcases k g'' hg'' with hnone | ⟨g', hg', hsame', hheld'⟩
  · exact .inl hnone
  · rcases h g' hg' with hnone | ⟨g, hg, hsame, hheld⟩
    · exact .inl (hsame'.trans hnone)
    · exact .inr ⟨g, hg, hsame'.trans hsame, hheld' ∘ hheld⟩

/-- A change of a group that forgets the deadline, or keeps it and does not end a hold. -/
theorem steady_of_modify {f : Group → Group} (h : τ.groups = (σ.modifyGroup z f).groups)
    (hf : ∀ g, σ.groups.get? z = some g → (z == zone) = true → (holdOf d).deadline (f g) = none ∨
      (holdOf d).deadline (f g) = (holdOf d).deadline g ∧
        (g.stage = .walking d .wait → (f g).stage = .walking d .wait)) :
    Steady zone d σ τ := by
  intro g' hg'
  rw [h, modifyGroup, OrderedMap.get?_modify] at hg'
  split at hg'
  · rename_i hz
    have hz := BEq.symm (DomainName.compare_eq_iff_beq.1 hz)
    obtain ⟨g, hg, rfl⟩ := Option.map_eq_some_iff.1 hg'
    rcases hf g (by rw [groups_get?_of_beq _ hz, hg]) hz with hnone | hsame
    · exact .inl hnone
    · exact .inr ⟨g, hg, hsame⟩
  · exact .inr ⟨g', hg', rfl, id⟩

/-- A change of a group that concerns neither stage nor deadlines. -/
theorem steady_of_untimed {f : Group → Group} (h : τ.groups = (σ.modifyGroup z f).groups)
    (hstage : ∀ g, (f g).stage = g.stage) (hds : ∀ g, (f g).waitDs = g.waitDs)
    (hns : ∀ g, (f g).waitNs = g.waitNs) : Steady zone d σ τ := by
  refine steady_of_modify h fun g _ _ => .inr ⟨?_, fun hheld => (hstage g).trans hheld⟩
  cases d with
  | joining => exact hds g
  | leaving => exact hns g

/-- A change of the stage of a group that rests. -/
theorem steady_of_moved {f : Group → Group} (h : τ.groups = (σ.modifyGroup z f).groups) {g : Group}
    (hg : σ.groups.get? z = some g) (hrests : g.stage.isWalking = false)
    (hds : ∀ g, (f g).waitDs = g.waitDs) (hns : ∀ g, (f g).waitNs = g.waitNs) :
    Steady zone d σ τ := by
  refine steady_of_modify h fun g' hg' _ => .inr ⟨?_, fun hheld => ?_⟩
  · cases d with
    | joining => exact hds g'
    | leaving => exact hns g'
  · rw [hg] at hg'
    cases hg'
    rw [hheld] at hrests
    cases hrests

/-- A change of the group of another zone. -/
theorem steady_of_elsewhere {f : Group → Group} (h : τ.groups = (σ.modifyGroup z f).groups)
    (hz : (z == zone) = false) : Steady zone d σ τ :=
  steady_of_modify h fun g _ hz' => by
    rw [hz] at hz'
    cases hz'

theorem groups_of_setEntry {key value : String} (h : σ.setEntry key value = .ok τ) :
    τ.groups = σ.groups ∨
      ∃ z ttl, τ.groups = (σ.modifyGroup z fun g => { g with ttl := ttl }).groups := by
  cases setEntry_eq_ok.1 h with
  | secret => exact .inl rfl
  | token => exact .inl rfl
  | ttl => exact .inr ⟨_, _, rfl⟩
  | setting => exact .inl rfl

theorem groups_of_removeEntry {key : String} {changed : Bool}
    (h : σ.removeEntry key = .ok (changed, τ)) :
    τ.groups = σ.groups ∨
      ∃ z ttl, τ.groups = (σ.modifyGroup z fun g => { g with ttl := ttl }).groups := by
  rcases erased_or_eq h with herased | rfl
  · cases herased with
    | ttl => exact .inr ⟨_, _, rfl⟩
    | secret => exact .inl rfl
    | token => exact .inl rfl
    | keyOrigin => exact .inl rfl
    | nameOrigin => exact .inl rfl
    | setting => exact .inl rfl
  · exact .inl rfl

/-- **No edit ends a hold** without forgetting its deadline. -/
theorem steady_of_edit (he : Edit σ τ) : Steady zone d σ τ := by
  cases he with
  | addGroup hτ =>
    unfold addGroup at hτ
    split at hτ
    · cases hτ
    · cases hτ
      intro g' hg'
      rw [OrderedMap.get?_insert] at hg'
      split at hg'
      · cases hg'
        exact .inl (by cases d <;> rfl)
      · exact .inr ⟨g', hg', rfl, id⟩
  | removeGroup hτ =>
    obtain ⟨g, -, hτ⟩ := bind_eq_ok.1 hτ
    split at hτ
    · cases hτ
    · cases hτ
      intro g' hg'
      rw [OrderedMap.get?_erase] at hg'
      split at hg'
      · cases hg'
      · exact .inr ⟨g', hg', rfl, id⟩
  | @addSigner _ z nameserver name address hτ =>
    have hgroups : τ.groups
        = (σ.modifyGroup z fun g => { g with signers := g.signers ++ [name] }).groups :=
      (addSigner_eq_ok hτ).2.2.2
    refine steady_of_untimed hgroups ?_ ?_ ?_
    all_goals exact fun _ => rfl
  | removeSigner hτ =>
    obtain ⟨signer, -, hτ⟩ := bind_eq_ok.1 hτ
    cases hτ
    refine steady_of_untimed rfl ?_ ?_ ?_
    all_goals exact fun _ => rfl
  | modifySigner | addAutostart | removeAutostart => exact steady_of_groups rfl
  | restart d' _ => exact steady_of_modify rfl fun g _ _ => .inl (by cases d <;> rfl)
  | flags z f =>
    refine steady_of_untimed rfl ?_ ?_ ?_
    all_goals exact fun _ => rfl
  | @dnskeyOrigins z views hviews =>
    exact steady_of_groups (groups_of_withoutOrigins (withoutOrigins_dnskeyOrigins views σ))
  | @nsOrigins z views hviews =>
    exact steady_of_groups (groups_of_withoutOrigins (withoutOrigins_nsOrigins views σ))
  | clearError stage hg hfailed =>
    refine steady_of_moved rfl hg (by rw [hfailed]; rfl) ?_ ?_
    all_goals exact fun _ => rfl
  | enterManual hg hrests =>
    refine steady_of_moved rfl hg ?_ ?_ ?_
    · rcases hrests with h | h <;> rw [h] <;> rfl
    all_goals exact fun _ => rfl
  | resume stage hg hmanual =>
    refine steady_of_moved rfl hg (by rw [hmanual]; rfl) ?_ ?_
    all_goals exact fun _ => rfl
  | setEntry hτ =>
    rcases groups_of_setEntry hτ with h | ⟨z, ttl, h⟩
    · exact steady_of_groups h
    · refine steady_of_untimed h ?_ ?_ ?_
      all_goals exact fun _ => rfl
  | removeEntry hτ =>
    rcases groups_of_removeEntry hτ with h | ⟨z, ttl, h⟩
    · exact steady_of_groups h
    · refine steady_of_untimed h ?_ ?_ ?_
      all_goals exact fun _ => rfl

theorem steady_of_edits (h : Relation.ReflTransGen Edit σ τ) : Steady zone d σ τ := by
  induction h with
  | refl => exact steady_of_groups rfl
  | tail _ he ih => exact ih.trans (steady_of_edit he)

/-- **What is done to another group** does not, either. -/
theorem steady_of_changes (h : Relation.ReflTransGen (Change z) σ τ) (hz : (z == zone) = false) :
    Steady zone d σ τ := by
  induction h with
  | refl => exact steady_of_groups rfl
  | tail _ hc ih =>
    refine ih.trans ?_
    cases hc with
    | edit he => exact steady_of_edit he
    | group _ => exact steady_of_elsewhere rfl hz

end State

/-- The deadline of a group stays, or is forgotten. -/
def Footprint.steady (zone : DomainName) (d : Direction) : Footprint ω where
  rel s t := State.Steady zone d s.state t.state
  refl _ := State.steady_of_groups rfl
  trans h k := h.trans k

theorem Operation.Leaves.steady {op : Operation ω α} (h : Leaves .edited op) :
    Leaves (.steady zone d) op :=
  h.mono fun _ _ => State.steady_of_edits

/-- The other hold keeps a deadline of its own. -/
theorem steady_withDeadline {h : Hold} (hh : h ≠ holdOf d) (t : Option Timestamp) (σ : State) :
    State.Steady zone d σ (σ.modifyGroup z (h.withDeadline t)) := by
  refine State.steady_of_modify rfl fun g _ _ => .inr ?_
  cases d <;> cases h <;> first | exact absurd rfl hh | exact ⟨rfl, id⟩

theorem steady_wait {h : Hold} (hh : h ≠ holdOf d) (z : DomainName) :
    Leaves (.steady zone d) (h.wait z : Operation ω Timestamp) :=
  Hold.leaves_wait_within h (fun hop => hop.edited.steady) fun _ _ s =>
    steady_withDeadline hh _ s.state

theorem steady_showDeadline {h : Hold} (hh : h ≠ holdOf d) (z : DomainName) :
    Leaves (.steady zone d) (Command.showDeadline h z : Operation ω Unit) := by
  refine leaves_bind (steady_wait hh z) fun _ => leaves_bind leaves_now fun _ => ?_
  exact leaves_ite (quiet_line _).edited.steady (leaves_pure _)

/-- **The work of any other stage keeps the deadline of a hold.** -/
theorem steady_runStage {d' : Direction} {a : Activity} (hne : d' = d → a ≠ .wait)
    (z : DomainName) :
    Leaves (.steady zone d) (runStage z (.walking d' a) : Operation ω Stage) := by
  cases ha : acts a with
  | true =>
    obtain ⟨op, hop⟩ : ∃ op, work z d' a = (.act op : Work ω) := exists_act ha z d'
    show Leaves _ (doWork z (.walking d' a) (work z d' a))
    rw [hop]
    exact leaves_bind (edited_act z d' a hop).steady fun _ => leaves_pure _
  | false =>
    cases a with
    | syncDnskeys | syncCds | removeCds | syncNs | addCsync | removeCsync => cases ha
    | checkDnskeys | checkCds | checkParentDs | checkNs | checkParentNs =>
      refine leaves_bind (edited_check z).steady fun flags => ?_
      exact leaves_ite (leaves_bind (quiet_line _).edited.steady fun _ => leaves_pure _)
        (leaves_bind (quiet_line _).edited.steady fun _ => leaves_pure _)
    | wait =>
      have hh : holdOf d' ≠ holdOf d := by
        cases d <;> cases d' <;> first | exact absurd rfl (hne rfl) | decide
      refine leaves_bind (steady_wait hh z) fun deadline => leaves_bind leaves_now fun now => ?_
      refine leaves_ite (leaves_pure _) (leaves_bind (quiet_line _).edited.steady fun _ => ?_)
      refine leaves_bind (fun _ s => ?_) fun _ => leaves_pure _
      exact steady_withDeadline hh none s.state

/-! ## 2. What a deed does to a deadline -/

namespace Deed

variable (c zone d e)

/-- The deed is a command that asks for the deadline of a hold. -/
def Asks : Prop :=
  ∃ args z, e.action = .command args ∧ Command.parse c.mode args = .ok (.wait (holdOf d) z) ∧
    (z == zone) = true

/-- The deed does the work of a stage by name, for a group in manual mode. -/
def Forces : Prop :=
  e.stage? zone = some .manual ∧ ∃ args z stage, e.action = .command args ∧
    Command.parse c.mode args = .ok (.automateStep z (some stage)) ∧ (z == zone) = true

/-- How the group that a deed leaves came to its deadline. -/
inductive Times (g' : Group) : Prop
  | kept {g : Group} (found : e.before.state.groups.get? zone = some g)
      (same : (holdOf d).deadline g' = (holdOf d).deadline g)
      (held : g.stage = .walking d .wait → g'.stage = .walking d .wait)
  | moot (moot : Moot ((holdOf d).deadline g'))
  /-- It is worked out now: because a command asks for it, or because the group is held. -/
  | worked {ttl : UInt32} (works : e.WorksOut c zone d ttl)
      (deadline : (holdOf d).deadline g'
        = some ((c.outside.now e.before.world).addSeconds (2 * ttl.toNat)))
      (cause : e.Asks c zone d ∧ e.stage? zone ≠ some (.walking d .wait) ∨
        e.stage? zone = some (.walking d .wait) ∧ g'.stage = .walking d .wait)

variable {c zone d e} {g g' : Group}

theorem times_of_steady (h : State.Steady zone d e.before.state τ)
    (hg' : τ.groups.get? zone = some g') : e.Times c zone d g' := by
  rcases h g' hg' with hnone | ⟨g, hg, hsame, hheld⟩
  · refine .moot fun t ht => ?_
    rw [hnone] at ht
    cases ht
  · exact .kept hg hsame hheld

/-- **A hold that tells its deadline** keeps it, or has just worked it out. -/
theorem times_of_wait {deadline : Timestamp} {u : Session ω} (hz : (z == zone) = true)
    (hwait : ((holdOf d).wait z).perform c.outside e.before = (.ok deadline, u))
    (hg' : u.state.groups.get? zone = some g')
    (hcause : e.stage? zone ≠ some (.walking d .wait) → e.Asks c zone d) :
    e.Times c zone d g' := by
  obtain ⟨g, hg, hsets⟩ := Hold.wait_eq_ok hwait
  cases hsets with
  | stored _ hstate => exact times_of_steady (State.steady_of_groups (congrArg _ hstate)) hg'
  | fresh _ has hstate =>
    rw [hstate, State.get?_modifyGroup_of_beq _ _ hz, ← State.groups_get?_of_beq _ hz, hg] at hg'
    cases hg'
    refine .worked ⟨z, _, _, _, _, hz, has, Hold.isLargest _, hwait⟩
      (Hold.deadline_withDeadline _ _ _) ?_
    by_cases hheld : e.stage? zone = some (.walking d .wait)
    · refine .inr ⟨hheld, ?_⟩
      rw [stage?, ← State.groups_get?_of_beq _ hz, hg] at hheld
      cases d <;> exact Option.some.inj hheld
    · exact .inl ⟨hcause hheld, hheld⟩

/-- A hold that cannot tell its deadline leaves a moot one. -/
theorem moot_of_failed {failure : Error} {u : Session ω} (hz : (z == zone) = true)
    (hwait : ((holdOf d).wait z).perform c.outside e.before = (.error failure, u))
    (hg' : u.state.groups.get? zone = some g') : Moot ((holdOf d).deadline g') := by
  rw [← State.groups_get?_of_beq _ hz] at hg'
  rcases Hold.wait_told hwait hg' with ⟨deadline, h, -⟩ | ⟨-, hmoot⟩
  · cases h
  · exact hmoot

/-- A command that asks for a deadline. -/
theorem Asks.times (h : e.Asks c zone d) (hg' : (e.after c).state.groups.get? zone = some g') :
    e.Times c zone d g' := by
  obtain ⟨args, z, ha, hp, hz⟩ := h
  rw [(Session.lasting_eq_iff.1 (lasting_of_parsed ha hp)).1, Command.run, Command.showDeadline,
    perform_bind] at hg'
  rcases hwait : ((holdOf d).wait z).perform c.outside e.before with ⟨failure | deadline, u⟩
  · rw [hwait] at hg'
    exact .moot (moot_of_failed hz hwait hg')
  · simp only [hwait, perform_bind, perform_now, perform_ite, perform_line, perform_pure] at hg'
    have hstored : u.state.groups.get? zone = some g' := by split at hg' <;> exact hg'
    exact times_of_wait hz hwait hstored fun _ => ⟨args, z, ha, hp, hz⟩

/-- The group may be changed further, as long as its hold is not ended. -/
theorem Times.congr {g'' : Group} (h : e.Times c zone d g')
    (hsame : (holdOf d).deadline g'' = (holdOf d).deadline g')
    (hheld : g'.stage = .walking d .wait → g''.stage = .walking d .wait) :
    e.Times c zone d g'' := by
  cases h with
  | kept hg hkept hstays => exact .kept hg (hsame.trans hkept) (hheld ∘ hstays)
  | moot hmoot => exact .moot (hsame ▸ hmoot)
  | worked hworks hdeadline hcause =>
    exact .worked hworks (hsame.trans hdeadline)
      (hcause.imp_right fun ⟨hfound, hstage⟩ => ⟨hfound, hheld hstage⟩)

/-- The work of a hold. -/
theorem times_of_hold {r : Except Error Stage} {u : Session ω} {gu : Group}
    (hz : (z == zone) = true) (hheld : e.stage? zone = some (.walking d .wait))
    (hnext : g'.stage = match r with
      | .ok next => next
      | .error _ => .error)
    (hrun : (runStage z (.walking d .wait)).perform c.outside e.before = (r, u))
    (hgu : u.state.groups.get? zone = some gu)
    (hdeadline : (holdOf d).deadline g' = (holdOf d).deadline gu) : e.Times c zone d g' := by
  cases r with
  | error failure =>
    exact .moot (hdeadline ▸ moot_of_failed hz (wait_of_hold hrun) hgu)
  | ok next =>
    have hworked := worked_of_runStage hrun
    cases hworked with
    | pushed hacts => cases hacts
    | met hcheck => cases hcheck
    | unmet hcheck => cases hcheck
    | held hwait _ =>
      exact (times_of_wait hz hwait hgu fun h => absurd hheld h).congr hdeadline fun _ => hnext
    | expired _ _ hstate _ =>
      refine .moot fun t ht => ?_
      rw [hstate, Hold.clear, State.get?_modifyGroup_of_beq _ _ hz, Option.map_eq_some_iff] at hgu
      obtain ⟨gv, -, rfl⟩ := hgu
      rw [hdeadline, Hold.deadline_withDeadline] at ht
      cases ht

/-- **A step of the group.** -/
theorem Steps.times (h : e.Steps c zone) (hg' : (e.after c).state.groups.get? zone = some g') :
    e.Times c zone d g' := by
  obtain ⟨z, r, t, hz, hstep, hlasting⟩ := h.stepped
  rw [(Session.lasting_eq_iff.1 hlasting).1] at hg'
  cases hg : e.before.state.groups.get? z with
  | none =>
    rw [hstep.state_of_missing hg, ← State.groups_get?_of_beq _ hz, hg] at hg'
    cases hg'
  | some g =>
    have hfound : e.stage? zone = some g.stage := by
      rw [stage?, ← State.groups_get?_of_beq _ hz, hg, Option.map_some]
    cases hw : g.stage.isWalking with
    | false =>
      rw [hstep.state_of_rests hg hw] at hg'
      exact times_of_steady (State.steady_of_groups rfl) hg'
    | true =>
      rw [← State.groups_get?_of_beq _ hz] at hg'
      obtain ⟨d', a, hstage⟩ := exists_of_isWalking hw
      obtain ⟨r', u, gu, hrun, hgu, hdeadline, -, hnext⟩ := hstep.ran hg hstage hg'
      have hguz : u.state.groups.get? zone = some gu := by
        rw [← State.groups_get?_of_beq _ hz, hgu]
      by_cases hheld : d' = d ∧ a = .wait
      · obtain ⟨rfl, rfl⟩ := hheld
        exact times_of_hold hz (hfound.trans (congrArg _ hstage)) hnext hrun hguz (hdeadline _)
      · have hsteady : State.Steady zone d e.before.state u.state :=
          (steady_runStage (fun hd ha => hheld ⟨hd, ha⟩) z).rel_of_perform hrun
        refine (times_of_steady hsteady hguz).congr (hdeadline _) fun hstays => ?_
        -- the work of another stage does not bring the group into this one
        obtain ⟨-, gu', hgu', hplain⟩ := group_of_run hg hrun
        rw [hgu] at hgu'
        cases hgu'
        rw [(Group.alike_of_plain hplain).2, hstage] at hstays
        cases hstays
        exact absurd ⟨rfl, rfl⟩ hheld

/-- The work of a stage that is named is refused outside of manual mode. -/
theorem state_of_named {o : Outside ω} {s : Session ω} {name : String}
    (h : ∀ g, s.state.groups.get? z = some g → g.stage ≠ .manual) :
    ((Command.step z (some name)).perform o s).2.state = s.state := by
  simp only [Command.step, perform_bind, perform_requireIdle]
  cases s.scheduler.isRunning z with
  | true => rfl
  | false =>
    cases Stage.ofName? name with
    | none => rfl
    | some stage =>
      simp only [Bool.false_eq_true, if_false, manualStep, perform_bind, perform_state,
        perform_lift]
      cases hg : s.state.group z with
      | error failure => rfl
      | ok g =>
        simp only [perform_ite, perform_bind, perform_throw]
        rw [if_pos (h g (State.group_eq_ok.1 hg))]

/-- **What any deed does to a deadline**, unless it forces a stage. -/
theorem times (h : ¬ e.Forces c zone) (hg' : (e.after c).state.groups.get? zone = some g') :
    e.Times c zone d g' := by
  have hsame (hstate : (e.after c).state = e.before.state) : e.Times c zone d g' :=
    times_of_steady (State.steady_of_groups (congrArg _ hstate)) hg'
  cases ha : e.action with
  | tick z =>
    cases hz : z == zone with
    | true => exact (Steps.tick ha hz).times hg'
    | false =>
      have hchanges := (changed_step z).rel_of_perform (o := c.outside) (s := e.before) rfl
      rw [(Session.lasting_eq_iff.1 (lasting_of_tick ha)).1] at hg'
      exact times_of_steady (State.steady_of_changes hchanges hz) hg'
  | command args =>
    cases hp : Command.parse c.mode args with
    | error failure =>
      exact hsame (Session.lasting_eq_iff.1 (TurnedAway.unread ha hp).lasting).1
    | ok cmd =>
      have hstate := (Session.lasting_eq_iff.1 (lasting_of_parsed ha hp)).1
      cases hcmd : cmd.timed? with
      | none =>
        rw [hstate] at hg'
        exact times_of_steady (State.steady_of_edits (Command.leaves_command hcmd _ _)) hg'
      | some z =>
        cases hz : z == zone with
        | false =>
          rw [hstate] at hg'
          exact times_of_steady (State.steady_of_changes (Command.leaves_timed hcmd _ _) hz) hg'
        | true =>
          cases cmd with
          | wait hold z =>
            cases hcmd
            by_cases hhold : hold = holdOf d
            · subst hhold
              exact Asks.times ⟨args, z, ha, hp, hz⟩ hg'
            · rw [hstate] at hg'
              exact times_of_steady (steady_showDeadline hhold z c.outside e.before) hg'
          | automateStep z stage =>
            cases hcmd
            cases stage with
            | none =>
              cases hrunning : e.before.scheduler.isRunning z with
              | true =>
                exact hsame (Session.lasting_eq_iff.1 (TurnedAway.busy ha hp hrunning).lasting).1
              | false => exact (Steps.command ha hp hrunning hz).times hg'
            | some name =>
              refine hsame (hstate.trans (state_of_named fun g hg hmanual => h ⟨?_, ?_⟩))
              · rw [stage?, ← State.groups_get?_of_beq _ hz, hg, Option.map_some, hmanual]
              · exact ⟨args, z, name, ha, hp, hz⟩
          | _ => cases hcmd

end Deed

/-! ## 3. Deadlines along a run -/

/-- How the deadline of a group came about in a run, if it can be told: some deed worked it out,
either because a command asked for it while the group was not held, or because the group was held,
as it has been ever since. -/
def Timed (c : Controller ω) (zone : DomainName) (d : Direction) (run : List (Deed ω))
    (g : Group) : Prop :=
  Moot ((holdOf d).deadline g) ∨
    ∃ prior first later ttl, run = prior ++ first :: later ∧ first.WorksOut c zone d ttl ∧
      (holdOf d).deadline g
        = some ((c.outside.now first.before.world).addSeconds (2 * ttl.toNat)) ∧
      (first.Asks c zone d ∧ first.stage? zone ≠ some (.walking d .wait) ∨
        g.stage = .walking d .wait ∧
          ∀ f ∈ first :: later, f.stage? zone = some (.walking d .wait))

/-- **A deed keeps what is known of a deadline.** -/
theorem Timed.deed {g' : Group} (h : ∀ g, e.before.state.groups.get? zone = some g →
    Timed c zone d run g) (ht : e.Times c zone d g') : Timed c zone d (run ++ [e]) g' := by
  cases ht with
  | moot hmoot => exact .inl hmoot
  | worked hworks hdeadline hcause =>
    refine .inr ⟨run, e, [], _, rfl, hworks, hdeadline, hcause.imp_right fun ⟨hfound, hstage⟩ => ?_⟩
    refine ⟨hstage, fun f hf => ?_⟩
    rw [List.mem_singleton.1 hf]
    exact hfound
  | @kept g hg hsame hstays =>
    rcases h g hg with hmoot | ⟨prior, first, later, ttl, rfl, hworks, hdeadline, hcause⟩
    · exact .inl (hsame ▸ hmoot)
    · refine .inr ⟨prior, first, later ++ [e], ttl, by simp, hworks, hsame.trans hdeadline,
        hcause.imp_right fun ⟨hstage, hheld⟩ => ⟨hstays hstage, fun f hf => ?_⟩⟩
      rw [← List.cons_append] at hf
      rcases List.mem_append.1 hf with hf | hf
      · exact hheld f hf
      · rw [List.mem_singleton.1 hf, Deed.stage?, hg, Option.map_some, hstage]

/-- **The invariant of deadlines.** -/
theorem timed_of_run (hrun : Run c (fun σ τ => τ = σ) (fun f => ¬ f.Forces c zone) σ₀ run σ)
    (hstart : ∀ g, σ₀.groups.get? zone = some g → (holdOf d).deadline g = none) {g : Group}
    (hg : σ.groups.get? zone = some g) : Timed c zone d run g := by
  induction hrun generalizing g with
  | start =>
    refine .inl fun t ht => ?_
    rw [hstart g hg] at ht
    cases ht
  | deed _ hbefore hfits ih =>
    subst hbefore
    exact Timed.deed (fun _ => ih) (Deed.times hfits hg)

/-- The clock of a run never goes back from the end of a deed to the start of a later one. -/
def Timely (c : Controller ω) (run : List (Deed ω)) : Prop :=
  run.Pairwise fun e f =>
    (c.outside.now (e.after c).world).nanos ≤ (c.outside.now f.before.world).nanos

/-- A deed starts after every earlier one has ended. -/
theorem Timely.le {past visit : List (Deed ω)} {entry f : Deed ω} (h : Timely c run)
    (hsplit : run = past ++ entry :: visit) (hf : f ∈ visit) :
    (c.outside.now (entry.after c).world).nanos ≤ (c.outside.now f.before.world).nanos := by
  rw [Timely, hsplit, List.pairwise_append] at h
  exact (List.pairwise_cons.1 h.2.1).1 f hf

/-- Where items of a kind follow up to the end, the first of them comes after any of another
kind. -/
theorem mem_of_split {α : Type} {P : α → Prop} {prior past later visit : List α} {x y : α}
    (h : prior ++ x :: later = past ++ y :: visit) (hx : ∀ a ∈ x :: later, P a) (hy : ¬ P y) :
    x ∈ visit := by
  rcases List.append_eq_append_iff.1 h with ⟨l, rfl, hl⟩ | ⟨l, rfl, hl⟩
  · exact absurd (hx y (hl ▸ by simp)) hy
  · cases l with
    | nil =>
      cases hl
      exact absurd (hx x List.mem_cons_self) hy
    | cons z l =>
      cases hl
      simp

/-- **How long a hold lasts.**  In a run of any commands and steps that starts without a deadline, a
step brings a group out of the stage of a hold.  Then twice the time for which records may be kept
has passed since the group was last in another stage; or else a command asked for the deadline
while it was, and as much time has passed since then. -/
theorem hold_lasts (hrun : Run c (fun σ τ => τ = σ) (fun f => ¬ f.Forces c zone) σ₀ run
      e.before.state)
    (hstart : ∀ g, σ₀.groups.get? zone = some g → (holdOf d).deadline g = none)
    (hclock : Timely c (run ++ [e])) {largest : Nat}
    (hserved : ∀ f ∈ run ++ [e], ∀ ttl, f.WorksOut c zone d ttl → largest ≤ ttl.toNat)
    (he : e.Steps c zone) (hfound : e.stage? zone = some (.walking d .wait))
    (hleft : e.stageAfter? c zone = some (Stage.walking d .wait).next) :
    ∃ z deadline u, (z == zone) = true ∧
      ((holdOf d).wait z).perform c.outside e.before = (.ok deadline, u) ∧
      ((∀ f ∈ run, f.stage? zone ≠ some (.walking d .wait) →
          (c.outside.now (f.after c).world).nanos + 2 * largest * Timestamp.second
            ≤ (c.outside.now u.world).nanos) ∨
        ∃ ask ∈ run, ask.Asks c zone d ∧ ask.stage? zone ≠ some (.walking d .wait) ∧
          (c.outside.now ask.before.world).nanos + 2 * largest * Timestamp.second
            ≤ (c.outside.now u.world).nanos) := by
  obtain ⟨g, hg, hstage⟩ := Option.map_eq_some_iff.1 hfound
  obtain ⟨-, z, g', hz, hg', hled, -⟩ := he.group hg
  rw [Deed.stageAfter?, hg', Option.map_some] at hleft
  rw [hstage, Option.some.inj hleft] at hled
  obtain ⟨z, deadline, u, hz, hwait, hlate⟩ := Deed.holdOver_of_led hz hled
  refine ⟨z, deadline, u, hz, hwait, ?_⟩
  -- the deadline lies far enough after the deed that worked it out
  have hlong {f : Deed ω} {ttl : UInt32} (hf : f ∈ run ++ [e]) (hworks : f.WorksOut c zone d ttl)
      (hd : deadline = (c.outside.now f.before.world).addSeconds (2 * ttl.toNat)) :
      (c.outside.now f.before.world).nanos + 2 * largest * Timestamp.second
        ≤ (c.outside.now u.world).nanos := by
    have hle := hserved f hf ttl hworks
    have hpassed := Int.not_lt.1 (of_decide_eq_false hlate)
    simp only [hd, Timestamp.addSeconds, Timestamp.second] at hpassed ⊢
    omega
  have hsplits {past visit : List (Deed ω)} {entry : Deed ω}
      (hsplit : run = past ++ entry :: visit) : run ++ [e] = past ++ entry :: (visit ++ [e]) := by
    rw [hsplit, List.append_assoc, List.cons_append]
  obtain ⟨g₀, hg₀, hsets⟩ := Hold.wait_eq_ok hwait
  rw [State.groups_get?_of_beq _ hz, hg] at hg₀
  cases hg₀
  cases hsets with
  | fresh _ has _ =>
    have hworks : e.WorksOut c zone d _ := ⟨z, _, _, _, _, hz, has, Hold.isLargest _, hwait⟩
    refine .inl fun entry hentry _ => ?_
    obtain ⟨past, visit, hsplit⟩ := List.append_of_mem hentry
    have hbefore := hclock.le (hsplits hsplit)
      (List.mem_append_right visit (List.mem_singleton_self e))
    exact Int.le_trans (Int.add_le_add_right hbefore _) (hlong (by simp) hworks rfl)
  | stored hstored hstate =>
    have htold : deadline.text?.isSome := by
      rcases Hold.wait_told hwait (by rw [hstate, State.groups_get?_of_beq _ hz, hg]) with
        ⟨_, h, htold⟩ | ⟨⟨_, h⟩, -⟩
      · cases h
        exact htold
      · cases h
    rcases timed_of_run hrun hstart hg with
      hmoot | ⟨prior, first, later, ttl, hsplit, hworks, hd, hcause⟩
    · rw [hmoot deadline hstored] at htold
      cases htold
    · rw [hstored, Option.some.injEq] at hd
      have hmem : first ∈ run := by simp [hsplit]
      have hlate := hlong (List.mem_append_left _ hmem) hworks hd
      rcases hcause with ⟨hasks, hnot⟩ | ⟨-, hheld⟩
      · exact .inr ⟨first, hmem, hasks, hnot, hlate⟩
      · refine .inl fun entry hentry hnot => ?_
        obtain ⟨past, visit, hsplit'⟩ := List.append_of_mem hentry
        have hvisit := mem_of_split (hsplit.symm.trans hsplit') hheld hnot
        have hbefore := hclock.le (hsplits hsplit') (List.mem_append_left [e] hvisit)
        exact Int.le_trans (Int.add_le_add_right hbefore _) hlate

namespace Sample

/-- The group is about to be held. -/
def unheld : State :=
  document.modifyGroup Sample.zone fun g => { g with stage := .walking .joining .removeCds }

/-- A command asks for the deadline.  Two minutes later the group comes into the stage of the hold,
and leaves it in the same moment. -/
def asked : Deed Int := command ["wait-ds", "x."] unheld
def entered : Deed Int := tick (asked.after controller).state 120000000000
def hurried : Deed Int := tick (entered.after controller).state 120000000000

theorem run_hurried : Run controller (fun σ τ => τ = σ)
    (fun f => ¬ f.Forces controller Sample.zone) unheld ([] ++ [asked] ++ [entered])
    hurried.before.state :=
  .deed (.deed .start rfl fun h => absurd h.1 (by decide +kernel)) rfl
    fun h => absurd h.1 (by decide +kernel)

/-- Some record of the sample network is served with a time to live of a minute. -/
def servesMinute (r : Except Error (List Answer)) : Bool :=
  match r with
  | .ok as => as.any fun a => a.records.any fun r => r.ttl == 60
  | .error _ => false

theorem minute_le {f : Deed Int} (hf : ∀ absolute, servesMinute
    (((holdOf .joining).answers ⟨Sample.zone.labels, absolute⟩).perform controller.outside
      f.before).1 = true) {ttl : UInt32} (h : f.WorksOut controller Sample.zone .joining ttl) :
    60 ≤ ttl.toNat := by
  obtain ⟨z, as, u, deadline, v, hz, has, hlargest, -⟩ := h
  have hserves := hf z.absolute
  rw [← DomainName.beq_iff.1 hz, has] at hserves
  obtain ⟨a, ha, hserves⟩ := List.any_eq_true.1 hserves
  obtain ⟨r, hr, hserves⟩ := List.any_eq_true.1 hserves
  have hle := hlargest.bound a ha r hr
  rw [beq_iff_eq.1 hserves] at hle
  exact UInt32.le_iff_toNat_le.1 hle

theorem minute_le_of_mem : ∀ f ∈ [asked, entered] ++ [hurried], ∀ ttl,
    f.WorksOut controller Sample.zone .joining ttl → 60 ≤ ttl.toNat := by
  intro f hf ttl h
  refine minute_le (fun absolute => ?_) h
  clear h
  revert f
  cases absolute <;> decide +kernel

end Sample

/-- **A hold of no length.**  All that is served may be kept for a minute.  A command asks for the
deadline while the group is in another stage, and the group leaves the stage of the hold in the
moment in which it comes there. -/
theorem hold_lasts_from_question :
    (Sample.controller.outside.now (Sample.entered.after Sample.controller).world).nanos
        = (Sample.controller.outside.now (Sample.hurried.after Sample.controller).world).nanos ∧
      ∃ z deadline u, (z == Sample.zone) = true ∧
        ((holdOf .joining).wait z).perform Sample.outside Sample.hurried.before
          = (.ok deadline, u) ∧
        ((∀ f ∈ [Sample.asked, Sample.entered],
            f.stage? Sample.zone ≠ some (.walking .joining .wait) →
            (Sample.outside.now (f.after Sample.controller).world).nanos
              + 2 * (60 : Nat) * Timestamp.second ≤ (Sample.outside.now u.world).nanos) ∨
          ∃ ask ∈ [Sample.asked, Sample.entered], ask.Asks Sample.controller Sample.zone .joining ∧
            ask.stage? Sample.zone ≠ some (.walking .joining .wait) ∧
            (Sample.outside.now ask.before.world).nanos
              + 2 * (60 : Nat) * Timestamp.second ≤ (Sample.outside.now u.world).nanos) := by
  have hstart : ∀ g, Sample.unheld.groups.get? Sample.zone = some g →
      (holdOf .joining).deadline g = none := by
    intro g hg
    rw [show Sample.unheld.groups.get? Sample.zone
      = some { Sample.group with stage := .walking .joining .removeCds } by decide +kernel] at hg
    cases hg
    rfl
  have hclock : Timely Sample.controller ([Sample.asked, Sample.entered] ++ [Sample.hurried]) := by
    unfold Timely
    decide +kernel
  exact ⟨by decide +kernel, hold_lasts Sample.run_hurried hstart hclock Sample.minute_le_of_mem
    (Sample.steps_tick _ _) (by decide +kernel) (by decide +kernel)⟩

end MultiSigner
