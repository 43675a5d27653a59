/-
# How the stage of a group changes

The stage of a group is written by steps, by changes of its members and by three commands of
operators.  `Moves` lists all that a deed can do to it, with what becomes of the error text, and
`moves_of_deed` says that a deed does one of these things; nothing after it opens a command.

The proof goes by what a deed keeps: `calm_runStage` says that the work of a stage leaves stage and
error text of every group alone, and `calm_command` says so of all commands that are not about
stages.

* `stage_transitions`: the stages that a deed can lead a group from and to, what commands that are
  about stages lead to for certain, and that `manual` and `error` are left by nothing else.
-/
import MultiSigner.Proofs.Deadlines

namespace MultiSigner

open Operation Automation

variable {ω α : Type} {c : Controller ω} {zone z : DomainName} {e : Deed ω} {o : Outside ω}
  {s t : Session ω} {σ τ : State} {g g' : Group}

/-! ## 1. What keeps stages and error texts -/

/-- Where a group stands in its automation, and what moved it to the error stage. -/
def Group.plight (g : Group) : Stage × Option String :=
  (g.stage, g.error)

/-- The same of the group of a zone. -/
def Session.plight (zone : DomainName) (s : Session ω) : Option (Stage × Option String) :=
  (s.state.groups.get? zone).map Group.plight

/-- The operation keeps the plight of the zone's group, also when it fails. -/
abbrev Operation.Calm (zone : DomainName) (op : Operation ω α) : Prop :=
  Leaves (.keeping (Session.plight zone)) op

namespace Operation

theorem calm_of_groups {op : Operation ω α}
    (h : ∀ o s, (op.perform o s).2.state.groups = s.state.groups) : Calm zone op := fun o s => by
  show Session.plight zone _ = Session.plight zone s
  simp only [Session.plight, h o s]

theorem calm_of_state {op : Operation ω α} (h : ∀ o s, (op.perform o s).2.state = s.state) :
    Calm zone op :=
  calm_of_groups fun o s => by rw [h o s]

theorem Quiet.calm {op : Operation ω α} (h : Quiet op) : Calm zone op :=
  calm_of_state fun _ _ => h.state_eq rfl

theorem calm_publishStatus (z : DomainName) : Calm zone (publishStatus z : Operation ω Unit) :=
  calm_of_state fun _ _ => by rw [perform_publishStatus]

/-- A change of any group that concerns neither its stage nor its error text. -/
theorem plight_modifyGroup {f : Group → Group} (hf : ∀ g, (f g).plight = g.plight) :
    ((σ.modifyGroup z f).groups.get? zone).map Group.plight
      = (σ.groups.get? zone).map Group.plight := by
  rw [State.modifyGroup, OrderedMap.get?_modify]
  split
  · rw [Option.map_map]
    exact congrArg (Option.map · _) (funext hf)
  · rfl

theorem calm_modifyGroup {f : Group → Group} (z : DomainName)
    (hf : ∀ g, (f g).plight = g.plight) :
    Calm zone (modifyState fun s => s.modifyGroup z f : Operation ω Unit) :=
  fun _ _ => plight_modifyGroup hf

theorem calm_elsewhere {f : Group → Group} (hz : (z == zone) = false) :
    Calm zone (modifyState fun s => s.modifyGroup z f : Operation ω Unit) := fun o s => by
  show Session.plight zone _ = Session.plight zone s
  simp only [Session.plight, perform_modifyState, State.get?_modifyGroup_elsewhere _ _ hz]

theorem calm_modifySigner (name : String) (f : Signer → Signer) :
    Calm zone (modifyState fun s => s.modifySigner name f : Operation ω Unit) :=
  calm_of_groups fun _ _ => rfl

end Operation

/-! ## 2. The work of a stage -/

theorem calm_check (z : DomainName) : Calm zone (Status.check z : Operation ω SyncFlags) :=
  Status.leaves_check_within Quiet.calm fun _ => calm_modifyGroup z fun _ => rfl

theorem Hold.plight_withDeadline (h : Hold) (t : Option Timestamp) (g : Group) :
    (h.withDeadline t g).plight = g.plight := by
  cases h <;> rfl

theorem calm_wait (h : Hold) (z : DomainName) :
    Calm zone (h.wait z : Operation ω Timestamp) :=
  Hold.leaves_wait_within h Quiet.calm fun _ => calm_modifyGroup z (h.plight_withDeadline _)

/-- **Bringing records in line concerns no stage**, whether it succeeds or fails. -/
theorem calm_act {z : DomainName} {d : Direction} {a : Activity} {op : Operation ω Unit}
    (h : work z d a = .act op) : Calm zone op := by
  intro o s
  rw [(perform_of_act h).2]
  refine leaves_bind ?_ (fun plans => ?_) o s
  · refine (leaves_planning z a).mono fun s t hst => ?_
    have hgroups : t.state.groups = s.state.groups :=
      State.groups_of_withoutOrigins (congrArg Prod.fst hst)
    show Session.plight zone t = Session.plight zone s
    simp only [Session.plight, hgroups]
  · refine (Push.leaves_push_settled z plans).mono fun s t hst => ?_
    have hstate : t.state = s.state := congrArg Prod.fst hst
    show Session.plight zone t = Session.plight zone s
    simp only [Session.plight, hstate]

/-- **The work of a stage concerns no stage**, neither that of its own group nor of another one. -/
theorem calm_runStage (z : DomainName) (stage : Stage) :
    Calm zone (runStage z stage : Operation ω Stage) := by
  rcases stage with _ | _ | _ | ⟨d, a⟩
  · exact leaves_pure _
  · exact leaves_pure _
  · exact leaves_pure _
  · show Calm zone (doWork z (.walking d a) (work z d a))
    rcases hwork : (work z d a : Work ω) with op | flag | h
    · exact leaves_bind (calm_act hwork) fun _ => leaves_pure _
    · refine leaves_bind (calm_check z) fun flags => ?_
      exact leaves_ite (leaves_bind (quiet_line _).calm fun _ => leaves_pure _)
        (leaves_bind (quiet_line _).calm fun _ => leaves_pure _)
    · refine leaves_bind (calm_wait h z) fun deadline => leaves_bind leaves_now fun now => ?_
      refine leaves_ite (leaves_pure _) (leaves_bind (quiet_line _).calm fun _ => ?_)
      exact leaves_bind (calm_modifyGroup z (h.plight_withDeadline none)) fun _ => leaves_pure _

/-- What is done by name in manual mode moves nothing. -/
theorem calm_manualStep (z : DomainName) (stage : Stage) :
    Calm zone (manualStep z stage : Operation ω Unit) := by
  refine leaves_bind leaves_state fun _ => leaves_bind (leaves_lift _) fun g => ?_
  exact leaves_unless (leaves_bind (calm_runStage z stage) fun _ => (quiet_line _).calm)

theorem calm_step_named (z : DomainName) (name : String) :
    Calm zone (Command.step z (some name) : Operation ω Unit) := by
  refine leaves_bind (Command.leaves_requireIdle z) fun _ => ?_
  simp only
  split
  · exact leaves_throw _
  · exact calm_manualStep z _

/-- A step of one group does not move another one. -/
theorem calm_step_elsewhere (hz : (z == zone) = false) :
    Calm zone (Automation.step z : Operation ω Unit) := by
  refine leaves_bind leaves_state fun _ => leaves_bind (leaves_lift _) fun g => ?_
  cases restingLine g.stage with
  | some text => exact (quiet_line text).calm
  | none =>
    refine leaves_bind (leaves_attempt (calm_runStage z g.stage)) fun r => ?_
    cases r with
    | ok next =>
      refine leaves_ite (leaves_bind (calm_elsewhere hz) fun _ => ?_) (leaves_pure _)
      exact leaves_bind (quiet_line _).calm fun _ => calm_publishStatus z
    | error failure =>
      refine leaves_bind (quiet_line _).calm fun _ => leaves_bind (calm_elsewhere hz) fun _ => ?_
      exact leaves_bind (calm_publishStatus z) fun _ => leaves_throw failure

/-! ## 3. Commands that are not about stages -/

theorem plight_of_entry (h : τ.groups = σ.groups ∨
      ∃ z ttl, τ.groups = (σ.modifyGroup z fun g => { g with ttl := ttl }).groups) :
    (τ.groups.get? zone).map Group.plight = (σ.groups.get? zone).map Group.plight := by
  rcases h with h | ⟨z, ttl, h⟩
  · rw [h]
  · rw [h]
    exact plight_modifyGroup fun _ => rfl

namespace Command

theorem calm_removeSigner (name : String) :
    Calm zone (removeSigner name : Operation ω Unit) := by
  refine leaves_state_bind fun o s => rel_lift_bind fun signer _ => ?_
  refine rel_unless fun _ => rel_lift_bind fun g _ => rel_unless fun _ => ?_
  refine rel_lift_bind fun ⟨_, τ⟩ hτ => ?_
  obtain ⟨signer, -, hτ⟩ := bind_eq_ok.1 hτ
  cases hτ
  rw [perform_bind, perform_modifyState]
  refine ((leaves_bind (quiet_line _).calm fun _ => leaves_bind (calm_of_state fun _ _ => rfl)
    fun _ => calm_publishStatus _) o _).trans ?_
  exact plight_modifyGroup fun _ => rfl

theorem calm_addAutostart (z : DomainName) :
    Calm zone (addAutostart z : Operation ω Unit) := by
  refine leaves_bind leaves_state fun _ => leaves_bind (leaves_lift _) fun _ => ?_
  refine leaves_ite (quiet_line _).calm (leaves_bind ?_ fun _ => (quiet_line _).calm)
  exact calm_of_groups fun _ _ => rfl

theorem calm_removeAutostart (z : DomainName) :
    Calm zone (removeAutostart z : Operation ω Unit) := by
  refine leaves_bind leaves_state fun _ => leaves_bind (leaves_lift _) fun _ => ?_
  refine leaves_ite (leaves_bind ?_ fun _ => (quiet_line _).calm) (quiet_line _).calm
  exact calm_of_groups fun _ _ => rfl

theorem calm_setEntry (key value : String) :
    Calm zone (setEntry key value : Operation ω Unit) := by
  refine leaves_state_bind fun o s => rel_lift_bind fun τ hτ => ?_
  exact (plight_of_entry (State.groups_of_setEntry hτ) : _ = _)

theorem calm_removeEntry (key : String) :
    Calm zone (removeEntry key : Operation ω Unit) := by
  refine leaves_state_bind fun o s => rel_lift_bind fun ⟨changed, τ⟩ hτ => ?_
  exact (plight_of_entry (State.groups_of_removeEntry hτ) : _ = _)

/-- Whether a command leaves all stages alone. -/
def calm : Command → Bool
  | .groupAdd .. | .groupRemove _ | .signerAdd .. | .signerLeave .. | .automateStep ..
  | .automateClearError .. | .automateManual _ | .automateResume .. => false
  | _ => true

/-- **A command that is not about stages** leaves stage and error text of every group alone. -/
theorem calm_command {cmd : Command} (hcmd : cmd.calm = true) :
    Calm zone (cmd.run : Operation ω Unit) := by
  cases hlooks : cmd.looks with
  | true => exact (quiet_of_looks hlooks).calm
  | false =>
  cases cmd with
  | groupAdd | groupRemove | signerAdd | signerLeave | automateStep | automateClearError
  | automateManual | automateResume => cases hcmd
  | help | groupList | signerList | automateError | autostartList | confGet | confList =>
    cases hlooks
  | signerRemove name => exact calm_removeSigner name
  | signerTsig name key =>
    cases key with
    | none => cases hlooks
    | some key =>
      refine leaves_bind leaves_state fun _ => leaves_bind (leaves_lift _) fun _ => ?_
      exact leaves_unless (leaves_bind (calm_modifySigner name _) fun _ => (quiet_line _).calm)
  | signerType name kind token =>
    exact leaves_of_lookup fun _ _ =>
      leaves_bind (calm_modifySigner name _) fun _ => (quiet_line _).calm
  | signerCsk name combined =>
    exact leaves_of_lookup fun _ _ =>
      leaves_bind (calm_modifySigner name _) fun _ => (quiet_line _).calm
  | status z => exact leaves_bind (calm_check z) fun _ => leaves_pure _
  | syncDnskeys z => exact calm_act (d := .joining) (a := .syncDnskeys) rfl
  | syncCds z => exact calm_act (d := .joining) (a := .syncCds) rfl
  | syncNs z => exact calm_act (d := .joining) (a := .syncNs) rfl
  | addCsync z => exact calm_act (d := .joining) (a := .addCsync) rfl
  | removeCsync z => exact calm_act (d := .joining) (a := .removeCsync) rfl
  | removeCds z => exact calm_act (d := .joining) (a := .removeCds) rfl
  | wait hold z =>
    refine leaves_bind (calm_wait hold z) fun _ => leaves_bind leaves_now fun _ => ?_
    exact leaves_ite (quiet_line _).calm (leaves_pure _)
  | automateStart z => exact leaves_schedule (.inl ⟨z, rfl⟩) calm_of_state
  | automateStop z => exact leaves_schedule (.inr ⟨z, rfl⟩) calm_of_state
  | autostartAdd z => exact calm_addAutostart z
  | autostartRemove z => exact calm_removeAutostart z
  | confSet key value => exact calm_setEntry key value
  | confRemove key => exact calm_removeEntry key

end Command

/-! ## 4. What can move a group -/

namespace Deed

variable (c zone e)

/-- The deed is a command that would turn a signer of the zone's group into a direction: it adds the
signer, marks it as leaving or takes that back. -/
inductive Bids : Direction → String → Prop
  | add {args : List String} {z : DomainName} {name : String} {nameserver : DomainName}
      {address : String} (action : e.action = .command args)
      (parse : Command.parse c.mode args = .ok (.signerAdd z name nameserver address))
      (same : (z == zone) = true) : Bids .joining name
  | mark {args : List String} {name : String} {leaving : Bool} {signer : Signer}
      (action : e.action = .command args)
      (parse : Command.parse c.mode args = .ok (.signerLeave name leaving))
      (found : e.before.state.signers.get? name = some signer)
      (member : (signer.group == zone) = true) : Bids (turn leaving) name

/-- The deed is a command that orders the zone's group from one stage to another one. -/
inductive Orders : Stage → Stage → Prop
  | clear {args : List String} {z : DomainName} {stage : Stage} (action : e.action = .command args)
      (parse : Command.parse c.mode args = .ok (.automateClearError z stage))
      (same : (z == zone) = true) (target : stage = .ready ∨ stage.isWalking = true) :
      Orders .error stage
  | manual {args : List String} {z : DomainName} {stage : Stage} (action : e.action = .command args)
      (parse : Command.parse c.mode args = .ok (.automateManual z)) (same : (z == zone) = true)
      (rests : stage = .ready ∨ stage = .error) : Orders stage .manual
  | resume {args : List String} {z : DomainName} {stage : Stage} (action : e.action = .command args)
      (parse : Command.parse c.mode args = .ok (.automateResume z stage))
      (same : (z == zone) = true) : Orders .manual stage

/-- The deed may not lead a group out of manual mode or the error stage: it is a step of a task, a
change of members, or a step that an operator asks for, with or without a stage that is named. -/
inductive Restrained : Prop
  | tick {z : DomainName} (action : e.action = .tick z)
  | step {args : List String} {z : DomainName} {name : Option String}
      (action : e.action = .command args)
      (parse : Command.parse c.mode args = .ok (.automateStep z name))
  | add {args : List String} {z : DomainName} {name : String} {nameserver : DomainName}
      {address : String} (action : e.action = .command args)
      (parse : Command.parse c.mode args = .ok (.signerAdd z name nameserver address))
  | mark {args : List String} {name : String} {leaving : Bool} (action : e.action = .command args)
      (parse : Command.parse c.mode args = .ok (.signerLeave name leaving))
  | remove {args : List String} {name : String} (action : e.action = .command args)
      (parse : Command.parse c.mode args = .ok (.signerRemove name))

/-- What a deed can do to the stage and the error text of a group. -/
inductive Moves (g g' : Group) : Prop
  | stays (plight : g'.plight = g.plight)
  /-- The work of the group's stage led on, or back to the work that it checks. -/
  | goesOn (steps : e.Steps c zone) (walks : g.stage.isWalking = true)
      (stage : g'.stage = g.stage.next ∨ g'.stage = g.stage.retry) (text : g'.error = g.error)
  | fails (steps : e.Steps c zone) (walks : g.stage.isWalking = true) (stage : g'.stage = .error)
      {failure : Error} (text : g'.error = some failure.message)
  /-- A signer was turned, and the group starts to walk. -/
  | starts {d : Direction} {name : String} (bids : e.Bids c zone d name)
      (turned : Turned zone d name e.before.state (e.after c).state)
      (free : g.stage ≠ .manual ∧ g.stage ≠ .error) (two : 2 ≤ g'.signers.length)
      (stage : g'.stage = .start d) (ds : g'.waitDs = none) (ns : g'.waitNs = none)
      (text : g'.error = g.error)
  | ordered (orders : e.Orders c zone g.stage g'.stage)
      (text : g'.error = if g.stage = .manual then g.error else none)

variable {c zone e}

/-- The deed keeps the plight of the zone's group. -/
def Keeps (c : Controller ω) (zone : DomainName) (e : Deed ω) : Prop :=
  (e.after c).plight zone = e.before.plight zone

theorem Keeps.exists_plight (h : e.Keeps c zone) (hg : e.before.state.groups.get? zone = some g) :
    ∃ g', (e.after c).state.groups.get? zone = some g' ∧ g'.plight = g.plight := by
  rw [Keeps, Session.plight, Session.plight, hg, Option.map_some] at h
  exact Option.map_eq_some_iff.1 h

theorem Keeps.moves (h : e.Keeps c zone) (hg : e.before.state.groups.get? zone = some g)
    (hg' : (e.after c).state.groups.get? zone = some g') : e.Moves c zone g g' := by
  obtain ⟨g'', hg'', hplight⟩ := h.exists_plight hg
  rw [hg'] at hg''
  cases hg''
  exact .stays hplight

theorem keeps_of_groups
    (h : (e.after c).state.groups.get? zone = e.before.state.groups.get? zone) :
    e.Keeps c zone := by
  rw [Keeps, Session.plight, Session.plight, h]

theorem state_of_parsed {args : List String} {cmd : Command} {r : Except Error Unit}
    (ha : e.action = .command args) (hp : Command.parse c.mode args = .ok cmd)
    (hrun : cmd.run.perform c.outside e.before = (r, t)) : (e.after c).state = t.state := by
  rw [(Session.lasting_eq_iff.1 (lasting_of_parsed ha hp)).1, hrun]

/-- A command that is calm keeps all plights. -/
theorem keeps_of_calm {args : List String} {cmd : Command} (ha : e.action = .command args)
    (hp : Command.parse c.mode args = .ok cmd) (h : Calm zone (cmd.run : Operation ω Unit)) :
    e.Keeps c zone := by
  rw [Keeps, Session.plight, (Session.lasting_eq_iff.1 (lasting_of_parsed ha hp)).1]
  exact h c.outside e.before

/-! ## 5. Steps -/

/-- The group that the work of a stage leaves. -/
theorem exists_plight_of_run {stage : Stage} {r : Except Error Stage} {u : Session ω}
    (hg : s.state.groups.get? z = some g) (hrun : (runStage z stage).perform o s = (r, u)) :
    ∃ gu, u.state.groups.get? z = some gu ∧ gu.stage = g.stage ∧ gu.error = g.error := by
  have hcalm : u.plight z = s.plight z := (calm_runStage z stage).rel_of_perform hrun
  rw [Session.plight, Session.plight, hg, Option.map_some, Option.map_eq_some_iff] at hcalm
  obtain ⟨gu, hgu, hplight⟩ := hcalm
  exact ⟨gu, hgu, congrArg Prod.fst hplight, congrArg Prod.snd hplight⟩

/-- **A step of the group.** -/
theorem Steps.moves (h : e.Steps c zone) (hg : e.before.state.groups.get? zone = some g)
    (hg' : (e.after c).state.groups.get? zone = some g') : e.Moves c zone g g' := by
  obtain ⟨z, r, t, hz, hstep, hlasting⟩ := h.stepped
  rw [(Session.lasting_eq_iff.1 hlasting).1] at hg'
  rw [← State.groups_get?_of_beq _ hz] at hg hg'
  cases hstep with
  | missing hnone =>
    rw [hg] at hnone
    cases hnone
  | resting _ _ hrest =>
    rw [(Session.lasting_eq_iff.1 hrest).1, hg] at hg'
    cases hg'
    exact .stays rfl
  | @moved g₀ d a next u t hg₀ hstage hrun hstate _ =>
    rw [hg] at hg₀
    cases hg₀
    obtain ⟨gu, hgu, hsame, htext⟩ := exists_plight_of_run hg hrun
    have hwalks : g.stage.isWalking = true := by rw [hstage]; rfl
    rw [hstate] at hg'
    split at hg'
    · rw [hgu] at hg'
      cases hg'
      exact .stays (Prod.ext hsame htext)
    · rename_i hne
      rw [moveTo, State.get?_modifyGroup, hgu, Option.map_some, Option.some.injEq] at hg'
      subst hg'
      refine .goesOn h hwalks ?_ htext
      rw [hstage]
      exact (worked_of_runStage hrun).leads.resolve_left hne
  | @failed g₀ d a failure u t hg₀ hstage hrun hstate _ =>
    rw [hg] at hg₀
    cases hg₀
    obtain ⟨gu, hgu, -, -⟩ := exists_plight_of_run hg hrun
    have hwalks : g.stage.isWalking = true := by rw [hstage]; rfl
    rw [hstate, fail, State.get?_modifyGroup, hgu, Option.map_some, Option.some.injEq] at hg'
    subst hg'
    exact .fails h hwalks rfl rfl

/-! ## 6. Changes of members -/

/-- **What a command that changes members makes of the group**: nothing, or it has other members or
a signer of it was marked, and it is let walk if it may. -/
theorem Bids.changed {d : Direction} {name : String} (h : e.Bids c zone d name)
    (hg : e.before.state.groups.get? zone = some g) :
    (e.after c).state = e.before.state ∨
      Turned zone d name e.before.state (e.after c).state ∧ ∃ g₁ : Group,
        g₁.plight = g.plight ∧ (e.after c).state.groups.get? zone
          = some (if restarts g₁ then restarted d g₁ else g₁) := by
  cases h with
  | @add args z name nameserver address ha hp hz =>
    rcases hrun : (Command.addSigner z name nameserver address).perform c.outside e.before
      with ⟨r, t⟩
    rw [state_of_parsed ha hp hrun]
    obtain ⟨hstate | ⟨τ, hadded, hstate⟩, -⟩ := state_of_addSigner hrun
    · exact .inl hstate
    · have hτ : τ.groups.get? zone = some { g with signers := g.signers ++ [name] } := by
        rw [(addSigner_eq_ok hadded).2.2.2, OrderedMap.get?_modify,
          if_pos (DomainName.compare_of_beq hz), hg, Option.map_some]
      rw [hstate]
      exact .inr ⟨turned_of_added hz rfl hadded, { g with signers := g.signers ++ [name] }, rfl,
        State.get?_amendGroup hz hτ⟩
  | @mark args name leaving signer ha hp hfound hz =>
    rcases hrun : (Command.markLeave name leaving).perform c.outside e.before with ⟨r, t⟩
    rw [state_of_parsed ha hp hrun]
    obtain ⟨hstate | ⟨signer', hfound', hne, hstate⟩, -⟩ := state_of_markLeave hrun
    · exact .inl hstate
    · rw [hfound] at hfound'
      cases hfound'
      rw [hstate]
      exact .inr ⟨turned_of_marked hz hfound hne, g, rfl, State.get?_amendGroup hz hg⟩

/-- The group starts to walk if it may. -/
theorem Bids.starts {d : Direction} {name : String} (h : e.Bids c zone d name)
    (hg : e.before.state.groups.get? zone = some g)
    (hg' : (e.after c).state.groups.get? zone = some g') (hturns : e.Turns c d name)
    (htwo : 2 ≤ g'.signers.length) (hmanual : g.stage ≠ .manual) (herror : g.stage ≠ .error) :
    g'.stage = .start d ∧ g'.waitDs = none ∧ g'.waitNs = none := by
  rcases h.changed hg with hstate | ⟨-, g₁, hplight, hafter⟩
  · rw [Turns, hstate] at hturns
    exact absurd hturns.2 hturns.1
  · have hstage : g₁.stage = g.stage := congrArg Prod.fst hplight
    rw [hafter] at hg'
    split at hg'
    · cases hg'
      exact ⟨rfl, rfl, rfl⟩
    · rename_i hrests
      cases hg'
      exact absurd (restarts_iff.2 ⟨htwo, hstage ▸ hmanual, hstage ▸ herror⟩) hrests

theorem Bids.moves {d : Direction} {name : String} (h : e.Bids c zone d name)
    (hg : e.before.state.groups.get? zone = some g)
    (hg' : (e.after c).state.groups.get? zone = some g') : e.Moves c zone g g' := by
  rcases h.changed hg with hstate | ⟨hturned, g₁, hplight, hafter⟩
  · rw [hstate, hg] at hg'
    cases hg'
    exact .stays rfl
  · have hstage : g₁.stage = g.stage := congrArg Prod.fst hplight
    rw [hafter] at hg'
    split at hg'
    · rename_i hrestarts
      obtain ⟨htwo, hmanual, herror⟩ := restarts_iff.1 hrestarts
      cases hg'
      exact .starts h hturned ⟨hstage ▸ hmanual, hstage ▸ herror⟩ htwo rfl rfl rfl
        (congrArg Prod.snd hplight)
    · cases hg'
      exact .stays hplight

end Deed

/-- Changes of members of one group do not concern another one. -/
theorem get?_of_addSigner_elsewhere {name address : String} {nameserver : DomainName}
    {r : Except Error Unit} (hz : (z == zone) = false)
    (h : (Command.addSigner z name nameserver address).perform o s = (r, t)) :
    t.state.groups.get? zone = s.state.groups.get? zone := by
  obtain ⟨hstate | ⟨τ, hadded, hstate⟩, -⟩ := state_of_addSigner h
  · rw [hstate]
  · rw [hstate, afterChange_eq, State.get?_amendGroup_elsewhere hz,
      (addSigner_eq_ok hadded).2.2.2]
    exact s.state.get?_modifyGroup_elsewhere _ hz

theorem get?_of_markLeave_elsewhere {name : String} {leaving : Bool} {r : Except Error Unit}
    (hz : ∀ signer, s.state.signers.get? name = some signer → (signer.group == zone) = false)
    (h : (Command.markLeave name leaving).perform o s = (r, t)) :
    t.state.groups.get? zone = s.state.groups.get? zone := by
  obtain ⟨hstate | ⟨signer, hfound, -, hstate⟩, -⟩ := state_of_markLeave h
  · rw [hstate]
  · rw [hstate, afterChange_eq, State.get?_amendGroup_elsewhere (hz signer hfound)]
    rfl

/-! ## 7. Orders of operators -/

theorem ok_bind {β : Type} (a : α) (f : α → Except Error β) : (Except.ok a >>= f) = f a := rfl

namespace Command

theorem resting_or_walking_of_sequence {a : Arguments} {i : Nat} {stage : Stage}
    (h : a.sequenceStage i = .ok stage) : stage = .ready ∨ stage.isWalking = true := by
  obtain ⟨stage', -, h⟩ := bind_eq_ok.1 h
  split at h
  · cases h
  · rename_i hne
    cases h
    rw [not_or] at hne
    rcases stage with _ | _ | _ | ⟨d, a⟩
    · exact .inl rfl
    · exact absurd rfl hne.2
    · exact absurd rfl hne.1
    · exact .inr rfl

theorem target_of_parseArguments {mode : Mode} {name : String} {a : Arguments} {stage : Stage}
    (h : parseArguments mode name a = .ok (.automateClearError z stage)) :
    stage = .ready ∨ stage.isWalking = true := by
  unfold parseArguments at h
  split at h
  case h_26 =>
    obtain ⟨_, -, h⟩ := bind_eq_ok.1 h
    obtain ⟨_, hstage, h⟩ := bind_eq_ok.1 h
    cases h
    exact resting_or_walking_of_sequence hstage
  -- every other branch gives another command
  all_goals try split at h
  all_goals
    repeat obtain ⟨_, -, h⟩ := bind_eq_ok.1 h
    cases h

/-- **The error stage is left for rest or for a walk**, by what can be said in the arguments. -/
theorem target_of_parse {mode : Mode} {args : List String} {stage : Stage}
    (h : parse mode args = .ok (.automateClearError z stage)) :
    stage = .ready ∨ stage.isWalking = true := by
  cases args with
  | nil => cases h
  | cons name values =>
    simp only [parse] at h
    split at h
    · cases h
    · exact target_of_parseArguments h

/-- Taking a group out of the error stage changes it if it is there. -/
theorem clearError_eq (σ : State) (z : DomainName) (stage : Stage) :
    (match Automation.clearError σ z stage with
      | .ok r => r.getD σ
      | .error _ => σ) = σ.amendGroup z (fun g => g.stage == .error)
        fun g => { g with stage := stage, error := none } := by
  unfold Automation.clearError State.group State.amendGroup
  cases σ.groups.get? z with
  | none => rfl
  | some g =>
    simp only [ok_bind]
    by_cases h : g.stage = .error
    · rw [if_neg (not_not.2 h), if_pos (beq_iff_eq.2 h)]
      rfl
    · rw [if_pos h, if_neg (by simpa using h)]
      rfl

/-- Putting a group into manual mode changes it if it rests, or is in the error stage. -/
theorem enterManual_eq (σ : State) (z : DomainName) :
    (match Automation.enterManual σ z with
      | .ok τ => τ
      | .error _ => σ) = σ.amendGroup z (fun g => g.stage == .ready || g.stage == .error)
        fun g => { g with stage := .manual, error := none } := by
  unfold Automation.enterManual State.group State.amendGroup
  cases σ.groups.get? z with
  | none => rfl
  | some g =>
    simp only [ok_bind]
    by_cases h : g.stage = .ready ∨ g.stage = .error
    · rw [if_neg (by rwa [not_and_or, not_not, not_not]), if_pos (by simpa using h)]
      rfl
    · rw [if_pos (not_or.1 h), if_neg (by simpa using h)]
      rfl

/-- Taking a group out of manual mode changes it if it is there. -/
theorem resume_eq (σ : State) (z : DomainName) (stage : Stage) :
    (match Automation.resume σ z stage with
      | .ok τ => τ
      | .error _ => σ) = σ.amendGroup z (fun g => g.stage == .manual)
        fun g => { g with stage := stage } := by
  unfold Automation.resume State.group State.amendGroup
  cases σ.groups.get? z with
  | none => rfl
  | some g =>
    simp only [ok_bind]
    by_cases h : g.stage = .manual
    · rw [if_neg (not_not.2 h), if_pos (beq_iff_eq.2 h)]
      rfl
    · rw [if_pos h, if_neg (by simpa using h)]
      rfl

theorem state_of_clearError {stage : Stage} {r : Except Error Unit}
    (h : (clearError z stage).perform o s = (r, t)) :
    t.state = s.state.amendGroup z (fun g => g.stage == .error)
      fun g => { g with stage := stage, error := none } := by
  rw [← clearError_eq]
  simp only [clearError, perform_bind, perform_state, perform_lift] at h
  rcases hr : Automation.clearError s.state z stage with failure | _ | σ
  · rw [hr] at h
    cases h
    rfl
  · simp only [hr, perform_line] at h
    cases h
    rfl
  · simp only [hr, perform_bind, perform_modifyState, perform_line, perform_publishStatus] at h
    cases h
    rfl

/-- An operation that puts another document into the place of the present one, unless it is
refused. -/
theorem state_of_replace {f : State → Except Error State} {text : String} {r : Except Error Unit}
    (h : (do
      let σ ← f (← state)
      modifyState fun _ => σ
      line text
      publishStatus z : Operation ω Unit).perform o s = (r, t)) :
    t.state = match f s.state with
      | .ok σ => σ
      | .error _ => s.state := by
  simp only [perform_bind, perform_state, perform_lift] at h
  cases hf : f s.state with
  | error failure =>
    rw [hf] at h
    cases h
    rfl
  | ok σ =>
    simp only [hf, perform_modifyState, perform_line, perform_publishStatus] at h
    cases h
    rfl

end Command

namespace Deed

/-- A command that orders the group of a zone about, as a change of the document. -/
inductive Amends (c : Controller ω) (e : Deed ω) (z : DomainName) :
    (Group → Bool) → (Group → Group) → Prop
  | clear {args : List String} {stage : Stage} (action : e.action = .command args)
      (parse : Command.parse c.mode args = .ok (.automateClearError z stage)) :
      Amends c e z (fun g => g.stage == .error) fun g => { g with stage := stage, error := none }
  | manual {args : List String} (action : e.action = .command args)
      (parse : Command.parse c.mode args = .ok (.automateManual z)) :
      Amends c e z (fun g => g.stage == .ready || g.stage == .error)
        fun g => { g with stage := .manual, error := none }
  | resume {args : List String} {stage : Stage} (action : e.action = .command args)
      (parse : Command.parse c.mode args = .ok (.automateResume z stage)) :
      Amends c e z (fun g => g.stage == .manual) fun g => { g with stage := stage }

variable {p : Group → Bool} {f : Group → Group}

theorem Amends.state (h : e.Amends c z p f) :
    (e.after c).state = e.before.state.amendGroup z p f := by
  cases h with
  | @clear args stage ha hp =>
    rcases hrun : (Command.clearError z stage).perform c.outside e.before with ⟨r, t⟩
    rw [state_of_parsed ha hp hrun]
    exact Command.state_of_clearError hrun
  | manual ha hp =>
    rcases hrun : (Command.enterManual z).perform c.outside e.before with ⟨r, t⟩
    rw [state_of_parsed ha hp hrun, ← Command.enterManual_eq]
    exact Command.state_of_replace hrun
  | @resume args stage ha hp =>
    rcases hrun : (Command.resume z stage).perform c.outside e.before with ⟨r, t⟩
    rw [state_of_parsed ha hp hrun, ← Command.resume_eq]
    exact Command.state_of_replace (f := fun σ => Automation.resume σ z stage) hrun

theorem Amends.orders (h : e.Amends c z p f) (hz : (z == zone) = true) (hg : p g = true) :
    e.Orders c zone g.stage (f g).stage ∧
      (f g).error = if g.stage = .manual then g.error else none := by
  cases h with
  | clear ha hp =>
    have hstage : g.stage = .error := beq_iff_eq.1 hg
    rw [hstage]
    exact ⟨.clear ha hp hz (Command.target_of_parse hp), rfl⟩
  | manual ha hp =>
    have hstage : g.stage = .ready ∨ g.stage = .error := by simpa using hg
    refine ⟨.manual ha hp hz hstage, (if_neg fun hmanual => ?_).symm⟩
    rw [hmanual] at hstage
    rcases hstage with h | h <;> cases h
  | resume ha hp =>
    have hstage : g.stage = .manual := beq_iff_eq.1 hg
    rw [if_pos hstage, hstage]
    exact ⟨.resume ha hp hz, rfl⟩

theorem Amends.moves (h : e.Amends c z p f) (hg : e.before.state.groups.get? zone = some g)
    (hg' : (e.after c).state.groups.get? zone = some g') : e.Moves c zone g g' := by
  rw [h.state] at hg'
  cases hz : z == zone with
  | false =>
    rw [State.get?_amendGroup_elsewhere hz, hg] at hg'
    cases hg'
    exact .stays rfl
  | true =>
    rw [State.get?_amendGroup hz hg] at hg'
    split at hg'
    · rename_i hp
      cases hg'
      obtain ⟨horders, htext⟩ := h.orders hz hp
      exact .ordered horders htext
    · cases hg'
      exact .stays rfl

/-- **What is ordered is done.** -/
theorem Orders.taken {stage stage' : Stage} (h : e.Orders c zone stage stage')
    (hg : e.before.state.groups.get? zone = some g) (hstage : g.stage = stage) :
    ∃ g', (e.after c).state.groups.get? zone = some g' ∧ g'.stage = stage' := by
  obtain ⟨z, p, f, hz, hamends, hp, hf⟩ : ∃ z p f, (z == zone) = true ∧ e.Amends c z p f ∧
      p g = true ∧ (f g).stage = stage' := by
    cases h with
    | clear ha hp hz _ => exact ⟨_, _, _, hz, .clear ha hp, by simp [hstage], rfl⟩
    | manual ha hp hz hrests => exact ⟨_, _, _, hz, .manual ha hp, by simpa [hstage], rfl⟩
    | resume ha hp hz => exact ⟨_, _, _, hz, .resume ha hp, by simp [hstage], rfl⟩
  refine ⟨f g, ?_, hf⟩
  rw [hamends.state, State.get?_amendGroup hz hg, if_pos hp]

/-! ## 8. All deeds -/

theorem get?_of_addGroup {parent : String} {r : Except Error Unit}
    (hg : s.state.groups.get? zone = some g)
    (h : (Command.addGroup z parent).perform o s = (r, t)) : t.state.groups.get? zone = some g := by
  simp only [Command.addGroup, perform_bind, perform_state, perform_lift] at h
  cases hadd : s.state.addGroup z { parent := parent } with
  | error failure =>
    rw [hadd] at h
    cases h
    exact hg
  | ok τ =>
    simp only [hadd, perform_modifyState, perform_line, perform_publishStatus] at h
    cases h
    simp only
    unfold State.addGroup at hadd
    split at hadd
    · cases hadd
    · rename_i hnew
      cases hadd
      rw [OrderedMap.get?_insert, if_neg]
      · exact hg
      · intro hz
        rw [OrderedMap.contains, ← s.state.groups.get?_congr hz, hg] at hnew
        exact hnew rfl

theorem get?_of_removeGroup {r : Except Error Unit} (hg : t.state.groups.get? zone = some g)
    (h : (Command.removeGroup z).perform o s = (r, t)) : s.state.groups.get? zone = some g := by
  simp only [Command.removeGroup, perform_bind, perform_requireIdle, perform_state,
    perform_lift] at h
  cases hbusy : s.scheduler.isRunning z with
  | true =>
    simp only [hbusy, if_true] at h
    cases h
    exact hg
  | false =>
    simp only [hbusy, Bool.false_eq_true, if_false] at h
    cases hremove : s.state.removeGroup z with
    | error failure =>
      rw [hremove] at h
      cases h
      exact hg
    | ok removed =>
      obtain ⟨old, τ⟩ := removed
      simp only [hremove, perform_modifyState, perform_line] at h
      obtain ⟨_, -, hremove⟩ := bind_eq_ok.1 hremove
      split at hremove
      · cases hremove
      · cases hremove
        cases h
        simp only at hg
        rw [OrderedMap.get?_erase] at hg
        split at hg
        · cases hg
        · exact hg

/-- A deed that marks a signer does so for the zone of its record, if there is one. -/
theorem bids_or_keeps_of_mark {args : List String} {name : String} {leaving : Bool}
    (ha : e.action = .command args)
    (hp : Command.parse c.mode args = .ok (.signerLeave name leaving)) :
    e.Bids c zone (turn leaving) name ∨ e.Keeps c zone := by
  by_cases hmember : ∃ signer, e.before.state.signers.get? name = some signer ∧
      (signer.group == zone) = true
  · obtain ⟨signer, hfound, hz⟩ := hmember
    exact .inl (.mark ha hp hfound hz)
  · have hz : ∀ signer, e.before.state.signers.get? name = some signer →
        (signer.group == zone) = false := by
      intro signer hfound
      cases hz : signer.group == zone with
      | false => rfl
      | true => exact absurd ⟨signer, hfound, hz⟩ hmember
    rcases hrun : (Command.markLeave name leaving).perform c.outside e.before with ⟨r, t⟩
    refine .inr (keeps_of_groups ?_)
    rw [state_of_parsed ha hp hrun, get?_of_markLeave_elsewhere hz hrun]

/-- **What deeds that lead nothing out of manual mode can do**: a step of the zone, a change of
its members, or nothing to the plight of its group. -/
theorem Restrained.cases (h : e.Restrained c) :
    e.Steps c zone ∨ (∃ d name, e.Bids c zone d name) ∨ e.Keeps c zone := by
  cases h with
  | @tick z ha =>
    cases hz : z == zone with
    | true => exact .inl (.tick ha hz)
    | false =>
      refine .inr (.inr ?_)
      rw [Keeps, Session.plight, (Session.lasting_eq_iff.1 (lasting_of_tick ha)).1]
      exact calm_step_elsewhere hz c.outside e.before
  | @step args z name ha hp =>
    cases name with
    | some name => exact .inr (.inr (keeps_of_calm ha hp (calm_step_named z name)))
    | none =>
      cases hz : z == zone with
      | false =>
        refine .inr (.inr (keeps_of_calm ha hp ?_))
        exact leaves_bind (Command.leaves_requireIdle z) fun _ => calm_step_elsewhere hz
      | true =>
        cases hbusy : e.before.scheduler.isRunning z with
        | false => exact .inl (.command ha hp hbusy hz)
        | true =>
          refine .inr (.inr (keeps_of_groups ?_))
          rw [(Session.lasting_eq_iff.1 (TurnedAway.busy ha hp hbusy).lasting).1]
  | @add args z name nameserver address ha hp =>
    cases hz : z == zone with
    | true => exact .inr (.inl ⟨_, _, .add ha hp hz⟩)
    | false =>
      rcases hrun : (Command.addSigner z name nameserver address).perform c.outside e.before
        with ⟨r, t⟩
      refine .inr (.inr (keeps_of_groups ?_))
      rw [state_of_parsed ha hp hrun, get?_of_addSigner_elsewhere hz hrun]
  | mark ha hp => exact .inr ((bids_or_keeps_of_mark ha hp).imp_left fun h => ⟨_, _, h⟩)
  | remove ha hp => exact .inr (.inr (keeps_of_calm ha hp (Command.calm_removeSigner _)))

theorem Restrained.moves (h : e.Restrained c) (hg : e.before.state.groups.get? zone = some g)
    (hg' : (e.after c).state.groups.get? zone = some g') : e.Moves c zone g g' := by
  rcases h.cases with hsteps | ⟨d, name, hbids⟩ | hkeeps
  · exact hsteps.moves hg hg'
  · exact hbids.moves hg hg'
  · exact hkeeps.moves hg hg'

/-- **Manual mode and the error stage are kept** by these deeds. -/
theorem Restrained.kept (h : e.Restrained c) (hg : e.before.state.groups.get? zone = some g)
    (hstage : g.stage = .manual ∨ g.stage = .error) :
    ∃ g', (e.after c).state.groups.get? zone = some g' ∧ g'.stage = g.stage := by
  rcases (h.cases : e.Steps c zone ∨ _) with hsteps | ⟨d, name, hbids⟩ | hkeeps
  · obtain ⟨z, r, t, hz, hstep, hlasting⟩ := hsteps.stepped
    have hrests : g.stage.isWalking = false := by rcases hstage with h | h <;> rw [h] <;> rfl
    rw [(Session.lasting_eq_iff.1 hlasting).1,
      hstep.state_of_rests ((State.groups_get?_of_beq _ hz).trans hg) hrests]
    exact ⟨g, hg, rfl⟩
  · rcases hbids.changed hg with hstate | ⟨-, g₁, hplight, hafter⟩
    · rw [hstate]
      exact ⟨g, hg, rfl⟩
    · have hsame : g₁.stage = g.stage := congrArg Prod.fst hplight
      refine ⟨_, hafter, ?_⟩
      rw [if_neg]
      · exact hsame
      · intro hrestarts
        obtain ⟨-, hmanual, herror⟩ := restarts_iff.1 hrestarts
        rw [hsame] at hmanual herror
        exact hstage.elim hmanual herror
  · obtain ⟨g', hg', hplight⟩ := hkeeps.exists_plight hg
    exact ⟨g', hg', congrArg Prod.fst hplight⟩

/-- **What any deed does to stage and error text of a group.** -/
theorem moves_of_deed (hg : e.before.state.groups.get? zone = some g)
    (hg' : (e.after c).state.groups.get? zone = some g') : e.Moves c zone g g' := by
  cases ha : e.action with
  | tick z => exact (Restrained.tick ha).moves hg hg'
  | command args =>
    cases hp : Command.parse c.mode args with
    | error failure =>
      rw [(Session.lasting_eq_iff.1 (TurnedAway.unread ha hp).lasting).1, hg] at hg'
      cases hg'
      exact .stays rfl
    | ok cmd =>
      cases hcalm : cmd.calm with
      | true => exact (keeps_of_calm ha hp (Command.calm_command hcalm)).moves hg hg'
      | false =>
        cases cmd with
        | automateStep z name => exact (Restrained.step ha hp).moves hg hg'
        | signerAdd z name nameserver address => exact (Restrained.add ha hp).moves hg hg'
        | signerLeave name leaving => exact (Restrained.mark ha hp).moves hg hg'
        | automateClearError z stage => exact (Amends.clear ha hp).moves hg hg'
        | automateManual z => exact (Amends.manual ha hp).moves hg hg'
        | automateResume z stage => exact (Amends.resume ha hp).moves hg hg'
        | groupAdd z parent =>
          rcases hrun : (Command.addGroup z parent).perform c.outside e.before with ⟨r, t⟩
          rw [state_of_parsed ha hp hrun, get?_of_addGroup hg hrun] at hg'
          cases hg'
          exact .stays rfl
        | groupRemove z =>
          rcases hrun : (Command.removeGroup z).perform c.outside e.before with ⟨r, t⟩
          rw [state_of_parsed ha hp hrun] at hg'
          rw [get?_of_removeGroup hg' hrun] at hg
          cases hg
          exact .stays rfl
        | _ => cases hcalm

end Deed

/-- **The transitions of a group's stage.**  The group of a zone is found by a deed and, in (1), left
by it; the network does anything.

1. Its stage and error text change only as listed in `Deed.Moves`, for the zone that the command
   names or to which the named signer belongs.
2. A signer that is turned by a command for its group lets the group walk in that direction, without
   deadlines, if it has two members and is neither in manual mode nor in the error stage.
3. What an operator orders happens.
4. No step of a task, no step that is asked for, and no change of members leads a group out of
   manual mode or the error stage, also if it fails. -/
theorem stage_transitions (c : Controller ω) (e : Deed ω) (zone : DomainName) (g : Group)
    (hg : e.before.state.groups.get? zone = some g) :
    (∀ g', (e.after c).state.groups.get? zone = some g' → e.Moves c zone g g') ∧
      (∀ d name g', e.Bids c zone d name → e.Turns c d name →
        (e.after c).state.groups.get? zone = some g' → 2 ≤ g'.signers.length →
          g.stage ≠ .manual → g.stage ≠ .error →
            g'.stage = .start d ∧ g'.waitDs = none ∧ g'.waitNs = none) ∧
      (∀ stage, e.Orders c zone g.stage stage →
        ∃ g', (e.after c).state.groups.get? zone = some g' ∧ g'.stage = stage) ∧
      (e.Restrained c → g.stage = .manual ∨ g.stage = .error →
        ∃ g', (e.after c).state.groups.get? zone = some g' ∧ g'.stage = g.stage) := by
  refine ⟨fun g' hg' => Deed.moves_of_deed hg hg', fun d name g' hbids hturns hg' => ?_,
    fun stage horders => horders.taken hg rfl, fun hbound hstage => hbound.kept hg hstage⟩
  intro htwo hmanual herror
  exact hbids.starts hg hg' hturns htwo hmanual herror

/-- Marking a signer of the sample group starts a walk. -/
theorem stage_transitions_of_marked :
    Sample.marked.before.state.groups.get? Sample.zone = some Sample.group ∧
      ∃ g', (Sample.marked.after Sample.controller).state.groups.get? Sample.zone = some g' ∧
        Sample.marked.Moves Sample.controller Sample.zone Sample.group g' ∧
        g'.stage = .start .leaving ∧ g'.waitDs = none ∧ g'.waitNs = none := by
  have hg : Sample.marked.before.state.groups.get? Sample.zone = some Sample.group := by
    decide +kernel
  obtain ⟨g', hg', htwo⟩ := Option.map_eq_some_iff.1
    (show ((Sample.marked.after Sample.controller).state.groups.get? Sample.zone).map
      (fun g => decide (2 ≤ g.signers.length)) = some true by decide +kernel)
  obtain ⟨signer, hfound, hz⟩ := Option.map_eq_some_iff.1
    (show (Sample.document.signers.get? "a").map (fun r => r.group == Sample.zone)
      = some true by decide +kernel)
  obtain ⟨leaver, hleaver, hleaves⟩ := Option.map_eq_some_iff.1
    (show ((Sample.marked.after Sample.controller).state.signers.get? "a").map Signer.leaving
      = some true by decide +kernel)
  obtain ⟨hmoves, hstarts, -, -⟩ := stage_transitions Sample.controller Sample.marked Sample.zone
    Sample.group hg
  have hbids : Sample.marked.Bids Sample.controller Sample.zone (turn true) "a" :=
    .mark rfl rfl hfound hz
  exact ⟨hg, g', hg', hmoves g' hg', hstarts .leaving "a" g' hbids
    ⟨Sample.nobody_leaving "a", leaver, hleaver, hleaves⟩ hg' (of_decide_eq_true htwo)
    (by decide) (by decide)⟩

end MultiSigner
