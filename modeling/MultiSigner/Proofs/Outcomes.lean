/-
# What commands do, seen from outside

Tasks and observers know little of the document: which groups there are, in which stages, which of
their signers are leaving, and which of them start with the daemon.  This is its `outline`; what an
observer is shown of one group is a `sight`, and it depends on nothing else.

`outcome_of_command` says once what a command does to outline, tasks and events, and how it ends.
Left out are the commands that ask servers.  They keep all three (`inward_of_asks`), but for the one
that lets a group do a step; how steps end is said by `outcome_of_step`.  A command that is refused
has done nothing, which needs the references of the document to be intact: a signer that is marked
has a group.
-/
import MultiSigner.Proofs.Confinement
import MultiSigner.Proofs.Entries

namespace MultiSigner

open Operation Automation
open State (Intact)

variable {ω α β : Type} {o : Outside ω} {s t : Session ω} {σ τ : State} {zone z : DomainName}
  {name : String}

/-! ## 1. Outlines -/

/-- The event is not the status of a group. -/
def Event.Plain (e : Event) : Prop :=
  ∀ zone stage signers, e ≠ .status zone stage signers

namespace State

/-- What is shown of a group: its stage and its signers, with whether they are leaving. -/
def sight (σ : State) (zone : DomainName) : Option (Stage × List (String × Bool)) :=
  (σ.groups.get? zone).map fun g => (g.stage, g.signers.map fun name =>
    (name, (σ.signers.get? name).any Signer.leaving))

/-- The groups with their stages and signers, the group of each signer, with whether it is leaving,
and the groups that start with the daemon. -/
@[ext] structure Outline where
  groups : List (DomainName × Stage × List String)
  signers : String → Option (DomainName × Bool)
  autostart : List DomainName

/-- The outline of a document. -/
def outline (σ : State) : Outline where
  groups := σ.groups.entries.map fun e => (e.1, e.2.stage, e.2.signers)
  signers name := (σ.signers.get? name).map fun r => (r.group, r.leaving)
  autostart := σ.autostart

/-- A name is written in the document as that of a group. -/
inductive Spells (σ : State) (n : DomainName) : Prop
  | key (mem : n ∈ σ.groups.keys)
  | home {name : String} {r : Signer} (signer : σ.signers.get? name = some r) (group : r.group = n)
  | autostart (mem : n ∈ σ.autostart)

theorem status?_eq (σ : State) (zone : DomainName) :
    Event.status? σ zone = (σ.sight zone).map fun p => .status zone p.1 p.2 := by
  rw [Event.status?, sight, Option.map_map]
  rfl

theorem isSome_sight (σ : State) (zone : DomainName) :
    (σ.sight zone).isSome = (σ.groups.get? zone).isSome :=
  Option.isSome_map

theorem sight_eq_none : σ.sight zone = none ↔ σ.groups.get? zone = none :=
  Option.map_eq_none_iff

/-- A group that is not seen is not found. -/
theorem group_of_unseen (h : σ.sight zone = none) : σ.group zone = .error (.noSuchGroup zone) := by
  rw [group, sight_eq_none.1 h]

theorem sight_of_beq (σ : State) (h : (z == zone) = true) : σ.sight z = σ.sight zone := by
  rw [sight, groups_get?_of_beq σ h, sight]

/-- What is shown of a group, as the outline has it. -/
def Outline.sight (l : Outline) (zone : DomainName) : Option (Stage × List (String × Bool)) :=
  (l.groups.find? fun e => compare zone e.1 == .eq).map fun e =>
    (e.2.1, e.2.2.map fun name => (name, (l.signers name).any Prod.snd))

theorem sight_eq (σ : State) (zone : DomainName) : σ.sight zone = σ.outline.sight zone := by
  rw [sight, OrderedMap.get?, Outline.sight, outline, List.find?_map]
  simp only [Option.map_map, Function.comp_def, Option.any_map]

/-- **What is shown of groups depends on the outline only.** -/
theorem sight_of_outline (h : τ.outline = σ.outline) (zone : DomainName) :
    τ.sight zone = σ.sight zone := by
  rw [sight_eq, h, sight_eq]

theorem keys_eq (σ : State) : σ.groups.keys = σ.outline.groups.map Prod.fst := by
  rw [outline, List.map_map]
  rfl

theorem spells_of_outline (h : τ.outline = σ.outline) {n : DomainName} (hn : τ.Spells n) :
    σ.Spells n := by
  cases hn with
  | key hn =>
    rw [keys_eq, h, ← keys_eq] at hn
    exact .key hn
  | @home name r hr hgroup =>
    have hname := congrFun (congrArg Outline.signers h) name
    simp only [outline, hr, Option.map_some] at hname
    obtain ⟨r', hr', hsame⟩ := Option.map_eq_some_iff.1 hname.symm
    exact .home hr' ((congrArg Prod.fst hsame).trans hgroup)
  | autostart hn =>
    rw [show τ.autostart = σ.autostart from congrArg Outline.autostart h] at hn
    exact .autostart hn

/-- Origins are no part of the outline. -/
theorem outline_of_withoutOrigins (h : τ.withoutOrigins = σ.withoutOrigins) :
    τ.outline = σ.outline := by
  rw [outline, groups_of_withoutOrigins h, signers_of_withoutOrigins h,
    show τ.autostart = σ.autostart from congrArg (·.autostart) h, outline]

/-- Deadlines, flags and the like are no part of the outline. -/
theorem outline_modifyGroup (σ : State) (zone : DomainName) {f : Group → Group}
    (hf : ∀ g, (f g).stage = g.stage ∧ (f g).signers = g.signers) :
    (σ.modifyGroup zone f).outline = σ.outline := by
  refine Outline.ext ?_ rfl rfl
  rw [outline, outline, modifyGroup, OrderedMap.modify, List.map_map]
  refine List.map_congr_left fun e _ => ?_
  rw [Function.comp_apply]
  split
  · rw [(hf e.2).1, (hf e.2).2]
  · rfl

theorem outline_modifySigner (σ : State) (name : String) {f : Signer → Signer}
    (hf : ∀ r, (f r).group = r.group ∧ (f r).leaving = r.leaving) :
    (σ.modifySigner name f).outline = σ.outline := by
  refine Outline.ext rfl (funext fun n => ?_) rfl
  simp only [outline, modifySigner, OrderedMap.get?_modify]
  split
  · simp only [Option.map_map, Function.comp_def, hf]
  · rfl

/-- Entries that can be changed are no part of the outline. -/
theorem outline_of_setEntry {key value : String} (h : σ.setEntry key value = .ok τ) :
    τ.outline = σ.outline := by
  cases setEntry_eq_ok.1 h with
  | secret => rfl
  | token => rfl
  | ttl => exact outline_modifyGroup σ _ fun _ => ⟨rfl, rfl⟩
  | setting => rfl

theorem outline_of_removeEntry {key : String} {changed : Bool}
    (h : σ.removeEntry key = .ok (changed, τ)) : τ.outline = σ.outline := by
  rcases erased_or_eq h with herased | rfl
  · cases herased with
    | ttl => exact outline_modifyGroup σ _ fun _ => ⟨rfl, rfl⟩
    | secret => rfl
    | token => rfl
    | keyOrigin => rfl
    | nameOrigin => rfl
    | setting => rfl
  · rfl

/-- **What is confined to one group shows nothing of another one.** -/
theorem Confined.sight (h : Confined zone σ τ) (hσ : σ.Intact) (hz : (z == zone) = false) :
    τ.sight z = σ.sight z := by
  rw [State.sight, h.groups z hz, State.sight]
  cases hg : σ.groups.get? z with
  | none => rfl
  | some g =>
    refine congrArg some (Prod.ext rfl (List.map_congr_left fun name hname => ?_))
    have hroster : σ.roster z = some g.signers := by rw [roster, hg, Option.map_some]
    obtain ⟨home, hhome, hsame⟩ := (hσ.listed z g.signers hroster).2 name hname
    obtain ⟨r, hr, rfl⟩ := home_eq_some.1 hhome
    have helsewhere : (r.group == zone) = false := by
      cases hzone : r.group == zone with
      | false => rfl
      | true =>
        rw [BEq.trans (BEq.symm hsame) hzone] at hz
        cases hz
    rw [hr, (h.signers name r helsewhere).2 hr]

/-! ## 2. Names of groups that come up -/

theorem keys_modifyGroup (σ : State) (zone : DomainName) (f : Group → Group) :
    (σ.modifyGroup zone f).groups.keys = σ.groups.keys := by
  rw [modifyGroup, OrderedMap.modify, OrderedMap.keys, OrderedMap.keys, List.map_map]
  refine List.map_congr_left fun e _ => ?_
  rw [Function.comp_apply]
  split <;> rfl

theorem spells_modifyGroup {f : Group → Group} {n : DomainName}
    (h : (σ.modifyGroup zone f).Spells n) : σ.Spells n := by
  cases h with
  | key h =>
    rw [keys_modifyGroup] at h
    exact .key h
  | home hr hgroup => exact .home hr hgroup
  | autostart h => exact .autostart h

theorem spells_afterChange {d : Direction} {n : DomainName}
    (h : (afterChange zone d σ).Spells n) : σ.Spells n := by
  unfold afterChange at h
  split at h
  · exact h
  · split at h
    · exact spells_modifyGroup h
    · exact h

theorem spells_modifySigner {f : Signer → Signer} {n : DomainName}
    (hf : ∀ r, (f r).group = r.group) (h : (σ.modifySigner name f).Spells n) : σ.Spells n := by
  cases h with
  | key h => exact .key h
  | @home other r hr hgroup =>
    rw [modifySigner, OrderedMap.get?_modify] at hr
    split at hr
    · obtain ⟨r', hr', rfl⟩ := Option.map_eq_some_iff.1 hr
      exact .home hr' ((hf r').symm.trans hgroup)
    · exact .home hr hgroup
  | autostart h => exact .autostart h

theorem spells_addGroup {g : Group} {n : DomainName} (hτ : σ.addGroup zone g = .ok τ)
    (h : τ.Spells n) : σ.Spells n ∨ zone = n := by
  unfold addGroup at hτ
  split at hτ
  · cases hτ
  · cases hτ
    cases h with
    | key h =>
      obtain ⟨e, he, rfl⟩ := List.mem_map.1 h
      rcases OrderedMap.key_insertEntry he with hkey | ⟨w, hw⟩
      · exact .inr hkey.symm
      · exact .inl (.key (List.mem_map.2 ⟨_, hw, rfl⟩))
    | home hr hgroup => exact .inl (.home hr hgroup)
    | autostart h => exact .inl (.autostart h)

theorem spells_removeGroup {g : Group} {n : DomainName} (hτ : σ.removeGroup zone = .ok (g, τ))
    (h : τ.Spells n) : σ.Spells n := by
  obtain ⟨g, -, hτ⟩ := bind_eq_ok.1 hτ
  split at hτ
  · cases hτ
  · cases hτ
    cases h with
    | key h =>
      obtain ⟨e, he, rfl⟩ := List.mem_map.1 h
      exact .key (List.mem_map_of_mem (List.mem_filter.1 he).1)
    | home hr hgroup => exact .home hr hgroup
    | autostart h => exact .autostart (List.mem_filter.1 h).1

theorem sight_of_removeGroup {g : Group} (hτ : σ.removeGroup zone = .ok (g, τ)) :
    τ.sight zone = none := by
  obtain ⟨g, -, hτ⟩ := bind_eq_ok.1 hτ
  split at hτ
  · cases hτ
  · cases hτ
    rw [sight, OrderedMap.get?_erase, if_pos Std.ReflCmp.compare_self]
    rfl

theorem spells_addSigner {signer : Signer} {n : DomainName}
    (hτ : σ.addSigner name signer = .ok τ) (h : τ.Spells n) :
    σ.Spells n ∨ signer.group = n := by
  have hautostart : τ.autostart = σ.autostart := by
    unfold addSigner at hτ
    split at hτ
    · cases hτ
    · obtain ⟨g, -, hτ⟩ := bind_eq_ok.1 hτ
      cases hτ
      rfl
  obtain ⟨-, -, hsigners, hgroups⟩ := addSigner_eq_ok hτ
  cases h with
  | key h =>
    rw [hgroups] at h
    exact .inl (spells_modifyGroup (.key h))
  | home hr hgroup =>
    rw [hsigners, OrderedMap.get?_insert] at hr
    split at hr
    · cases hr
      exact .inr hgroup
    · exact .inl (.home hr hgroup)
  | autostart h => exact .inl (.autostart (hautostart ▸ h))

theorem spells_removeSigner {signer : Signer} {n : DomainName}
    (hτ : σ.removeSigner name = .ok (signer, τ)) (h : τ.Spells n) : σ.Spells n := by
  obtain ⟨signer, -, hτ⟩ := bind_eq_ok.1 hτ
  cases hτ
  cases h with
  | key h => exact spells_modifyGroup (.key h)
  | home hr hgroup => exact .home (get?_of_get?_erase hr) hgroup
  | autostart h => exact .autostart h

end State

/-! ## 3. Work with servers -/

/-- What tasks and observers have to do with. -/
def Session.outward (s : Session ω) : State.Outline × Scheduler × List Event :=
  (s.state.outline, s.scheduler, s.events)

theorem Session.outward_of_lasting (h : t.lasting = s.lasting) : t.outward = s.outward := by
  obtain ⟨hstate, hscheduler, hevents, -⟩ := Session.lasting_eq_iff.1 h
  rw [outward, hstate, hscheduler, hevents, outward]

namespace Operation

/-- The operation concerns neither tasks nor observers, also when it fails. -/
abbrev Inward (op : Operation ω α) : Prop :=
  Leaves (.keeping Session.outward) op

theorem Quiet.inward {op : Operation ω α} (h : Quiet op) : Inward op :=
  h.mono fun _ _ => Session.outward_of_lasting

theorem inward_modifyState {f : State → State} (h : ∀ σ, (f σ).outline = σ.outline) :
    Inward (modifyState f : Operation ω Unit) := fun o s => by
  show Session.outward _ = Session.outward s
  rw [perform_modifyState, Session.outward, h, Session.outward]

theorem inward_modifyGroup (zone : DomainName) {f : Group → Group}
    (hf : ∀ g, (f g).stage = g.stage ∧ (f g).signers = g.signers) :
    Inward (modifyState fun σ => σ.modifyGroup zone f : Operation ω Unit) :=
  inward_modifyState fun σ => σ.outline_modifyGroup zone hf

theorem inward_check (zone : DomainName) : Inward (Status.check zone : Operation ω SyncFlags) :=
  Status.leaves_check_within Quiet.inward fun _ => inward_modifyGroup zone fun _ => ⟨rfl, rfl⟩

end Operation

theorem Hold.stage_withDeadline (h : Hold) (t : Option Timestamp) (g : Group) :
    (h.withDeadline t g).stage = g.stage ∧ (h.withDeadline t g).signers = g.signers := by
  cases h <;> exact ⟨rfl, rfl⟩

namespace Operation

theorem inward_wait (h : Hold) (zone : DomainName) :
    Inward (h.wait zone : Operation ω Timestamp) :=
  Hold.leaves_wait_within h Quiet.inward fun _ => inward_modifyGroup zone (h.stage_withDeadline _)

/-- **Planning and pushing** note origins and send updates. -/
theorem inward_act (zone : DomainName) (a : Activity) :
    Inward (planning zone a >>= Push.push zone : Operation ω Unit) := by
  refine leaves_bind ((leaves_planning zone a).mono fun s t hst => ?_)
    fun plans => (Push.leaves_push_settled zone plans).mono fun s t hst => ?_
  · have hplanned : t.planned = s.planned := hst
    simp only [Session.planned, Prod.mk.injEq] at hplanned
    obtain ⟨hstate, hscheduler, hevents, -⟩ := hplanned
    show t.outward = s.outward
    rw [Session.outward, hscheduler, hevents, Session.outward,
      State.outline_of_withoutOrigins hstate]
  · have hsettled : t.settled = s.settled := hst
    simp only [Session.settled, Prod.mk.injEq] at hsettled
    obtain ⟨hstate, hscheduler, hevents⟩ := hsettled
    show t.outward = s.outward
    rw [Session.outward, hstate, hscheduler, hevents, Session.outward]

theorem inward_doWork (zone : DomainName) (stage : Stage) {w : Work ω}
    (hact : ∀ op, w = .act op → Inward op) :
    Inward (doWork zone stage w : Operation ω Stage) := by
  cases w with
  | act op => exact leaves_bind (hact op rfl) fun _ => leaves_pure _
  | check flag =>
    refine leaves_bind (inward_check zone) fun flags => ?_
    exact leaves_ite (leaves_bind (quiet_line _).inward fun _ => leaves_pure _)
      (leaves_bind (quiet_line _).inward fun _ => leaves_pure _)
  | hold h =>
    refine leaves_bind (inward_wait h zone) fun deadline => leaves_bind leaves_now fun now => ?_
    refine leaves_ite (leaves_pure _) (leaves_bind (quiet_line _).inward fun _ => ?_)
    exact leaves_bind (inward_modifyGroup zone (h.stage_withDeadline none)) fun _ => leaves_pure _

/-- **The work of a stage** concerns neither tasks nor observers. -/
theorem inward_runStage (zone : DomainName) (stage : Stage) :
    Inward (runStage zone stage : Operation ω Stage) := by
  cases stage with
  | walking d a =>
    refine inward_doWork zone _ fun op hop o s => ?_
    rw [(perform_of_act hop).2]
    exact inward_act zone a o s
  | ready | error | manual => exact leaves_pure _

theorem inward_manualStep (zone : DomainName) (stage : Stage) :
    Inward (manualStep zone stage : Operation ω Unit) := by
  refine leaves_bind leaves_state fun _ => leaves_bind (leaves_lift _) fun g => ?_
  exact leaves_unless (leaves_bind (inward_runStage zone stage) fun _ => (quiet_line _).inward)

end Operation

namespace Command

/-- Whether a command has to do with servers. -/
def asks : Command → Bool
  | .status _ | .syncDnskeys _ | .syncCds _ | .syncNs _ | .wait _ _ | .addCsync _ | .removeCsync _
  | .removeCds _ | .automateStep _ _ => true
  | _ => false

/-- **A command that has to do with servers** concerns neither tasks nor observers, unless it lets a
group do a step. -/
theorem inward_of_asks {cmd : Command} (hcmd : cmd.asks = true)
    (hstep : ∀ zone, cmd ≠ .automateStep zone none) : Inward (cmd.run : Operation ω Unit) := by
  cases hpushes : cmd.pushes? with
  | some p =>
    intro o s
    rw [(perform_run_of_pushes hpushes).2]
    exact inward_act p.1 p.2 o s
  | none =>
  cases cmd with
  | status zone => exact leaves_bind (inward_check zone) fun _ => leaves_pure _
  | wait hold zone =>
    refine leaves_bind (inward_wait hold zone) fun _ => leaves_bind leaves_now fun _ => ?_
    exact leaves_ite (quiet_line _).inward (leaves_pure _)
  | automateStep zone stage =>
    refine leaves_bind (leaves_requireIdle zone) fun _ => ?_
    cases stage with
    | none => exact absurd rfl (hstep zone)
    | some text =>
      simp only
      split
      · exact leaves_throw _
      · exact inward_manualStep zone _
  | syncDnskeys | syncCds | syncNs | addCsync | removeCsync | removeCds => cases hpushes
  | _ => cases hcmd

/-! ## 4. Other commands -/

/-- The command names the group, or one of its signers. -/
def Concerns (cmd : Command) (σ : State) (zone : DomainName) : Prop :=
  cmd.zone? = some zone ∨
    ∃ name signer, cmd.signer? = some name ∧ σ.signers.get? name = some signer ∧ signer.group = zone

theorem Concerns.about {cmd : Command} (h : cmd.Concerns σ zone) : cmd.About zone σ := by
  rcases h with h | ⟨name, signer, hname, hsigner, rfl⟩
  · exact .inl ⟨zone, h, BEq.rfl⟩
  · exact .inr ⟨name, signer, hname, hsigner, BEq.rfl⟩

/-- How a command ends that has nothing to do with servers. -/
inductive Outcome (s : Session ω) : Command → Except Error Unit → Session ω → Prop
  /-- **It is refused**, and has done nothing. -/
  | refused {cmd : Command} {e : Error} {t : Session ω} (rest : t.lasting = s.lasting) :
      Outcome s cmd (.error e) t
  /-- What it did, if anything, can not be seen from outside. -/
  | unseen {cmd : Command} {t : Session ω} (rest : t.outward = s.outward) : Outcome s cmd (.ok ()) t
  | removed {zone : DomainName} {g : Group} {t : Session ω}
      (idle : s.scheduler.isRunning zone = false)
      (removed : s.state.removeGroup zone = .ok (g, t.state))
      (scheduler : t.scheduler = s.scheduler) (events : t.events = s.events) :
      Outcome s (.groupRemove zone) (.ok ()) t
  /-- It changed a group or its signers, and observers were told how the group is now. -/
  | announced {cmd : Command} {zone : DomainName} {news : List Event} {t : Session ω}
      (concerns : cmd.Concerns s.state zone) (there : (t.state.sight zone).isSome = true)
      (spells : ∀ n, t.state.Spells n → s.state.Spells n ∨ cmd.zone? = some n)
      (scheduler : t.scheduler = s.scheduler)
      (plain : ∀ e ∈ news, e.Plain)
      (events : t.events = s.events ++ (news ++ (Event.status? t.state zone).toList)) :
      Outcome s cmd (.ok ()) t
  /-- It changed the list of the groups that start with the daemon. -/
  | listed {cmd : Command} {t : Session ω} (sights : ∀ z, t.state.sight z = s.state.sight z)
      (spells : ∀ n, t.state.Spells n → s.state.Spells n ∨ cmd.zone? = some n)
      (scheduler : t.scheduler = s.scheduler) (events : t.events = s.events) :
      Outcome s cmd (.ok ()) t
  | started {zone : DomainName} {t : Session ω} (there : (s.state.sight zone).isSome = true)
      (start : s.scheduler.start zone = .ok t.scheduler)
      (state : t.state = s.state) (events : t.events = s.events) :
      Outcome s (.automateStart zone) (.ok ()) t
  | stopped {zone : DomainName} {t : Session ω} (there : (s.state.sight zone).isSome = true)
      (stop : s.scheduler.stop zone = .ok t.scheduler)
      (state : t.state = s.state) (events : t.events = s.events) :
      Outcome s (.automateStop zone) (.ok ()) t

/-- The operation ends as the command does. -/
def Ends (o : Outside ω) (s : Session ω) (cmd : Command) (op : Operation ω Unit) : Prop :=
  Outcome s cmd (op.perform o s).1 (op.perform o s).2

section Ends

variable {cmd : Command}

theorem ends_state_bind {f : State → Operation ω Unit} (h : Ends o s cmd (f s.state)) :
    Ends o s cmd (state >>= f) := by
  unfold Ends
  rw [perform_bind, perform_state]
  exact h

/-- It is refused, or goes on with what was looked up. -/
theorem ends_lift_bind {r : Except Error β} {f : β → Operation ω Unit}
    (h : ∀ b, r = .ok b → Ends o s cmd (f b)) : Ends o s cmd (liftM r >>= f) := by
  unfold Ends
  rw [perform_bind, perform_lift]
  cases r with
  | error e => exact .refused rfl
  | ok b => exact h b rfl

/-- It is refused under a condition, or goes on. -/
theorem ends_unless {c : Prop} [Decidable c] {e : Error} {f : Unit → Operation ω Unit}
    (h : ¬ c → Ends o s cmd (f ())) : Ends o s cmd (if c then throw e >>= f else f ()) := by
  split
  · exact .refused rfl
  · exact h ‹_›

theorem ends_quiet {op : Operation ω Unit} (h : Quiet op) : Ends o s cmd op := by
  unfold Ends
  rcases hop : op.perform o s with ⟨e | _, t⟩
  · exact .refused (h.rel_of_perform hop)
  · exact .unseen (Session.outward_of_lasting (h.rel_of_perform hop))

/-- A change that keeps the outline. -/
theorem ends_unseen {f : State → State} (text : String)
    (h : (f s.state).outline = s.state.outline) :
    Ends o s cmd (do modifyState f; line text) := by
  unfold Ends
  simp only [perform_bind, perform_modifyState, perform_line]
  refine .unseen ?_
  rw [Session.outward, h, Session.outward]

/-- A change that observers are told. -/
theorem ends_told {f : State → State} (text : String) (concerns : cmd.Concerns s.state zone)
    (there : ((f s.state).groups.get? zone).isSome = true)
    (spells : ∀ n, (f s.state).Spells n → s.state.Spells n ∨ cmd.zone? = some n) :
    Ends o s cmd (do modifyState f; line text; publishStatus zone) := by
  unfold Ends
  simp only [perform_bind, perform_modifyState, perform_line, perform_publishStatus]
  exact .announced concerns ((State.isSome_sight _ _).trans there) spells rfl
    (List.forall_mem_nil _) rfl

end Ends

/-- A change of members of a group that is there. -/
theorem perform_announce {d : Direction} (h : (s.state.groups.get? zone).isSome = true) :
    ∃ lines, (announce zone d).perform o s = (.ok (), { s with
      state := afterChange zone d s.state
      events := s.events ++ (Event.status? (afterChange zone d s.state) zone).toList
      transcript := lines }) := by
  obtain ⟨g, hg⟩ := Option.isSome_iff_exists.1 h
  simp only [announce, membershipChanged, perform_bind, perform_state, perform_lift,
    State.group_eq_ok.2 hg, perform_ite, perform_modifyState, perform_line, perform_pure,
    afterChange, hg]
  by_cases hr : restarts g = true
  · simp only [hr, if_true, perform_publishStatus]
    exact ⟨_, rfl⟩
  · simp only [hr, perform_publishStatus]
    exact ⟨_, rfl⟩

theorem isSome_afterChange {d : Direction} (h : (σ.groups.get? zone).isSome = true) :
    ((afterChange zone d σ).groups.get? zone).isSome = true := by
  obtain ⟨g, hg⟩ := Option.isSome_iff_exists.1 h
  obtain ⟨g', hg', -⟩ := group_afterChange BEq.rfl d hg
  rw [hg']
  rfl

/-- A change of members that observers are told. -/
theorem ends_announced {cmd : Command} {f : State → State} {d : Direction} (text : String)
    (concerns : cmd.Concerns s.state zone)
    (there : ((f s.state).groups.get? zone).isSome = true)
    (spells : ∀ n, (f s.state).Spells n → s.state.Spells n ∨ cmd.zone? = some n) :
    Ends o s cmd (do modifyState f; line text; announce zone d) := by
  unfold Ends
  rw [perform_bind, perform_modifyState]
  simp only [perform_bind, perform_line]
  obtain ⟨lines, hrun⟩ := perform_announce (o := o) (d := d)
    (s := { s with state := f s.state, transcript := s.transcript.line text }) there
  rw [hrun]
  exact .announced concerns ((State.isSome_sight _ _).trans (isSome_afterChange there))
    (fun n hn => spells n (State.spells_afterChange hn)) rfl (List.forall_mem_nil _) rfl

theorem ends_addGroup (zone : DomainName) (parent : String) :
    Ends o s (.groupAdd zone parent) (addGroup zone parent) := by
  refine ends_state_bind (ends_lift_bind fun τ hτ => ends_told _ (.inl rfl) ?_ fun n hn => ?_)
  · unfold State.addGroup at hτ
    split at hτ
    · cases hτ
    · cases hτ
      rw [OrderedMap.get?_insert, if_pos Std.ReflCmp.compare_self]
      rfl
  · exact (State.spells_addGroup hτ hn).imp_right fun h => congrArg some h

theorem ends_removeGroup (zone : DomainName) :
    Ends o s (.groupRemove zone) (removeGroup zone) := by
  unfold Ends removeGroup
  rw [perform_bind, Deed.perform_requireIdle]
  cases hidle : s.scheduler.isRunning zone with
  | true => exact .refused rfl
  | false =>
    refine ends_state_bind (ends_lift_bind fun ⟨g, τ⟩ hτ => ?_)
    exact .removed hidle hτ rfl rfl

theorem ends_addSigner (zone : DomainName) (name : String) (nameserver : DomainName)
    (address : String) :
    Ends o s (.signerAdd zone name nameserver address) (addSigner zone name nameserver address) := by
  refine ends_state_bind (ends_lift_bind fun τ hτ => ?_)
  refine ends_announced (d := .joining) _ (.inl rfl) ?_ fun n hn => ?_
  · obtain ⟨-, ⟨g, hg⟩, -, hgroups⟩ := addSigner_eq_ok hτ
    rw [hgroups, OrderedMap.get?_modify, if_pos Std.ReflCmp.compare_self, hg]
    rfl
  · exact (State.spells_addSigner hτ hn).imp_right fun h => congrArg some h

theorem ends_removeSigner (name : String) :
    Ends o s (.signerRemove name) (removeSigner name) := by
  refine ends_state_bind (ends_lift_bind fun signer hsigner => ends_unless fun _ => ?_)
  refine ends_lift_bind fun g hg => ends_unless fun _ => ends_lift_bind fun ⟨r, τ⟩ hτ => ?_
  have hplain : ∀ e ∈ [Event.left signer.group name], e.Plain := fun e he => by
    rw [List.mem_singleton.1 he]
    exact nofun
  unfold Ends
  simp only [perform_bind, perform_modifyState, perform_line, perform_publish,
    perform_publishStatus]
  refine .announced (.inr ⟨name, signer, rfl, State.signer_eq_ok.1 hsigner, rfl⟩) ?_
    (fun n hn => .inl (State.spells_removeSigner hτ hn)) rfl hplain (List.append_assoc ..)
  obtain ⟨signer', hsigner', hτ⟩ := bind_eq_ok.1 hτ
  cases hsigner.symm.trans hsigner'
  cases hτ
  rw [State.isSome_sight, OrderedMap.get?_modify, if_pos Std.ReflCmp.compare_self,
    State.group_eq_ok.1 hg]
  rfl

/-- Marking a signer is not refused halfway, since the signer's group is there. -/
theorem ends_markLeave (h : s.state.Intact) (name : String) (leaving : Bool) :
    Ends o s (.signerLeave name leaving) (markLeave name leaving) := by
  refine ends_state_bind (ends_lift_bind fun signer hsigner => ?_)
  split
  · exact ends_quiet (quiet_line _)
  · have hget := State.signer_eq_ok.1 hsigner
    obtain ⟨names, hroster, -⟩ := h.joined name signer.group (State.home_eq_some.2 ⟨_, hget, rfl⟩)
    obtain ⟨g, hg, -⟩ := Option.map_eq_some_iff.1 hroster
    have hspells : ∀ n, (s.state.modifySigner name fun r => { r with leaving := leaving }).Spells n →
        s.state.Spells n := fun n => State.spells_modifySigner fun _ => rfl
    exact ends_announced (d := turn leaving)
      (f := fun σ => σ.modifySigner name fun r => { r with leaving := leaving }) _
      (.inr ⟨name, signer, rfl, hget, rfl⟩) (Option.isSome_iff_exists.2 ⟨g, hg⟩)
      fun n hn => .inl (hspells n hn)

/-- A group that was looked up is changed. -/
theorem ends_modifyGroup {cmd : Command} {g : Group} {f : Group → Group} (text : String)
    (hcmd : cmd.zone? = some zone) (hg : s.state.group zone = .ok g) :
    Ends o s cmd (do
      modifyState fun _ => s.state.modifyGroup zone f
      line text
      publishStatus zone) := by
  refine ends_told text (.inl hcmd) ?_ fun n hn => .inl (State.spells_modifyGroup hn)
  rw [State.get?_modifyGroup, State.group_eq_ok.1 hg]
  rfl

theorem ends_clearError (zone : DomainName) (stage : Stage) :
    Ends o s (.automateClearError zone stage) (clearError zone stage) := by
  refine ends_state_bind (ends_lift_bind fun r hr => ?_)
  obtain ⟨g, hg, hr⟩ := bind_eq_ok.1 hr
  split at hr
  · cases hr
    exact ends_quiet (quiet_line _)
  · cases hr
    exact ends_modifyGroup _ rfl hg

theorem ends_enterManual (zone : DomainName) :
    Ends o s (.automateManual zone) (enterManual zone) := by
  refine ends_state_bind (ends_lift_bind fun τ hτ => ?_)
  obtain ⟨g, hg, hτ⟩ := bind_eq_ok.1 hτ
  split at hτ
  · cases hτ
  · cases hτ
    exact ends_modifyGroup _ rfl hg

theorem ends_resume (zone : DomainName) (stage : Stage) :
    Ends o s (.automateResume zone stage) (resume zone stage) := by
  refine ends_state_bind (ends_lift_bind fun τ hτ => ?_)
  obtain ⟨g, hg, hτ⟩ := bind_eq_ok.1 hτ
  split at hτ
  · cases hτ
  · cases hτ
    exact ends_modifyGroup _ rfl hg

theorem ends_start (zone : DomainName) : Ends o s (.automateStart zone) (start zone) := by
  refine ends_state_bind (ends_lift_bind fun g hg => ?_)
  unfold Ends
  rw [perform_bind, perform_get]
  refine ends_lift_bind fun scheduler hscheduler => .started ?_ hscheduler rfl rfl
  rw [State.isSome_sight, State.group_eq_ok.1 hg]
  rfl

theorem ends_stop (zone : DomainName) : Ends o s (.automateStop zone) (stop zone) := by
  refine ends_state_bind (ends_lift_bind fun g hg => ?_)
  unfold Ends
  rw [perform_bind, perform_get]
  refine ends_lift_bind fun scheduler hscheduler => .stopped ?_ hscheduler rfl rfl
  rw [State.isSome_sight, State.group_eq_ok.1 hg]
  rfl

theorem ends_setEntry (key value : String) :
    Ends o s (.confSet key value) (setEntry key value) := by
  refine ends_state_bind (ends_lift_bind fun τ hτ => ends_unseen _ ?_)
  exact State.outline_of_setEntry hτ

theorem ends_removeEntry (key : String) :
    Ends o s (.confRemove key) (removeEntry key) := by
  refine ends_state_bind (ends_lift_bind fun ⟨changed, τ⟩ hτ => ends_unseen _ ?_)
  exact State.outline_of_removeEntry hτ

/-- A change of the groups that start with the daemon. -/
theorem ends_listed {cmd : Command} {f : List DomainName → List DomainName} (text : String)
    (h : ∀ n ∈ f s.state.autostart, n ∈ s.state.autostart ∨ cmd.zone? = some n) :
    Ends o s cmd (do modifyState (fun σ => { σ with autostart := f σ.autostart }); line text) := by
  unfold Ends
  simp only [perform_bind, perform_modifyState, perform_line]
  refine .listed (fun _ => rfl) (fun n hn => ?_) rfl rfl
  cases hn with
  | key hn => exact .inl (.key hn)
  | home hr hgroup => exact .inl (.home hr hgroup)
  | autostart hn => exact (h n hn).imp_left .autostart

theorem ends_addAutostart (zone : DomainName) :
    Ends o s (.autostartAdd zone) (addAutostart zone) := by
  refine ends_state_bind (ends_lift_bind fun g _ => ?_)
  split
  · exact ends_quiet (quiet_line _)
  · refine ends_listed (f := (· ++ [zone])) _ fun n hn => ?_
    rcases List.mem_append.1 hn with hn | hn
    · exact .inl hn
    · exact .inr (by rw [List.mem_singleton.1 hn]; rfl)

theorem ends_removeAutostart (zone : DomainName) :
    Ends o s (.autostartRemove zone) (removeAutostart zone) := by
  refine ends_state_bind (ends_lift_bind fun g _ => ?_)
  split
  · exact ends_listed (f := List.filter fun z => !(z == zone)) _ fun n hn =>
      .inl (List.mem_filter.1 hn).1
  · exact ends_quiet (quiet_line _)

/-- A signer that was looked up is changed in what concerns its updates. -/
theorem ends_modifySigner {cmd : Command} {f : Signer → Signer} (text : String)
    (hf : ∀ r, (f r).group = r.group ∧ (f r).leaving = r.leaving) :
    Ends o s cmd (do modifyState (fun σ => σ.modifySigner name f); line text) :=
  ends_unseen text (s.state.outline_modifySigner name hf)

/-- **How commands end that have nothing to do with servers.** -/
theorem outcome_of_command {cmd : Command} (h : s.state.Intact) (hcmd : cmd.asks = false)
    {r : Except Error Unit} (hrun : cmd.run.perform o s = (r, t)) : Outcome s cmd r t := by
  suffices hends : Ends o s cmd cmd.run by
    unfold Ends at hends
    rwa [hrun] at hends
  cases hlooks : cmd.looks with
  | true => exact ends_quiet (quiet_of_looks hlooks)
  | false =>
  cases cmd with
  | help | groupList | signerList | automateError | autostartList | confGet | confList =>
    cases hlooks
  | status | syncDnskeys | syncCds | syncNs | wait | addCsync | removeCsync | removeCds
  | automateStep => cases hcmd
  | groupAdd zone parent => exact ends_addGroup zone parent
  | groupRemove zone => exact ends_removeGroup zone
  | signerAdd zone name nameserver address => exact ends_addSigner zone name nameserver address
  | signerRemove name => exact ends_removeSigner name
  | signerLeave name leaving => exact ends_markLeave h name leaving
  | signerTsig name key =>
    cases key with
    | none => cases hlooks
    | some key =>
      refine ends_state_bind (ends_lift_bind fun _ _ => ends_unless fun _ => ?_)
      exact ends_modifySigner _ fun _ => ⟨rfl, rfl⟩
  | signerType name kind token =>
    exact ends_state_bind (ends_lift_bind fun _ _ => ends_modifySigner _ fun _ => ⟨rfl, rfl⟩)
  | signerCsk name combined =>
    exact ends_state_bind (ends_lift_bind fun _ _ => ends_modifySigner _ fun _ => ⟨rfl, rfl⟩)
  | automateStart zone => exact ends_start zone
  | automateStop zone => exact ends_stop zone
  | automateClearError zone stage => exact ends_clearError zone stage
  | automateManual zone => exact ends_enterManual zone
  | automateResume zone stage => exact ends_resume zone stage
  | autostartAdd zone => exact ends_addAutostart zone
  | autostartRemove zone => exact ends_removeAutostart zone
  | confSet key value => exact ends_setEntry key value
  | confRemove key => exact ends_removeEntry key

end Command

/-! ## 5. Steps -/

/-- What lasts when the document of a session becomes another one, and observers are told how a
group is then. -/
def Session.told (zone : DomainName) (τ : State) (s : Session ω) :
    State × Scheduler × List Event × List Delivery :=
  (τ, s.scheduler, s.events ++ (Event.status? τ zone).toList, s.deliveries)

namespace Automation

/-- How a step ends. -/
inductive StepOutcome (zone : DomainName) (o : Outside ω) (s : Session ω) :
    Except Error Unit → Session ω → Prop
  | missing (group : s.state.sight zone = none) :
      StepOutcome zone o s (.error (.noSuchGroup zone)) s
  | rested {t : Session ω} (rest : t.lasting = s.lasting) : StepOutcome zone o s (.ok ()) t
  | stayed {g : Group} {d : Direction} {a : Activity} {u t : Session ω}
      (group : s.state.groups.get? zone = some g) (stage : g.stage = .walking d a)
      (run : (runStage zone (.walking d a)).perform o s = (.ok (.walking d a), u))
      (rest : t.lasting = u.lasting) : StepOutcome zone o s (.ok ()) t
  | moved {g : Group} {d : Direction} {a : Activity} {next : Stage} {u t : Session ω}
      (group : s.state.groups.get? zone = some g) (stage : g.stage = .walking d a)
      (run : (runStage zone (.walking d a)).perform o s = (.ok next, u))
      (told : t.lasting = u.told zone (moveTo zone next u.state)) : StepOutcome zone o s (.ok ()) t
  /-- The failure is the one of the work, and observers are told that the group is in the error
  stage. -/
  | failed {g : Group} {d : Direction} {a : Activity} {e : Error} {u t : Session ω}
      (group : s.state.groups.get? zone = some g) (stage : g.stage = .walking d a)
      (run : (runStage zone (.walking d a)).perform o s = (.error e, u))
      (told : t.lasting = u.told zone (fail zone e u.state)) : StepOutcome zone o s (.error e) t

/-- **How steps end.** -/
theorem outcome_of_step {r : Except Error Unit} (h : (step zone).perform o s = (r, t)) :
    StepOutcome zone o s r t := by
  cases hg : s.state.groups.get? zone with
  | none =>
    have hunseen := State.sight_eq_none.2 hg
    simp only [step, perform_bind, perform_state, perform_lift, State.group_of_unseen hunseen] at h
    cases h
    exact .missing hunseen
  | some g =>
    cases hrests : restingLine g.stage with
    | some text =>
      rw [perform_step_of_rests hg hrests] at h
      cases h
      exact .rested rfl
    | none =>
      rcases hstage : g.stage with _ | _ | _ | ⟨d, a⟩
      iterate 3 · rw [hstage] at hrests; cases hrests
      simp only [step, perform_bind, perform_state, perform_lift, State.group_eq_ok.2 hg, hstage,
        restingLine, walkingStep, perform_attempt] at h
      rcases hrun : (runStage zone (.walking d a)).perform o s with ⟨e | next, u⟩
      · simp only [hrun, perform_bind, perform_line, perform_modifyState, perform_publishStatus,
          perform_throw] at h
        cases h
        exact .failed hg hstage hrun rfl
      · simp only [hrun, perform_ite, perform_bind, perform_line, perform_modifyState,
          perform_publishStatus, perform_pure] at h
        split at h
        · cases h
          exact .moved hg hstage hrun rfl
        · rename_i hsame
          cases h
          cases not_not.1 hsame
          exact .stayed hg hstage hrun rfl

/-- **A step leaves the tasks alone.** -/
theorem StepOutcome.scheduler {r : Except Error Unit} (h : StepOutcome zone o s r t) :
    t.scheduler = s.scheduler := by
  have hrun {stage : Stage} {r : Except Error Stage} {u : Session ω}
      (h : (runStage zone stage).perform o s = (r, u)) : u.scheduler = s.scheduler :=
    congrArg (fun p => p.2.1) ((inward_runStage zone stage).rel_of_perform h)
  cases h with
  | missing => rfl
  | rested hrest => exact (Session.lasting_eq_iff.1 hrest).2.1
  | stayed _ _ hu hrest => exact (Session.lasting_eq_iff.1 hrest).2.1.trans (hrun hu)
  | moved _ _ hu htold | failed _ _ hu htold => exact (congrArg (fun p => p.2.1) htold).trans (hrun hu)

end Automation

/-- A command that lets a group do a step is refused, or it does. -/
theorem Command.step_of_automateStep {r : Except Error Unit}
    (h : (Command.automateStep zone none).run.perform o s = (r, t)) :
    t.lasting = s.lasting ∨ (Automation.step zone).perform o s = (r, t) := by
  simp only [run, Command.step, perform_bind, Deed.perform_requireIdle] at h
  cases hbusy : s.scheduler.isRunning zone with
  | true =>
    rw [hbusy] at h
    cases h
    exact .inl rfl
  | false =>
    simp only [hbusy, Bool.false_eq_true, if_false] at h
    exact .inr h

end MultiSigner
