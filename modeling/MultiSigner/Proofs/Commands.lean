/-
# What commands do to the document

A command may do much: ask servers, send updates, tell observers.  What it does to the document is
one of few things, each of which is an `Edit`, stated with what was looked up before it was made.
`leaves_command` says so of every command, however it goes; left out are only the two that share
their work with the automation, waiting and stepping.  Of these `leaves_timed` says that they edit,
or change the group that they are about, whose members stay what they are.

So what holds of documents along runs can be shown edit by edit, without opening any command.
-/
import Mathlib.Logic.Relation
import MultiSigner.Proofs.Run

namespace MultiSigner

open Operation Automation

variable {ω α β : Type} {zone : DomainName}

/-! ## 1. Edits -/

/-- A change that a command makes in the document. -/
inductive State.Edit : State → State → Prop
  | addGroup {σ τ : State} {zone : DomainName} {parent : String}
      (added : σ.addGroup zone { parent := parent } = .ok τ) : Edit σ τ
  | removeGroup {σ τ : State} {zone : DomainName} {g : Group}
      (removed : σ.removeGroup zone = .ok (g, τ)) : Edit σ τ
  | addSigner {σ τ : State} {zone nameserver : DomainName} {name address : String}
      (added : σ.addSigner name { group := zone, address := address, nameserver := nameserver }
        = .ok τ) : Edit σ τ
  | removeSigner {σ τ : State} {name : String} {signer : Signer}
      (removed : σ.removeSigner name = .ok (signer, τ)) : Edit σ τ
  | modifySigner {σ : State} (name : String) {f : Signer → Signer}
      (stays : ∀ r, (f r).group = r.group) : Edit σ (σ.modifySigner name f)
  /-- A change of its members lets a group walk. -/
  | restart {σ : State} {zone : DomainName} {g : Group} (d : Direction)
      (group : σ.groups.get? zone = some g) : Edit σ (σ.modifyGroup zone (restarted d))
  | flags {σ : State} (zone : DomainName) (f : SyncFlags) : Edit σ (Status.withFlags zone f σ)
  /-- The keys of a group's members were seen. -/
  | dnskeyOrigins {σ : State} {zone : DomainName} {views : List SignerView}
      (asked : σ.members zone = .ok (views.map SignerView.member)) :
      Edit σ (views.foldl Sync.Dnskeys.recordOrigins σ)
  /-- Their names were. -/
  | nsOrigins {σ : State} {zone : DomainName} {views : List SignerView}
      (asked : σ.members zone = .ok (views.map SignerView.member)) :
      Edit σ (views.foldl Sync.Nameservers.recordOrigins σ)
  | clearError {σ : State} {zone : DomainName} {g : Group} (stage : Stage)
      (group : σ.groups.get? zone = some g) (failed : g.stage = .error) :
      Edit σ (σ.modifyGroup zone fun g => { g with stage := stage, error := none })
  | enterManual {σ : State} {zone : DomainName} {g : Group}
      (group : σ.groups.get? zone = some g) (rests : g.stage = .ready ∨ g.stage = .error) :
      Edit σ (σ.modifyGroup zone fun g => { g with stage := .manual, error := none })
  | resume {σ : State} {zone : DomainName} {g : Group} (stage : Stage)
      (group : σ.groups.get? zone = some g) (manual : g.stage = .manual) :
      Edit σ (moveTo zone stage σ)
  | addAutostart {σ : State} {zone : DomainName} {g : Group} (group : σ.group zone = .ok g)
      (new : (σ.autostart.any (· == zone)) = false) :
      Edit σ { σ with autostart := σ.autostart ++ [zone] }
  | removeAutostart {σ : State} (zone : DomainName) :
      Edit σ { σ with autostart := σ.autostart.filter fun z => !(z == zone) }
  | setEntry {σ τ : State} {key value : String} (set : σ.setEntry key value = .ok τ) : Edit σ τ
  | removeEntry {σ τ : State} {key : String} {changed : Bool}
      (removed : σ.removeEntry key = .ok (changed, τ)) : Edit σ τ

/-- A change that the automation of a zone makes in the document: an edit, or one of the zone's
group, which keeps its members. -/
inductive State.Change (zone : DomainName) : State → State → Prop
  | edit {σ τ : State} (edit : Edit σ τ) : Change zone σ τ
  | group {σ : State} {f : Group → Group} (members : ∀ g, (f g).signers = g.signers) :
      Change zone σ (σ.modifyGroup zone f)

/-- What every change keeps is kept by any number of them. -/
theorem State.kept_of_changes {P : State → Prop} {σ τ : State}
    (h : Relation.ReflTransGen (Change zone) σ τ) (hP : ∀ σ τ, Change zone σ τ → P σ → P τ)
    (hσ : P σ) : P τ := by
  induction h with
  | refl => exact hσ
  | tail _ hchange ih => exact hP _ _ hchange ih

/-- The document is edited any number of times. -/
def Footprint.edited : Footprint ω where
  rel s t := Relation.ReflTransGen State.Edit s.state t.state
  refl _ := .refl
  trans h k := h.trans k

/-- The same for changes. -/
def Footprint.changed (zone : DomainName) : Footprint ω where
  rel s t := Relation.ReflTransGen (State.Change zone) s.state t.state
  refl _ := .refl
  trans h k := h.trans k

namespace Operation

theorem Leaves.changed {op : Operation ω α} (h : Leaves .edited op) (zone : DomainName) :
    Leaves (.changed zone) op :=
  h.mono fun _ _ => Relation.ReflTransGen.mono (fun _ _ => State.Change.edit) _ _

theorem Leaves.preserving_of_changed {P : State → Prop} {op : Operation ω α}
    (h : Leaves (.changed zone) op) (hP : ∀ σ τ, State.Change zone σ τ → P σ → P τ) :
    Leaves (.preserving P) op :=
  h.mono fun _ _ hst => State.kept_of_changes hst hP

theorem changed_modifyGroup {f : Group → Group} (zone : DomainName)
    (hf : ∀ g, (f g).signers = g.signers) :
    Leaves (.changed zone) (modifyState fun s => s.modifyGroup zone f : Operation ω Unit) :=
  fun _ _ => .single (.group hf)

theorem edited_of_state {op : Operation ω α} (h : ∀ o s, (op.perform o s).2.state = s.state) :
    Leaves .edited op := fun o s => by
  show Relation.ReflTransGen State.Edit s.state _
  rw [h o s]

theorem Quiet.edited {op : Operation ω α} (h : Quiet op) : Leaves .edited op :=
  edited_of_state fun _ _ => h.state_eq rfl

theorem edited_publish (e : Event) : Leaves .edited (publish e : Operation ω Unit) :=
  edited_of_state fun _ _ => rfl

theorem edited_publishStatus (zone : DomainName) :
    Leaves .edited (publishStatus zone : Operation ω Unit) :=
  edited_of_state fun _ _ => by rw [perform_publishStatus]

theorem edited_modifyState {f : State → State} (h : ∀ σ, State.Edit σ (f σ)) :
    Leaves .edited (modifyState f : Operation ω Unit) :=
  fun _ s => .single (h s.state)

theorem edited_modifySigner {f : Signer → Signer} (name : String)
    (hf : ∀ r, (f r).group = r.group) :
    Leaves .edited (modifyState fun s => s.modifySigner name f : Operation ω Unit) :=
  edited_modifyState fun _ => .modifySigner name hf

/-- What an operation does depends on the document that it finds. -/
theorem leaves_state_bind {F : Footprint ω} {f : State → Operation ω α}
    (h : ∀ o s, F.rel s ((f s.state).perform o s).2) : Leaves F (state >>= f) := fun o s => by
  rw [perform_bind, perform_state]
  exact h o s

/-- It is refused, or goes on with what was looked up. -/
theorem rel_lift_bind {F : Footprint ω} {r : Except Error β} {f : β → Operation ω α}
    {o : Outside ω} {s : Session ω} (h : ∀ b, r = .ok b → F.rel s ((f b).perform o s).2) :
    F.rel s ((liftM r >>= f : Operation ω α).perform o s).2 := by
  rw [perform_bind, perform_lift]
  cases r with
  | error e => exact F.refl s
  | ok b => exact h b rfl

/-- It is refused under a condition, or goes on. -/
theorem rel_unless {F : Footprint ω} {c : Prop} [Decidable c] {e : Error}
    {f : Unit → Operation ω α} {o : Outside ω} {s : Session ω}
    (h : ¬ c → F.rel s ((f ()).perform o s).2) :
    F.rel s ((if c then throw e >>= f else f ()).perform o s).2 := by
  split
  · exact F.refl s
  · exact h ‹_›

/-- The document is edited first. -/
theorem edited_modify_bind {f : State → State} {op : Operation ω α} {o : Outside ω}
    {s : Session ω} (hedit : State.Edit s.state (f s.state)) (h : Leaves .edited op) :
    Footprint.edited.rel s ((do modifyState f; op).perform o s).2 := by
  rw [perform_bind, perform_modifyState]
  exact Footprint.edited.trans (.single hedit) (h o _)

end Operation

/-! ## 2. Work that commands share with the automation -/

theorem edited_check (zone : DomainName) :
    Leaves .edited (Status.check zone : Operation ω SyncFlags) :=
  Status.leaves_check_within Quiet.edited fun f => edited_modifyState fun _ => .flags zone f

/-- The views of a group, and what is done with them. -/
theorem edited_observeGroup_bind {kinds : List RecordKind} {f : List SignerView → Operation ω α}
    (h : ∀ views o s, s.state.members zone = .ok (views.map SignerView.member) →
      Footprint.edited.rel s ((f views).perform o s).2) :
    Leaves .edited (observeGroup zone kinds >>= f) := by
  intro o s
  rw [perform_bind]
  rcases hviews : (observeGroup zone kinds).perform o s with ⟨e | views, t⟩
  all_goals have hstate := (quiet_observeGroup zone kinds).state_eq hviews
  · show Relation.ReflTransGen State.Edit s.state t.state
    rw [hstate]
  · have hmembers := members_of_observeGroup hviews
    rw [← hstate] at hmembers
    have hedited := h views o t hmembers
    show Relation.ReflTransGen State.Edit s.state _
    rw [← hstate]
    exact hedited

/-- **Planning notes origins** at signers that were asked, and edits nothing else. -/
theorem edited_planning (zone : DomainName) (a : Activity) :
    Leaves .edited (planning zone a : Operation ω (List Plan)) := by
  by_cases hkeys : a = .syncDnskeys
  · subst hkeys
    refine edited_observeGroup_bind fun views o s hviews => ?_
    refine edited_modify_bind (.dnskeyOrigins hviews) ?_
    exact leaves_bind leaves_state fun _ => leaves_bind (quiet_tell _).edited fun _ => leaves_pure _
  by_cases hnames : a = .syncNs
  · subst hnames
    refine edited_observeGroup_bind fun views o s hviews => ?_
    rw [perform_bind, perform_state]
    refine rel_lift_bind fun g _ => edited_modify_bind (.nsOrigins hviews) ?_
    exact leaves_bind (quiet_lines _).edited fun _ => leaves_pure _
  · exact (quiet_planning zone hkeys hnames).edited

/-- The work of an activity that changes records. -/
theorem edited_act (zone : DomainName) (d : Direction) (a : Activity) {op : Operation ω Unit}
    (h : work zone d a = .act op) : Leaves .edited op := by
  intro o s
  rw [(perform_of_act h).2]
  refine leaves_bind (edited_planning zone a) (fun plans => edited_of_state fun o s => ?_) o s
  exact congrArg Prod.fst (Push.leaves_push_settled zone plans o s)

/-- **A change of members** lets the group walk, or does nothing. -/
theorem edited_membershipChanged (zone : DomainName) (d : Direction) :
    Leaves .edited (membershipChanged zone d : Operation ω Unit) := by
  refine leaves_state_bind fun o s => rel_lift_bind fun g hg => ?_
  rw [perform_ite]
  split
  · exact edited_modify_bind (.restart d (State.group_eq_ok.1 hg)) (quiet_line _).edited
  · exact Footprint.edited.refl s

/-! ## 3. Holds and steps -/

theorem Hold.signers_withDeadline (h : Hold) (t : Option Timestamp) (g : Group) :
    (h.withDeadline t g).signers = g.signers := by
  cases h <;> rfl

theorem changed_wait (h : Hold) (zone : DomainName) :
    Leaves (.changed zone) (h.wait zone : Operation ω Timestamp) :=
  Hold.leaves_wait_within h (fun hop => hop.edited.changed zone) fun _ =>
    changed_modifyGroup zone fun _ => h.signers_withDeadline _ _

theorem changed_doWork (zone : DomainName) (stage : Stage) {w : Work ω}
    (hact : ∀ op, w = .act op → Leaves .edited op) :
    Leaves (.changed zone) (doWork zone stage w : Operation ω Stage) := by
  have hline (text : String) : Leaves (.changed zone) (line text : Operation ω Unit) :=
    (quiet_line text).edited.changed zone
  cases w with
  | act op => exact leaves_bind ((hact op rfl).changed zone) fun _ => leaves_pure _
  | check flag =>
    refine leaves_bind ((edited_check zone).changed zone) fun flags => ?_
    exact leaves_ite (leaves_bind (hline _) fun _ => leaves_pure _)
      (leaves_bind (hline _) fun _ => leaves_pure _)
  | hold h =>
    refine leaves_bind (changed_wait h zone) fun deadline => leaves_bind leaves_now fun now => ?_
    refine leaves_ite (leaves_pure _) (leaves_bind (hline _) fun _ => ?_)
    exact leaves_bind (changed_modifyGroup zone fun _ => h.signers_withDeadline _ _) fun _ =>
      leaves_pure _

theorem changed_runStage (zone : DomainName) (stage : Stage) :
    Leaves (.changed zone) (runStage zone stage : Operation ω Stage) := by
  cases stage with
  | walking d a => exact changed_doWork zone _ fun op hop => edited_act zone d a hop
  | ready | error | manual => exact leaves_pure _

theorem changed_walkingStep (zone : DomainName) (stage : Stage) :
    Leaves (.changed zone) (walkingStep zone stage : Operation ω Unit) := by
  refine leaves_bind (leaves_attempt (changed_runStage zone stage)) fun r => ?_
  cases r with
  | ok next =>
    refine leaves_ite ?_ (leaves_pure _)
    refine leaves_bind (changed_modifyGroup zone fun _ => rfl) fun _ => ?_
    exact leaves_bind ((quiet_line _).edited.changed zone) fun _ =>
      (edited_publishStatus zone).changed zone
  | error e =>
    refine leaves_bind ((quiet_line _).edited.changed zone) fun _ => ?_
    refine leaves_bind (changed_modifyGroup zone fun _ => rfl) fun _ => ?_
    exact leaves_bind ((edited_publishStatus zone).changed zone) fun _ => leaves_throw e

/-- **A step edits the document or changes its group**, also when it fails. -/
theorem changed_step (zone : DomainName) :
    Leaves (.changed zone) (Automation.step zone : Operation ω Unit) := by
  refine leaves_bind leaves_state fun _ => leaves_bind (leaves_lift _) fun g => ?_
  cases restingLine g.stage with
  | some text => exact (quiet_line text).edited.changed zone
  | none => exact changed_walkingStep zone g.stage

theorem changed_manualStep (zone : DomainName) (stage : Stage) :
    Leaves (.changed zone) (manualStep zone stage : Operation ω Unit) := by
  refine leaves_bind leaves_state fun _ => leaves_bind (leaves_lift _) fun g => ?_
  exact leaves_unless (leaves_bind (changed_runStage zone stage) fun _ =>
    (quiet_line _).edited.changed zone)

/-! ## 4. Commands -/

namespace Command

theorem leaves_requireIdle (zone : DomainName) {F : Footprint ω} :
    Leaves F (requireIdle zone : Operation ω Unit) :=
  leaves_of_perform_eq fun _ _ => by rw [Deed.perform_requireIdle]

theorem edited_addGroup (zone : DomainName) (parent : String) :
    Leaves .edited (addGroup zone parent : Operation ω Unit) := by
  refine leaves_state_bind fun o s => rel_lift_bind fun τ hτ => ?_
  exact edited_modify_bind (.addGroup hτ)
    (leaves_bind (quiet_line _).edited fun _ => edited_publishStatus zone)

theorem edited_removeGroup (zone : DomainName) :
    Leaves .edited (removeGroup zone : Operation ω Unit) := by
  refine leaves_bind (leaves_requireIdle zone) fun _ => ?_
  refine leaves_state_bind fun o s => rel_lift_bind fun ⟨g, τ⟩ hτ => ?_
  exact edited_modify_bind (.removeGroup hτ) (quiet_line _).edited

theorem edited_addSigner (zone : DomainName) (name : String) (nameserver : DomainName)
    (address : String) :
    Leaves .edited (addSigner zone name nameserver address : Operation ω Unit) := by
  refine leaves_state_bind fun o s => rel_lift_bind fun τ hτ => ?_
  refine edited_modify_bind (.addSigner hτ) (leaves_bind (quiet_line _).edited fun _ => ?_)
  exact leaves_bind (edited_membershipChanged zone .joining) fun _ => edited_publishStatus zone

theorem edited_removeSigner (name : String) :
    Leaves .edited (removeSigner name : Operation ω Unit) := by
  refine leaves_state_bind fun o s => rel_lift_bind fun signer _ => ?_
  refine rel_unless fun _ => rel_lift_bind fun g _ => rel_unless fun _ => ?_
  refine rel_lift_bind fun ⟨_, τ⟩ hτ => ?_
  exact edited_modify_bind (.removeSigner hτ) (leaves_bind (quiet_line _).edited fun _ =>
    leaves_bind (edited_publish _) fun _ => edited_publishStatus _)

theorem edited_markLeave (name : String) (leaving : Bool) :
    Leaves .edited (markLeave name leaving : Operation ω Unit) := by
  refine leaves_bind leaves_state fun _ => leaves_bind (leaves_lift _) fun signer => ?_
  refine leaves_ite (quiet_line _).edited ?_
  refine leaves_bind (edited_modifySigner name fun _ => rfl) fun _ => ?_
  refine leaves_bind (quiet_line _).edited fun _ => ?_
  exact leaves_bind (edited_membershipChanged _ _) fun _ => edited_publishStatus _

theorem edited_setTsig (name key : String) :
    Leaves .edited (setTsig name key : Operation ω Unit) := by
  refine leaves_bind leaves_state fun _ => leaves_bind (leaves_lift _) fun _ => ?_
  exact leaves_unless (leaves_bind (edited_modifySigner name fun _ => rfl) fun _ =>
    (quiet_line _).edited)

theorem edited_clearError (zone : DomainName) (stage : Stage) :
    Leaves .edited (clearError zone stage : Operation ω Unit) := by
  refine leaves_state_bind fun o s => rel_lift_bind fun r hr => ?_
  obtain ⟨g, hg, hr⟩ := bind_eq_ok.1 hr
  split at hr
  · cases hr
    exact (quiet_line _).edited o s
  · rename_i hfailed
    cases hr
    exact edited_modify_bind (.clearError stage (State.group_eq_ok.1 hg) (not_not.1 hfailed))
      (leaves_bind (quiet_line _).edited fun _ => edited_publishStatus zone)

theorem edited_enterManual (zone : DomainName) :
    Leaves .edited (enterManual zone : Operation ω Unit) := by
  refine leaves_state_bind fun o s => rel_lift_bind fun τ hτ => ?_
  obtain ⟨g, hg, hτ⟩ := bind_eq_ok.1 hτ
  split at hτ
  · cases hτ
  · rename_i hrests
    cases hτ
    refine edited_modify_bind (.enterManual (State.group_eq_ok.1 hg) ?_)
      (leaves_bind (quiet_line _).edited fun _ => edited_publishStatus zone)
    rwa [not_and_or, not_not, not_not] at hrests

theorem edited_resume (zone : DomainName) (stage : Stage) :
    Leaves .edited (resume zone stage : Operation ω Unit) := by
  refine leaves_state_bind fun o s => rel_lift_bind fun τ hτ => ?_
  obtain ⟨g, hg, hτ⟩ := bind_eq_ok.1 hτ
  split at hτ
  · cases hτ
  · rename_i hmanual
    cases hτ
    exact edited_modify_bind (.resume stage (State.group_eq_ok.1 hg) (not_not.1 hmanual))
      (leaves_bind (quiet_line _).edited fun _ => edited_publishStatus zone)

theorem edited_addAutostart (zone : DomainName) :
    Leaves .edited (addAutostart zone : Operation ω Unit) := by
  refine leaves_state_bind fun o s => rel_lift_bind fun g hg => ?_
  rw [perform_ite]
  split
  · exact (quiet_line _).edited o s
  · rename_i hnew
    exact edited_modify_bind (.addAutostart hg (Bool.not_eq_true _ ▸ hnew)) (quiet_line _).edited

theorem edited_removeAutostart (zone : DomainName) :
    Leaves .edited (removeAutostart zone : Operation ω Unit) := by
  refine leaves_bind leaves_state fun _ => leaves_bind (leaves_lift _) fun _ => ?_
  exact leaves_ite (leaves_bind (edited_modifyState fun _ => .removeAutostart zone) fun _ =>
    (quiet_line _).edited) (quiet_line _).edited

theorem edited_setEntry (key value : String) :
    Leaves .edited (setEntry key value : Operation ω Unit) := by
  refine leaves_state_bind fun o s => rel_lift_bind fun τ hτ => ?_
  exact edited_modify_bind (.setEntry hτ) (quiet_line _).edited

theorem edited_removeEntry (key : String) :
    Leaves .edited (removeEntry key : Operation ω Unit) := by
  refine leaves_state_bind fun o s => rel_lift_bind fun ⟨changed, τ⟩ hτ => ?_
  exact edited_modify_bind (.removeEntry hτ) (quiet_line _).edited

/-- Operations that look something up in the document and go on with it. -/
theorem leaves_of_lookup {F : Footprint ω} {r : State → Except Error β}
    {f : State → β → Operation ω Unit} (h : ∀ σ b, Leaves F (f σ b)) :
    Leaves F (do let σ ← state; let b ← liftM (r σ); f σ b : Operation ω Unit) :=
  leaves_bind leaves_state fun σ => leaves_bind (leaves_lift _) (h σ)

/-- Whether a command only looks something up and says it. -/
def looks : Command → Bool
  | .help | .groupList | .signerList _ | .signerTsig _ none | .automateError _ | .autostartList
  | .confGet _ | .confList => true
  | _ => false

theorem quiet_of_looks {cmd : Command} (h : cmd.looks = true) :
    Quiet (cmd.run : Operation ω Unit) := by
  cases cmd with
  | help => exact quiet_lines _
  | groupList | autostartList =>
    refine leaves_bind leaves_state fun _ => ?_
    exact leaves_ite (leaves_bind (quiet_line _) fun _ => quiet_lines _) (quiet_lines _)
  | signerList zone =>
    refine leaves_of_lookup fun _ _ => ?_
    exact leaves_ite (leaves_bind (quiet_line _) fun _ => quiet_lines _) (quiet_lines _)
  | signerTsig name key =>
    cases key with
    | some key => cases h
    | none =>
      refine leaves_of_lookup fun _ signer => ?_
      cases signer.credential with
      | some key => exact quiet_line _
      | none => exact quiet_line _
  | automateError zone =>
    refine leaves_of_lookup fun _ g => ?_
    cases g.error with
    | some text => exact quiet_line _
    | none => exact quiet_line _
  | confGet key =>
    refine leaves_of_lookup fun _ value => ?_
    cases value with
    | some value => exact quiet_line _
    | none => exact quiet_line _
  | confList => exact leaves_of_lookup fun _ _ => quiet_lines _
  | _ => cases h

/-- The automation of a group is started and stopped beside the document. -/
theorem leaves_schedule {cmd : Command} {F : Footprint ω}
    (hcmd : (∃ zone, cmd = .automateStart zone) ∨ ∃ zone, cmd = .automateStop zone)
    (hF : ∀ {op : Operation ω Unit}, (∀ o s, (op.perform o s).2.state = s.state) → Leaves F op) :
    Leaves F (cmd.run : Operation ω Unit) := by
  rcases hcmd with ⟨zone, rfl⟩ | ⟨zone, rfl⟩
  all_goals
    refine leaves_of_lookup fun _ _ => leaves_bind leaves_get fun _ => ?_
    refine leaves_bind (leaves_lift _) fun _ => ?_
    exact leaves_bind (hF fun _ _ => rfl) fun _ => hF fun _ _ => rfl

/-- The zone of a command that shares the work of the automation on stages and deadlines. -/
def timed? : Command → Option DomainName
  | .wait _ zone | .automateStep zone _ => some zone
  | _ => none

/-- **Every other command edits the document**, and does nothing else to it. -/
theorem leaves_command {cmd : Command} (hcmd : cmd.timed? = none) :
    Leaves .edited (cmd.run : Operation ω Unit) := by
  cases hlooks : cmd.looks with
  | true => exact (quiet_of_looks hlooks).edited
  | false =>
  cases cmd with
  | wait | automateStep => cases hcmd
  | help | groupList | signerList | automateError | autostartList | confGet | confList =>
    cases hlooks
  | groupAdd zone parent => exact edited_addGroup zone parent
  | groupRemove zone => exact edited_removeGroup zone
  | signerAdd zone name nameserver address => exact edited_addSigner zone name nameserver address
  | signerRemove name => exact edited_removeSigner name
  | signerLeave name leaving => exact edited_markLeave name leaving
  | signerTsig name key =>
    cases key with
    | some key => exact edited_setTsig name key
    | none => cases hlooks
  | signerType name kind token =>
    refine leaves_of_lookup fun _ _ => ?_
    exact leaves_bind (edited_modifySigner name fun _ => rfl) fun _ => (quiet_line _).edited
  | signerCsk name combined =>
    refine leaves_of_lookup fun _ _ => ?_
    exact leaves_bind (edited_modifySigner name fun _ => rfl) fun _ => (quiet_line _).edited
  | status zone => exact leaves_bind (edited_check zone) fun _ => leaves_pure _
  | syncDnskeys zone => exact edited_act zone .joining .syncDnskeys rfl
  | syncCds zone => exact edited_act zone .joining .syncCds rfl
  | syncNs zone => exact edited_act zone .joining .syncNs rfl
  | addCsync zone => exact edited_act zone .joining .addCsync rfl
  | removeCsync zone => exact edited_act zone .joining .removeCsync rfl
  | removeCds zone => exact edited_act zone .joining .removeCds rfl
  | automateStart zone => exact leaves_schedule (.inl ⟨zone, rfl⟩) edited_of_state
  | automateStop zone => exact leaves_schedule (.inr ⟨zone, rfl⟩) edited_of_state
  | automateClearError zone stage => exact edited_clearError zone stage
  | automateManual zone => exact edited_enterManual zone
  | automateResume zone stage => exact edited_resume zone stage
  | autostartAdd zone => exact edited_addAutostart zone
  | autostartRemove zone => exact edited_removeAutostart zone
  | confSet key value => exact edited_setEntry key value
  | confRemove key => exact edited_removeEntry key

/-- **These commands edit the document or change the group** that they are about. -/
theorem leaves_timed {cmd : Command} (hcmd : cmd.timed? = some zone) :
    Leaves (.changed zone) (cmd.run : Operation ω Unit) := by
  cases cmd with
  | wait hold z =>
    cases hcmd
    refine leaves_bind (changed_wait hold zone) fun _ => leaves_bind leaves_now fun _ => ?_
    exact leaves_ite ((quiet_line _).edited.changed zone) (leaves_pure _)
  | automateStep z stage =>
    cases hcmd
    refine leaves_bind (leaves_requireIdle zone) fun _ => ?_
    split
    · exact changed_step zone
    · split
      · exact leaves_throw _
      · exact changed_manualStep zone _
  | _ => cases hcmd

end Command
end MultiSigner
