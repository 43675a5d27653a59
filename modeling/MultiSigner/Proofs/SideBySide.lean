/-
# Commands side by side

`Footing` carries what is done about one zone through two runs.  A process also runs commands, which
look up and change everything in the document, and it saves what it did.  Here the same is done for
all of it: `Ground` lists what a relation of sessions has to offer, with a relation of their
documents that every edit keeps (`State.Congruence`), and then everything that a process does is in
lockstep:

* `Ground.step` and `Ground.tick`: a step of the automation;
* `Ground.run` and `Ground.command`: a command, with its line taken apart and the document saved.

Two relations stand on this ground, one between documents that differ in secrets, and one between
sessions that differ in what was reported before.
-/
import MultiSigner.Controller
import MultiSigner.Proofs.Commands
import MultiSigner.Proofs.Lockstep

namespace MultiSigner

open Operation Automation

variable {ω α : Type} {o : Outside ω} {zone : DomainName}

/-! ## 1. Documents -/

/-- A relation of documents in which the same is found, and that stay related when the same is done
to both.  What is refused of one is refused of the other for the same reason. -/
structure State.Congruence (A : State → State → Prop) : Prop where
  groups : ∀ {σ σ'}, A σ σ' → σ'.groups = σ.groups
  signer : ∀ {σ σ'}, A σ σ' → ∀ name, σ'.signer name = σ.signer name
  autostart : ∀ {σ σ'}, A σ σ' → σ'.autostart = σ.autostart
  dnskeyOrigin : ∀ {σ σ'}, A σ σ' → σ'.dnskeyOrigin = σ.dnskeyOrigin
  keyNames : ∀ {σ σ'}, A σ σ' → ∀ name, σ'.tsigKeys.contains name = σ.tsigKeys.contains name
  entries : ∀ {σ σ'}, A σ σ' → σ'.entries = σ.entries
  modifyGroup : ∀ {σ σ'}, A σ σ' → ∀ zone f, A (σ.modifyGroup zone f) (σ'.modifyGroup zone f)
  modifySigner : ∀ {σ σ'}, A σ σ' → ∀ name f, A (σ.modifySigner name f) (σ'.modifySigner name f)
  modifyAutostart : ∀ {σ σ'}, A σ σ' → ∀ f : List DomainName → List DomainName,
    A { σ with autostart := f σ.autostart } { σ' with autostart := f σ'.autostart }
  dnskeyOrigins : ∀ {σ σ'}, A σ σ' → ∀ views : List SignerView,
    A (views.foldl Sync.Dnskeys.recordOrigins σ) (views.foldl Sync.Dnskeys.recordOrigins σ')
  addGroup : ∀ {σ σ'}, A σ σ' → ∀ zone g, Corresponds A (σ.addGroup zone g) (σ'.addGroup zone g)
  removeGroup : ∀ {σ σ'}, A σ σ' → ∀ zone,
    Corresponds (fun p p' => p'.1 = p.1 ∧ A p.2 p'.2) (σ.removeGroup zone) (σ'.removeGroup zone)
  addSigner : ∀ {σ σ'}, A σ σ' → ∀ name signer,
    Corresponds A (σ.addSigner name signer) (σ'.addSigner name signer)
  removeSigner : ∀ {σ σ'}, A σ σ' → ∀ name,
    Corresponds (fun p p' => p'.1 = p.1 ∧ A p.2 p'.2) (σ.removeSigner name) (σ'.removeSigner name)
  setEntry : ∀ {σ σ'}, A σ σ' → ∀ key value,
    Corresponds A (σ.setEntry key value) (σ'.setEntry key value)
  removeEntry : ∀ {σ σ'}, A σ σ' → ∀ key,
    Corresponds (fun p p' => p'.1 = p.1 ∧ A p.2 p'.2) (σ.removeEntry key) (σ'.removeEntry key)

namespace State.Congruence

variable {A : State → State → Prop} (hA : State.Congruence A) {σ σ' : State}

include hA

theorem group (h : A σ σ') (zone : DomainName) : σ'.group zone = σ.group zone := by
  rw [State.group, State.group, hA.groups h]

theorem entry (h : A σ σ') (key : String) : σ'.entry key = σ.entry key := by
  rw [State.entry, State.entry, hA.entries h]

/-- The group is looked up, and changed if it is as it should be. -/
theorem guarded (h : A σ σ') {c : Group → Prop} [DecidablePred c] {e : Group → Error}
    {f : Group → Group} :
    Corresponds A
      (do
        let g ← σ.group zone
        if c g then throw (e g)
        return σ.modifyGroup zone f)
      (do
        let g ← σ'.group zone
        if c g then throw (e g)
        return σ'.modifyGroup zone f) := by
  rw [hA.group h]
  exact corresponds_bind fun g => .ite (.error _) (.ok (hA.modifyGroup h zone f))

theorem clearError (h : A σ σ') (zone : DomainName) (stage : Stage) :
    Corresponds (Option.Rel A) (Automation.clearError σ zone stage)
      (Automation.clearError σ' zone stage) := by
  rw [Automation.clearError, Automation.clearError, hA.group h]
  exact corresponds_bind fun g => .ite (.ok .none) (.ok (.some (hA.modifyGroup h zone _)))

theorem enterManual (h : A σ σ') (zone : DomainName) :
    Corresponds A (Automation.enterManual σ zone) (Automation.enterManual σ' zone) :=
  hA.guarded h

theorem resume (h : A σ σ') (zone : DomainName) (stage : Stage) :
    Corresponds A (Automation.resume σ zone stage) (Automation.resume σ' zone stage) :=
  hA.guarded h

end State.Congruence

/-! ## 2. Sessions -/

/-- What two related sessions share, and what has to be in lockstep for everything that a process
does to be.  Documents are related by `A`, and credentials correspond by `Q`. -/
structure Ground (A : State → State → Prop) (Q : Credential → Credential → Prop)
    (R : Session ω → Session ω → Prop) (o : Outside ω) : Prop where
  documents : State.Congruence A
  footing : ∀ zone, Footing zone Q R o
  state : ∀ {s s'}, R s s' → A s.state s'.state
  scheduler : ∀ {s s'}, R s s' → s'.scheduler = s.scheduler
  modifyState : ∀ {f f' : State → State}, (∀ σ σ', A σ σ' → A (f σ) (f' σ')) →
    Lockstep R o (modifyState f) (modifyState f')
  setScheduler : ∀ scheduler, Lockstep R o (modify fun s => { s with scheduler := scheduler })
    (modify fun s => { s with scheduler := scheduler })
  publish : ∀ e, Lockstep R o (publish e) (publish e)
  save : Lockstep R o save save

namespace Ground

variable {A : State → State → Prop} {Q : Credential → Credential → Prop}
  {R : Session ω → Session ω → Prop} (h : Ground A Q R o)

include h

theorem lines (texts : List String) :
    Lockstep R o (Operation.lines texts) (Operation.lines texts) :=
  -- Lines belong to no zone.
  (h.footing .root).lines texts

theorem line (text : String) : Lockstep R o (Operation.line text) (Operation.line text) :=
  h.lines [text]

theorem told (zone : DomainName) (text : String) :
    Lockstep R o (do Operation.line text; publishStatus zone)
      (do Operation.line text; publishStatus zone) :=
  lockstep_bind (h.line text) fun _ => (h.footing zone).publishStatus

theorem setState {τ τ' : State} (hτ : A τ τ') :
    Lockstep R o (Operation.modifyState fun _ => τ) (Operation.modifyState fun _ => τ') :=
  h.modifyState fun _ _ _ => hτ

theorem modifySigner (name : String) (f : Signer → Signer) :
    Lockstep R o (Operation.modifyState fun s => s.modifySigner name f)
      (Operation.modifyState fun s => s.modifySigner name f) :=
  h.modifyState fun _ _ hσ => h.documents.modifySigner hσ name f

theorem signer_bind {name : String} {f : Signer → Operation ω α}
    (hf : ∀ r, Lockstep R o (f r) (f r)) :
    Lockstep R o (do let r ← (← Operation.state).signer name; f r)
      (do let r ← (← Operation.state).signer name; f r) :=
  lockstep_lookup (fun _ _ hs => h.documents.signer (h.state hs) name) hf

/-- The document is put through an edit that corresponds in both runs. -/
theorem edit {f f' : State → Except Error State} {op : Operation ω Unit}
    (hf : ∀ σ σ', A σ σ' → Corresponds A (f σ) (f' σ')) (hop : Lockstep R o op op) :
    Lockstep R o
      (do let τ ← f (← Operation.state); Operation.modifyState fun _ => τ; op)
      (do let τ ← f' (← Operation.state); Operation.modifyState fun _ => τ; op) :=
  lockstep_state_bind fun _ _ hs => (parallel_lift (hf _ _ (h.state hs))).lockstep_bind
    fun _ _ hτ => lockstep_bind (h.setState hτ) fun _ => hop

/-! ## 3. Work and steps -/

theorem planning (zone : DomainName) (a : Activity) :
    Lockstep R o (Automation.planning zone a) (Automation.planning zone a) := by
  have hzone := h.footing zone
  by_cases ha : a = .syncDnskeys
  · subst ha
    refine lockstep_bind (hzone.observeGroup _) fun views => ?_
    refine lockstep_bind (h.modifyState fun _ _ hσ => h.documents.dnskeyOrigins hσ views)
      fun _ => lockstep_state_bind fun s s' hs => ?_
    rw [h.documents.dnskeyOrigin (h.state hs)]
    exact lockstep_bind (hzone.tell _) fun _ => lockstep_pure _
  · exact hzone.planning ha

theorem act {d : Direction} {a : Activity} {op : Operation ω Unit}
    (hop : work zone d a = .act op) : Lockstep R o op op := fun s s' hs =>
  (h.footing zone).matches_act hop (h.planning zone a s s' hs)

theorem check (zone : DomainName) :
    Lockstep R o (Status.check zone) (Status.check zone) := by
  have hzone := h.footing zone
  refine lockstep_bind hzone.groupMembers fun members => ?_
  refine lockstep_bind (hzone.modifyGroup fun _ => rfl) fun _ => ?_
  refine lockstep_bind (lockstep_mapM (fun m => ?_) members) fun views => ?_
  · refine lockstep_bind (hzone.observeSigner _ m) fun v => lockstep_state_bind fun s s' hs => ?_
    rw [h.documents.dnskeyOrigin (h.state hs)]
    exact lockstep_bind (h.lines _) fun _ => lockstep_pure v
  · refine lockstep_bind (hzone.observeParent _) fun parent => ?_
    refine lockstep_state_bind fun s s' hs => ?_
    rw [h.documents.dnskeyOrigin (h.state hs)]
    refine lockstep_bind (h.lines _) fun _ => lockstep_bind (lockstep_lift _) fun flags => ?_
    exact lockstep_bind (hzone.modifyGroup fun _ => rfl) fun _ => lockstep_pure flags

theorem runStage (zone : DomainName) (stage : Stage) :
    Lockstep R o (Automation.runStage zone stage) (Automation.runStage zone stage) :=
  fun s s' hs => (h.footing zone).matches_runStage hs (h.check zone s s' hs) fun _ _ =>
    h.planning zone _ s s' hs

/-- **Steps are in lockstep.** -/
theorem step (zone : DomainName) :
    Lockstep R o (Automation.step zone) (Automation.step zone) := fun s s' hs =>
  (h.footing zone).matches_step hs fun g _ => h.runStage zone g.stage s s' hs

theorem manualStep (zone : DomainName) (stage : Stage) :
    Lockstep R o (Automation.manualStep zone stage) (Automation.manualStep zone stage) := by
  refine (h.footing zone).group_bind fun g => ?_
  exact lockstep_unless (lockstep_bind (h.runStage zone stage) fun _ => h.line _)

theorem membershipChanged (zone : DomainName) (d : Direction) :
    Lockstep R o (Automation.membershipChanged zone d) (Automation.membershipChanged zone d) := by
  refine (h.footing zone).group_bind fun g => lockstep_ite ?_ (lockstep_pure _)
  exact lockstep_bind ((h.footing zone).modifyGroup fun _ => rfl) fun _ => h.line _

/-! ## 4. Commands -/

/-- **Commands that only look something up** find the same. -/
theorem run_of_looks {cmd : Command} (hcmd : cmd.looks = true) :
    Lockstep R o cmd.run cmd.run := by
  cases cmd with
  | help => exact h.lines _
  | groupList =>
    refine lockstep_state_bind fun s s' hs => ?_
    rw [h.documents.groups (h.state hs)]
    exact lockstep_ite (lockstep_bind (h.line _) fun _ => h.lines _) (h.lines _)
  | signerList zone =>
    refine lockstep_lookup (fun _ _ hs => (h.footing zone).members hs) fun members => ?_
    exact lockstep_ite (lockstep_bind (h.line _) fun _ => h.lines _) (h.lines _)
  | signerTsig name key =>
    cases key with
    | some key => cases hcmd
    | none =>
      refine h.signer_bind fun signer => ?_
      cases signer.credential with
      | some key => exact h.line _
      | none => exact h.line _
  | automateError zone =>
    refine (h.footing zone).group_bind fun g => ?_
    cases g.error with
    | some text => exact h.line _
    | none => exact h.line _
  | autostartList =>
    refine lockstep_state_bind fun s s' hs => ?_
    rw [h.documents.autostart (h.state hs)]
    exact lockstep_ite (lockstep_bind (h.line _) fun _ => h.lines _) (h.lines _)
  | confGet key =>
    refine lockstep_lookup (fun _ _ hs => h.documents.entry (h.state hs) key) fun value => ?_
    cases value with
    | some value => exact h.line _
    | none => exact h.line _
  | confList =>
    exact lockstep_lookup (fun _ _ hs => h.documents.entries (h.state hs)) fun _ => h.lines _
  | _ => cases hcmd

theorem requireIdle (zone : DomainName) :
    Lockstep R o (Command.requireIdle zone) (Command.requireIdle zone) := fun s s' hs => by
  rw [Matches, Deed.perform_requireIdle, Deed.perform_requireIdle, h.scheduler hs]
  exact ⟨rfl, hs⟩

theorem removeGroup (zone : DomainName) :
    Lockstep R o (Command.removeGroup zone) (Command.removeGroup zone) := by
  refine lockstep_bind (h.requireIdle zone) fun _ => lockstep_state_bind fun s s' hs => ?_
  refine (parallel_lift (h.documents.removeGroup (h.state hs) zone)).lockstep_bind fun p p' hp => ?_
  exact lockstep_bind (h.setState hp.2) fun _ => h.line _

theorem removeSigner (name : String) :
    Lockstep R o (Command.removeSigner name) (Command.removeSigner name) := by
  refine lockstep_state_bind fun s s' hs => ?_
  simp only [h.documents.signer (h.state hs), h.documents.group (h.state hs)]
  refine lockstep_bind (lockstep_lift _) fun signer => lockstep_unless ?_
  refine lockstep_bind (lockstep_lift _) fun g => lockstep_unless ?_
  refine (parallel_lift (h.documents.removeSigner (h.state hs) name)).lockstep_bind
    fun p p' hp => ?_
  refine lockstep_bind (h.setState hp.2) fun _ => lockstep_bind (h.line _) fun _ => ?_
  exact lockstep_bind (h.publish _) fun _ => (h.footing _).publishStatus

theorem markLeave (name : String) (leaving : Bool) :
    Lockstep R o (Command.markLeave name leaving) (Command.markLeave name leaving) := by
  refine h.signer_bind fun signer => lockstep_ite (h.line _) ?_
  refine lockstep_bind (h.modifySigner name _) fun _ => lockstep_bind (h.line _) fun _ => ?_
  exact lockstep_bind (h.membershipChanged _ _) fun _ => (h.footing _).publishStatus

theorem setTsig (name key : String) :
    Lockstep R o (Command.setTsig name key) (Command.setTsig name key) := by
  refine lockstep_state_bind fun s s' hs => ?_
  rw [h.documents.signer (h.state hs)]
  refine lockstep_bind (lockstep_lift _) fun _ => ?_
  rw [h.documents.keyNames (h.state hs)]
  exact lockstep_unless (lockstep_bind (h.modifySigner name _) fun _ => h.line _)

theorem schedule (zone : DomainName) (f : Scheduler → Except Error Scheduler) (text : String) :
    Lockstep R o
      (do
        let _ ← (← Operation.state).group zone
        let scheduler ← f (← get).scheduler
        modify fun s => { s with scheduler := scheduler }
        Operation.line text)
      (do
        let _ ← (← Operation.state).group zone
        let scheduler ← f (← get).scheduler
        modify fun s => { s with scheduler := scheduler }
        Operation.line text) := by
  refine (h.footing zone).group_bind fun _ => lockstep_get_bind fun s s' hs => ?_
  rw [h.scheduler hs]
  refine lockstep_bind (lockstep_lift _) fun scheduler => ?_
  exact lockstep_bind (h.setScheduler scheduler) fun _ => h.line _

theorem clearError (zone : DomainName) (stage : Stage) :
    Lockstep R o (Command.clearError zone stage) (Command.clearError zone stage) := by
  refine lockstep_state_bind fun s s' hs => ?_
  refine (parallel_lift (h.documents.clearError (h.state hs) zone stage)).lockstep_bind
    fun p p' hp => ?_
  cases hp with
  | none => exact h.line _
  | some hτ => exact lockstep_bind (h.setState hτ) fun _ => h.told zone _

theorem addAutostart (zone : DomainName) :
    Lockstep R o (Command.addAutostart zone) (Command.addAutostart zone) := by
  refine lockstep_state_bind fun s s' hs => ?_
  rw [h.documents.group (h.state hs), h.documents.autostart (h.state hs)]
  refine lockstep_bind (lockstep_lift _) fun _ => lockstep_ite (h.line _) ?_
  refine lockstep_bind (h.modifyState fun σ σ' hσ => ?_) fun _ => h.line _
  exact h.documents.modifyAutostart hσ (· ++ [zone])

theorem removeAutostart (zone : DomainName) :
    Lockstep R o (Command.removeAutostart zone) (Command.removeAutostart zone) := by
  refine lockstep_state_bind fun s s' hs => ?_
  rw [h.documents.group (h.state hs), h.documents.autostart (h.state hs)]
  refine lockstep_bind (lockstep_lift _) fun _ => lockstep_ite ?_ (h.line _)
  refine lockstep_bind (h.modifyState fun σ σ' hσ => ?_) fun _ => h.line _
  exact h.documents.modifyAutostart hσ (List.filter fun z => !(z == zone))

theorem removeEntry (key : String) :
    Lockstep R o (Command.removeEntry key) (Command.removeEntry key) := by
  refine lockstep_state_bind fun s s' hs => ?_
  refine (parallel_lift (h.documents.removeEntry (h.state hs) key)).lockstep_bind fun p p' hp => ?_
  obtain ⟨changed, τ⟩ := p
  obtain ⟨changed', τ'⟩ := p'
  obtain ⟨hchanged, hτ⟩ := hp
  cases hchanged
  exact lockstep_bind (h.setState hτ) fun _ => h.line _

/-- **Commands are in lockstep.** -/
theorem run (cmd : Command) : Lockstep R o cmd.run cmd.run := by
  cases hlooks : cmd.looks with
  | true => exact h.run_of_looks hlooks
  | false =>
  cases cmd with
  | help | groupList | signerList | automateError | autostartList | confGet | confList =>
    cases hlooks
  | groupAdd zone parent =>
    exact h.edit (fun _ _ hσ => h.documents.addGroup hσ zone _) (h.told zone _)
  | groupRemove zone => exact h.removeGroup zone
  | signerAdd zone name nameserver address =>
    refine h.edit (fun _ _ hσ => h.documents.addSigner hσ name _) ?_
    refine lockstep_bind (h.line _) fun _ => ?_
    exact lockstep_bind (h.membershipChanged zone _) fun _ => (h.footing zone).publishStatus
  | signerRemove name => exact h.removeSigner name
  | signerLeave name leaving => exact h.markLeave name leaving
  | signerTsig name key =>
    cases key with
    | some key => exact h.setTsig name key
    | none => cases hlooks
  | signerType name kind token =>
    exact h.signer_bind fun _ => lockstep_bind (h.modifySigner name _) fun _ => h.line _
  | signerCsk name combined =>
    exact h.signer_bind fun _ => lockstep_bind (h.modifySigner name _) fun _ => h.line _
  | status zone => exact lockstep_bind (h.check zone) fun _ => lockstep_pure _
  | syncDnskeys zone => exact h.act (d := .joining) (a := .syncDnskeys) rfl
  | syncCds zone => exact h.act (d := .joining) (a := .syncCds) rfl
  | syncNs zone => exact h.act (d := .joining) (a := .syncNs) rfl
  | addCsync zone => exact h.act (d := .joining) (a := .addCsync) rfl
  | removeCsync zone => exact h.act (d := .joining) (a := .removeCsync) rfl
  | removeCds zone => exact h.act (d := .joining) (a := .removeCds) rfl
  | wait hold zone =>
    refine lockstep_bind ((h.footing zone).wait hold) fun _ => ?_
    exact lockstep_bind (h.footing zone).now fun _ => lockstep_ite (h.line _) (lockstep_pure _)
  | automateStep zone stage =>
    refine lockstep_bind (h.requireIdle zone) fun _ => ?_
    split
    · exact h.step zone
    · split
      · exact lockstep_throw _
      · exact h.manualStep zone _
  | automateStart zone => exact h.schedule zone (Scheduler.start · zone) _
  | automateStop zone => exact h.schedule zone (Scheduler.stop · zone) _
  | automateClearError zone stage => exact h.clearError zone stage
  | automateManual zone =>
    exact h.edit (fun _ _ hσ => h.documents.enterManual hσ zone) (h.told zone _)
  | automateResume zone stage =>
    exact h.edit (fun _ _ hσ => h.documents.resume hσ zone stage) (h.told zone _)
  | autostartAdd zone => exact h.addAutostart zone
  | autostartRemove zone => exact h.removeAutostart zone
  | confSet key value => exact h.edit (fun _ _ hσ => h.documents.setEntry hσ key value) (h.line _)
  | confRemove key => exact h.removeEntry key

/-! ## 5. What is saved -/

/-- Whatever a process does is saved. -/
theorem saved {op op' : Operation ω Unit} (hop : Lockstep R o op op') :
    Lockstep R o
      (do
        let result ← attempt op
        let saved ← attempt Operation.save
        result
        saved)
      (do
        let result ← attempt op'
        let saved ← attempt Operation.save
        result
        saved) := by
  refine lockstep_bind (fun s s' hs => lockstep_attempt (hop s s' hs)) fun result => ?_
  refine lockstep_bind (fun s s' hs => lockstep_attempt (h.save s s' hs)) fun saved => ?_
  exact lockstep_bind (lockstep_lift result) fun _ => lockstep_lift saved

/-- **A command, as it is typed and saved, is in lockstep.** -/
theorem command (mode : Mode) (args : List String) :
    Lockstep R o (Controller.command mode args) (Controller.command mode args) :=
  h.saved (lockstep_bind (lockstep_lift _) h.run)

theorem tick (zone : DomainName) :
    Lockstep R o (Controller.tick zone) (Controller.tick zone) :=
  h.saved (h.step zone)

end Ground
end MultiSigner
