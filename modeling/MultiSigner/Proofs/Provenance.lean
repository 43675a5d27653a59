/-
# Where records are said to come from

The document notes where a key or a name was seen first, and what is noted decides whose records are
taken out when a signer leaves.  So a note must not be overwritten.

`Provenance` says all that a deed can do to these notes: nothing; note the answers that an activity
got, where nothing was noted before; forget those of a signer that is removed; or forget one that is
removed by its key.  From it follow `first_writer_wins`, which is about one deed, and
`origin_lasts`, which is about runs.
-/
import MultiSigner.Proofs.Confinement
import MultiSigner.Proofs.Entries

namespace MultiSigner

open Operation Automation

variable {ω α β : Type} {o : Outside ω} {s t : Session ω} {zone : DomainName} {σ τ : State}

/-! ## 1. Notes -/

/-- What an origin is noted of: a key, known by its fingerprint, or the name of a server. -/
inductive Subject
  | key (fingerprint : String)
  | name (ns : DomainName)

namespace Subject

/-- The activity that notes origins of this kind. -/
def activity : Subject → Activity
  | key _ => .syncDnskeys
  | name _ => .syncNs

/-- A signer was seen to serve the subject, a key as one of those that it shares. -/
def servedBy : Subject → SignerView → Bool
  | key print, v => v.syncedKeys.any fun k => k.fingerprint == print
  | name ns, v => v.ns.any fun n => compare ns n == .eq

/-- The key of an entry is that of the subject's origin. -/
inductive Entry : Subject → String → Prop
  | key {print entry : String} (reads : State.EntryKey.ofString entry = .dnskeyOrigin print) :
      Entry (key print) entry
  | name {ns n : DomainName} {text entry : String}
      (reads : State.EntryKey.ofString entry = .nsOrigin text)
      (parses : DomainName.parseAbsolute text = .ok n) (same : compare n ns = .eq) :
      Entry (name ns) entry

end Subject

namespace State

/-- The noted origin of a subject. -/
def origin? (σ : State) : Subject → Option String
  | .key print => σ.dnskeyOrigin.get? print
  | .name ns => σ.nsOrigin.get? ns

/-- All that is noted of origins. -/
def origins (σ : State) : OrderedMap String String × OrderedMap DomainName String :=
  (σ.dnskeyOrigin, σ.nsOrigin)

theorem origin?_of_origins (h : τ.origins = σ.origins) (x : Subject) :
    τ.origin? x = σ.origin? x := by
  obtain ⟨hkeys, hnames⟩ := Prod.mk.inj h
  cases x with
  | key print => rw [origin?, hkeys, origin?]
  | name ns => rw [origin?, hnames, origin?]

/-- **What is noted of the answers to an activity**: a subject without an origin gets the first
signer that serves it, if the activity is about its kind. -/
theorem origin?_noted (a : Activity) (views : List SignerView) (σ : State) (x : Subject) :
    (noted a views σ).origin? x = (σ.origin? x).or
      (if a = x.activity then (views.find? x.servedBy).map SignerView.name else none) := by
  cases x with
  | key print =>
    cases a with
    | syncDnskeys =>
      exact (Deployment.get?_recordOrigins print views σ).trans
        (congrArg (σ.origin? (.key print)).or (if_pos rfl).symm)
    | syncNs =>
      rw [if_neg (by rintro ⟨⟩), Option.or_none, origin?, noted, dnskeyOrigin_nsOrigins, origin?]
    | _ => exact (Option.or_none).symm
  | name ns =>
    cases a with
    | syncNs =>
      exact (get?_nsOrigins ns views σ).trans
        (congrArg (σ.origin? (.name ns)).or (if_pos rfl).symm)
    | syncDnskeys =>
      rw [if_neg (by rintro ⟨⟩), Option.or_none, origin?, noted, nsOrigin_dnskeyOrigins, origin?]
    | _ => exact (Option.or_none).symm

/-- **Removing a signer** forgets what is noted to come from it, and nothing else. -/
theorem origin?_removeSigner {name : String} {signer : Signer}
    (h : σ.removeSigner name = .ok (signer, τ)) (x : Subject) (origin : String) :
    τ.origin? x = some origin ↔ σ.origin? x = some origin ∧ origin ≠ name := by
  obtain ⟨r, -, h⟩ := bind_eq_ok.1 h
  cases h
  cases x with
  | key print => exact OrderedMap.get?_filter_values.trans (and_congr_right fun _ => bne_iff_ne)
  | name ns => exact OrderedMap.get?_filter_values.trans (and_congr_right fun _ => bne_iff_ne)

/-- **Removing an entry** forgets the origin that it is the entry of, and nothing else. -/
theorem origin?_removeEntry {entry : String} {changed : Bool}
    (h : σ.removeEntry entry = .ok (changed, τ)) (x : Subject) :
    τ.origin? x = σ.origin? x ∨ τ.origin? x = none ∧ x.Entry entry := by
  rcases erased_or_eq h with herased | rfl
  · cases herased with
    | @keyOrigin print there =>
      cases x with
      | key other =>
        simp only [origin?, OrderedMap.get?_erase]
        split
        · rename_i heq
          rw [← Std.LawfulEqCmp.eq_of_compare heq]
          exact .inr ⟨rfl, .key (EntryKey.ofString_spelling rfl)⟩
        · exact .inl rfl
      | name ns => exact .inl rfl
    | @nameOrigin text n parses there =>
      cases x with
      | key print => exact .inl rfl
      | name ns =>
        simp only [origin?, OrderedMap.get?_erase]
        split
        · rename_i heq
          exact .inr ⟨rfl, .name (EntryKey.ofString_spelling rfl) parses heq⟩
        · exact .inl rfl
    | secret => exact .inl (origin?_of_origins rfl x)
    | token => exact .inl (origin?_of_origins rfl x)
    | ttl => exact .inl (origin?_of_origins rfl x)
    | setting => exact .inl (origin?_of_origins rfl x)
  · exact .inl rfl

/-! ## 2. Changes that leave the notes alone -/

theorem origins_addGroup {g : Group} (h : σ.addGroup zone g = .ok τ) : τ.origins = σ.origins := by
  unfold addGroup at h
  split at h <;> cases h
  rfl

theorem origins_removeGroup {g : Group} (h : σ.removeGroup zone = .ok (g, τ)) :
    τ.origins = σ.origins := by
  obtain ⟨g, -, h⟩ := bind_eq_ok.1 h
  split at h <;> cases h
  rfl

theorem origins_addSigner {name : String} {signer : Signer}
    (h : σ.addSigner name signer = .ok τ) : τ.origins = σ.origins := by
  unfold addSigner at h
  split at h
  · cases h
  · obtain ⟨g, -, h⟩ := bind_eq_ok.1 h
    cases h
    rfl

theorem origins_setEntry {key value : String} (h : σ.setEntry key value = .ok τ) :
    τ.origins = σ.origins := by
  cases setEntry_eq_ok.1 h with
  | secret => rfl
  | token => rfl
  | ttl => rfl
  | setting => rfl

/-- The group is looked up, and changed if it is as it should be. -/
theorem origins_of_guarded {c : Group → Prop} [DecidablePred c] {e : Group → Error}
    {f : Group → Group} (h : (do
      let g ← σ.group zone
      if c g then throw (e g)
      return σ.modifyGroup zone f) = .ok τ) : τ.origins = σ.origins := by
  obtain ⟨g, -, h⟩ := bind_eq_ok.1 h
  split at h <;> cases h
  rfl

end State

/-! ## 3. Work with servers -/

/-- The notes stay as they are, or become those of a document of some kind. -/
def Footprint.renoting (P : State → Prop) : Footprint ω where
  rel s t := t.state.origins = s.state.origins ∨ ∃ τ, P τ ∧ t.state.origins = τ.origins
  refl _ := .inl rfl
  trans h k := k.elim (fun hk => h.imp hk.trans fun ⟨τ, hτ, hsame⟩ => ⟨τ, hτ, hk.trans hsame⟩) .inr

namespace Operation

variable {op : Operation ω α}

/-- The operation leaves alone what is noted of origins, also when it fails. -/
abbrev KeepsOrigins (op : Operation ω α) : Prop :=
  Leaves (.keeping fun s => s.state.origins) op

theorem Quiet.keepsOrigins (h : Quiet op) : KeepsOrigins op := fun _ _ =>
  congrArg State.origins (h.state_eq rfl)

theorem keepsOrigins_of_state (h : ∀ o s, (op.perform o s).2.state = s.state) : KeepsOrigins op :=
  fun o s => congrArg State.origins (h o s)

theorem keepsOrigins_publish (e : Event) : KeepsOrigins (publish e : Operation ω Unit) :=
  keepsOrigins_of_state fun _ _ => rfl

theorem keepsOrigins_publishStatus (zone : DomainName) :
    KeepsOrigins (publishStatus zone : Operation ω Unit) :=
  keepsOrigins_of_state fun _ _ => by rw [perform_publishStatus]

theorem keepsOrigins_modifyState {f : State → State} (h : ∀ σ, (f σ).origins = σ.origins) :
    KeepsOrigins (modifyState f : Operation ω Unit) :=
  fun _ s => h s.state

theorem keepsOrigins_modifyGroup (zone : DomainName) (f : Group → Group) :
    KeepsOrigins (modifyState fun σ => σ.modifyGroup zone f : Operation ω Unit) :=
  keepsOrigins_modifyState fun _ => rfl

theorem keepsOrigins_modifySigner (name : String) (f : Signer → Signer) :
    KeepsOrigins (modifyState fun σ => σ.modifySigner name f : Operation ω Unit) :=
  keepsOrigins_modifyState fun _ => rfl

/-- What is done first decides, if what is done then keeps the notes. -/
theorem origins_bind (op : Operation ω α) {f : α → Operation ω β} (h : ∀ a, KeepsOrigins (f a))
    (o : Outside ω) (s : Session ω) :
    ((op >>= f).perform o s).2.state.origins = (op.perform o s).2.state.origins := by
  rw [perform_bind]
  rcases op.perform o s with ⟨e | a, t⟩
  · rfl
  · exact h a o t

theorem keepsOrigins_check (zone : DomainName) :
    KeepsOrigins (Status.check zone : Operation ω SyncFlags) :=
  Status.leaves_check_within Quiet.keepsOrigins fun _ => keepsOrigins_modifyGroup zone _

theorem keepsOrigins_wait (h : Hold) (zone : DomainName) :
    KeepsOrigins (h.wait zone : Operation ω Timestamp) :=
  Hold.leaves_wait_within h Quiet.keepsOrigins fun _ => keepsOrigins_modifyGroup zone _

theorem keepsOrigins_membershipChanged (zone : DomainName) (d : Direction) :
    KeepsOrigins (membershipChanged zone d : Operation ω Unit) := by
  refine leaves_bind leaves_state fun _ => leaves_bind (leaves_lift _) fun g => ?_
  exact leaves_ite (leaves_bind (keepsOrigins_modifyGroup zone _) fun _ =>
    (quiet_line _).keepsOrigins) (leaves_pure _)

/-- Work that changes no records. -/
theorem keepsOrigins_doWork (zone : DomainName) (stage : Stage) {w : Work ω}
    (hw : ∀ op, w ≠ .act op) : KeepsOrigins (doWork zone stage w) := by
  have hline (text : String) : KeepsOrigins (line text : Operation ω Unit) :=
    (quiet_line text).keepsOrigins
  cases w with
  | act op => exact absurd rfl (hw op)
  | check flag =>
    refine leaves_bind (keepsOrigins_check zone) fun flags => ?_
    exact leaves_ite (leaves_bind (hline _) fun _ => leaves_pure _)
      (leaves_bind (hline _) fun _ => leaves_pure _)
  | hold h =>
    refine leaves_bind (keepsOrigins_wait h zone) fun deadline => leaves_bind leaves_now fun _ => ?_
    refine leaves_ite (leaves_pure _) (leaves_bind (hline _) fun _ => ?_)
    exact leaves_bind (keepsOrigins_modifyGroup zone _) fun _ => leaves_pure _

end Operation

/-- **The notes after an activity** that was at work in a session: those of before, or besides those
of what its signers answered. -/
inductive Noting (o : Outside ω) (s : Session ω) (zone : DomainName) (a : Activity) (τ : State) :
    Prop
  | nothing (same : τ.origins = s.state.origins)
  | answers {views : List SignerView} {t : Session ω}
      (asked : (observeGroup zone (touched a)).perform o s = (.ok views, t))
      (same : τ.origins = (noted a views s.state).origins)

namespace Noting

variable {a : Activity}

theorem congr (h : Noting o s zone a σ) (hτ : τ.origins = σ.origins) : Noting o s zone a τ := by
  cases h with
  | nothing hsame => exact .nothing (hτ.trans hsame)
  | answers hasked hsame => exact .answers hasked (hτ.trans hsame)

/-- Planning notes origins, pushing does not. -/
theorem of_act (o : Outside ω) (s : Session ω) (zone : DomainName) (a : Activity) :
    Noting o s zone a ((planning zone a >>= Push.push zone).perform o s).2.state := by
  have hstate := state_of_run (t := ((planning zone a >>= Push.push zone).perform o s).2) rfl
  split at hstate
  · rename_i views u hviews
    exact .answers hviews (congrArg State.origins hstate)
  · exact .nothing (congrArg State.origins hstate)

/-- **The work of a stage** notes what its activity does. -/
theorem of_runStage (o : Outside ω) (s : Session ω) (zone : DomainName) (d : Direction)
    (a : Activity) : Noting o s zone a ((runStage zone (.walking d a)).perform o s).2.state := by
  cases ha : acts a with
  | true =>
    rw [perform_runStage_act ha]
    exact (of_act o s zone a).congr (origins_bind _ (fun _ => leaves_pure _) o s)
  | false =>
    refine .nothing (keepsOrigins_doWork zone _ (fun op hop => ?_) o s)
    rw [(perform_of_act (s := s) (o := o) hop).1] at ha
    cases ha

end Noting

/-- **A step of the automation** notes what the activity does at which it finds the group. -/
theorem noting_of_step (o : Outside ω) (s : Session ω) (zone : DomainName) :
    ((Automation.step zone).perform o s).2.state.origins = s.state.origins ∨
      ∃ d a, (s.state.groups.get? zone).map Group.stage = some (.walking d a) ∧
        Noting o s zone a ((Automation.step zone).perform o s).2.state := by
  cases hg : s.state.group zone with
  | error e =>
    refine .inl ?_
    rw [Automation.step, perform_bind, perform_state]
    simp only [perform_bind, perform_lift, hg]
  | ok g =>
    rw [Automation.step, perform_bind, perform_state]
    simp only [perform_bind, perform_lift, hg]
    cases hrests : restingLine g.stage with
    | some text => exact .inl ((quiet_line text).keepsOrigins o s)
    | none =>
      cases hstage : g.stage with
      | ready | error | manual =>
        rw [hstage] at hrests
        cases hrests
      | walking d a =>
        refine .inr ⟨d, a, by rw [State.group_eq_ok.1 hg, Option.map_some, hstage], ?_⟩
        refine (Noting.of_runStage o s zone d a).congr ?_
        refine Eq.trans (origins_bind (attempt (runStage zone (.walking d a))) ?_ o s) ?_
        · intro r
          cases r with
          | ok next =>
            refine leaves_ite ?_ (leaves_pure _)
            refine leaves_bind (keepsOrigins_modifyGroup zone _) fun _ => ?_
            exact leaves_bind (quiet_line _).keepsOrigins fun _ => keepsOrigins_publishStatus zone
          | error e =>
            refine leaves_bind (quiet_line _).keepsOrigins fun _ => ?_
            refine leaves_bind (keepsOrigins_modifyGroup zone _) fun _ => ?_
            exact leaves_bind (keepsOrigins_publishStatus zone) fun _ => leaves_throw e
        · rw [perform_attempt]

/-- **A stage that is named** to a group in manual mode notes what its activity does. -/
theorem noting_of_manualStep (o : Outside ω) (s : Session ω) (zone : DomainName) (stage : Stage) :
    ((manualStep zone stage).perform o s).2.state.origins = s.state.origins ∨
      ∃ d a, stage = .walking d a ∧
        (s.state.groups.get? zone).map Group.stage = some .manual ∧
        Noting o s zone a ((manualStep zone stage).perform o s).2.state := by
  cases hg : s.state.group zone with
  | error e =>
    refine .inl ?_
    rw [manualStep, perform_bind, perform_state]
    simp only [perform_bind, perform_lift, hg]
  | ok g =>
    by_cases hmanual : g.stage = .manual
    · have hrun : (manualStep zone stage).perform o s = ((do
          let next ← runStage zone stage
          line s!"{zone}: {stage.name} -> {next.name} (manual, not moved)").perform o s) := by
        rw [manualStep, perform_bind, perform_state]
        simp only [perform_bind, perform_lift, hg, hmanual, ne_eq, not_true_eq_false, if_false]
      have hrest := origins_bind (runStage zone stage) (fun next =>
        (quiet_line s!"{zone}: {stage.name} -> {next.name} (manual, not moved)").keepsOrigins) o s
      rw [hrun]
      cases stage with
      | walking d a =>
        refine .inr ⟨d, a, rfl, by rw [State.group_eq_ok.1 hg, Option.map_some, hmanual], ?_⟩
        exact (Noting.of_runStage o s zone d a).congr hrest
      | ready | error | manual => exact .inl hrest
    · refine .inl ?_
      rw [manualStep, perform_bind, perform_state]
      simp only [perform_bind, perform_lift, hg, hmanual, ne_eq, not_false_eq_true, if_true,
        perform_throw]

/-! ## 4. Commands -/

namespace Command

/-- Whether a command may change what is noted. -/
def notes : Command → Bool
  | .syncDnskeys _ | .syncCds _ | .syncNs _ | .addCsync _ | .removeCsync _ | .removeCds _
  | .automateStep _ _ | .signerRemove _ | .confRemove _ => true
  | _ => false

/-- The document is changed first. -/
theorem keepsOrigins_modify_bind {f : State → State} {op : Operation ω α} {o : Outside ω}
    {s : Session ω} (hf : (f s.state).origins = s.state.origins) (h : KeepsOrigins op) :
    ((do modifyState f; op).perform o s).2.state.origins = s.state.origins := by
  rw [perform_bind, perform_modifyState]
  exact (h o _).trans hf

/-- The document is put through an edit. -/
theorem keepsOrigins_edit {f : State → Except Error State} {op : Operation ω Unit}
    (hf : ∀ σ τ, f σ = .ok τ → τ.origins = σ.origins) (h : KeepsOrigins op) :
    KeepsOrigins (do let τ ← f (← state); modifyState fun _ => τ; op) :=
  leaves_state_bind fun _ s => rel_lift_bind fun τ hτ =>
    keepsOrigins_modify_bind (hf s.state τ hτ) h

theorem keepsOrigins_told (zone : DomainName) (text : String) :
    KeepsOrigins (do line text; publishStatus zone : Operation ω Unit) :=
  leaves_bind (quiet_line text).keepsOrigins fun _ => keepsOrigins_publishStatus zone

theorem keepsOrigins_removeGroup (zone : DomainName) :
    KeepsOrigins (removeGroup zone : Operation ω Unit) := by
  refine leaves_bind (leaves_requireIdle zone) fun _ => ?_
  refine leaves_state_bind fun o s => rel_lift_bind fun ⟨g, τ⟩ hτ => ?_
  exact keepsOrigins_modify_bind (State.origins_removeGroup hτ) (quiet_line _).keepsOrigins

theorem keepsOrigins_markLeave (name : String) (leaving : Bool) :
    KeepsOrigins (markLeave name leaving : Operation ω Unit) := by
  refine leaves_bind leaves_state fun _ => leaves_bind (leaves_lift _) fun signer => ?_
  refine leaves_ite (quiet_line _).keepsOrigins ?_
  refine leaves_bind (keepsOrigins_modifySigner name _) fun _ => ?_
  refine leaves_bind (quiet_line _).keepsOrigins fun _ => ?_
  exact leaves_bind (keepsOrigins_membershipChanged _ _) fun _ => keepsOrigins_publishStatus _

theorem keepsOrigins_clearError (zone : DomainName) (stage : Stage) :
    KeepsOrigins (clearError zone stage : Operation ω Unit) := by
  refine leaves_state_bind fun o s => rel_lift_bind fun r hr => ?_
  obtain ⟨g, -, hr⟩ := bind_eq_ok.1 hr
  split at hr
  · cases hr
    exact (quiet_line _).keepsOrigins o s
  · cases hr
    exact keepsOrigins_modify_bind rfl (keepsOrigins_told zone _)

/-- **Every other command leaves the notes alone.** -/
theorem keepsOrigins_of_notes {cmd : Command} (h : cmd.notes = false) :
    KeepsOrigins (cmd.run : Operation ω Unit) := by
  cases hlooks : cmd.looks with
  | true => exact (quiet_of_looks hlooks).keepsOrigins
  | false =>
  cases cmd with
  | syncDnskeys | syncCds | syncNs | addCsync | removeCsync | removeCds | automateStep
  | signerRemove | confRemove => cases h
  | help | groupList | signerList | automateError | autostartList | confGet | confList =>
    cases hlooks
  | groupAdd zone parent =>
    exact keepsOrigins_edit (fun _ _ => State.origins_addGroup) (keepsOrigins_told zone _)
  | groupRemove zone => exact keepsOrigins_removeGroup zone
  | signerAdd zone name nameserver address =>
    refine keepsOrigins_edit (fun _ _ => State.origins_addSigner) ?_
    refine leaves_bind (quiet_line _).keepsOrigins fun _ => ?_
    exact leaves_bind (keepsOrigins_membershipChanged _ _) fun _ => keepsOrigins_publishStatus _
  | signerLeave name leaving => exact keepsOrigins_markLeave name leaving
  | signerTsig name key =>
    cases key with
    | none => cases hlooks
    | some key =>
      exact leaves_of_lookup fun _ _ => leaves_unless (leaves_bind
        (keepsOrigins_modifySigner name _) fun _ => (quiet_line _).keepsOrigins)
  | signerType name kind token =>
    exact leaves_of_lookup fun _ _ => leaves_bind (keepsOrigins_modifySigner name _) fun _ =>
      (quiet_line _).keepsOrigins
  | signerCsk name combined =>
    exact leaves_of_lookup fun _ _ => leaves_bind (keepsOrigins_modifySigner name _) fun _ =>
      (quiet_line _).keepsOrigins
  | status zone => exact leaves_bind (keepsOrigins_check zone) fun _ => leaves_pure _
  | wait hold zone =>
    refine leaves_bind (keepsOrigins_wait hold zone) fun _ => leaves_bind leaves_now fun _ => ?_
    exact leaves_ite (quiet_line _).keepsOrigins (leaves_pure _)
  | automateStart zone => exact leaves_schedule (.inl ⟨zone, rfl⟩) keepsOrigins_of_state
  | automateStop zone => exact leaves_schedule (.inr ⟨zone, rfl⟩) keepsOrigins_of_state
  | automateClearError zone stage => exact keepsOrigins_clearError zone stage
  | automateManual zone =>
    exact keepsOrigins_edit (fun _ _ => State.origins_of_guarded) (keepsOrigins_told zone _)
  | automateResume zone stage =>
    exact keepsOrigins_edit (fun _ _ => State.origins_of_guarded) (keepsOrigins_told zone _)
  | autostartAdd zone =>
    exact leaves_of_lookup fun _ _ => leaves_ite (quiet_line _).keepsOrigins (leaves_bind
      (keepsOrigins_modifyState fun _ => rfl) fun _ => (quiet_line _).keepsOrigins)
  | autostartRemove zone =>
    exact leaves_of_lookup fun _ _ => leaves_ite (leaves_bind
      (keepsOrigins_modifyState fun _ => rfl) fun _ => (quiet_line _).keepsOrigins)
      (quiet_line _).keepsOrigins
  | confSet key value =>
    exact keepsOrigins_edit (fun _ _ => State.origins_setEntry) (quiet_line _).keepsOrigins

/-- **Removing a signer** leaves the notes as they are, or forgets those of this signer. -/
theorem origins_of_removeSigner (o : Outside ω) (s : Session ω) (name : String) :
    ((removeSigner name).perform o s).2.state.origins = s.state.origins ∨
      ∃ signer τ, s.state.removeSigner name = .ok (signer, τ) ∧
        ((removeSigner name).perform o s).2.state.origins = τ.origins := by
  have hrel : (Footprint.renoting fun τ =>
      ∃ signer, s.state.removeSigner name = .ok (signer, τ)).rel
        s ((removeSigner name).perform o s).2 := by
    rw [removeSigner, perform_bind, perform_state]
    refine rel_lift_bind fun signer _ => rel_unless fun _ => rel_lift_bind fun g _ => ?_
    refine rel_unless fun _ => rel_lift_bind fun ⟨r, τ⟩ hτ => ?_
    refine rel_bind (.inr ⟨τ, ⟨r, hτ⟩, rfl⟩) fun _ => ?_
    exact Leaves.mono (leaves_bind (quiet_line _).keepsOrigins fun _ =>
      leaves_bind (keepsOrigins_publish _) fun _ => keepsOrigins_publishStatus _) fun _ _ => .inl
  exact hrel.imp_right fun ⟨τ, ⟨signer, h⟩, hsame⟩ => ⟨signer, τ, h, hsame⟩

/-- **Removing an entry** leaves the notes as they are, or as the document has them without it. -/
theorem origins_of_removeEntry (o : Outside ω) (s : Session ω) (entry : String) :
    ((removeEntry entry).perform o s).2.state.origins = s.state.origins ∨
      ∃ changed τ, s.state.removeEntry entry = .ok (changed, τ) ∧
        ((removeEntry entry).perform o s).2.state.origins = τ.origins := by
  have hrel : (Footprint.renoting fun τ =>
      ∃ changed, s.state.removeEntry entry = .ok (changed, τ)).rel
        s ((removeEntry entry).perform o s).2 := by
    rw [removeEntry, perform_bind, perform_state]
    refine rel_lift_bind fun r hr => rel_bind (.inr ⟨r.2, ⟨r.1, hr⟩, rfl⟩) fun _ => ?_
    exact (quiet_line _).keepsOrigins.mono fun _ _ => .inl
  rcases hrel with hkept | ⟨τ, ⟨changed, h⟩, hsame⟩
  · exact .inl hkept
  · exact .inr ⟨changed, τ, h, hsame⟩

end Command

/-! ## 5. Deeds -/

namespace Deed

variable (c : Controller ω) (zone : DomainName) (e : Deed ω)

/-- The deed does the work of an activity for the group of a zone: it is the command for it, a step
of the automation at its stage, or its stage is named to a group in manual mode. -/
inductive Does (a : Activity) : Prop
  | command {args : List String} {cmd : Command} (action : e.action = .command args)
      (parse : Command.parse c.mode args = .ok cmd) (pushes : cmd.pushes? = some (zone, a))
  | step {d : Direction} (steps : e.Steps c zone) (stage : e.stage? zone = some (.walking d a))
  | manual {args : List String} {text : String} {d : Direction}
      (action : e.action = .command args)
      (parse : Command.parse c.mode args = .ok (.automateStep zone (some text)))
      (idle : e.before.scheduler.isRunning zone = false)
      (named : Stage.ofName? text = some (.walking d a))
      (stage : e.stage? zone = some .manual)

/-- The deed is the command that removes a signer. -/
def RemovesSigner (name : String) : Prop :=
  ∃ args, e.action = .command args ∧ Command.parse c.mode args = .ok (.signerRemove name)

/-- The deed is the command that removes the entry of a subject's origin. -/
def Forgets (x : Subject) : Prop :=
  ∃ args entry, e.action = .command args ∧ Command.parse c.mode args = .ok (.confRemove entry) ∧
    x.Entry entry

/-- What a deed does to the notes of origins. -/
inductive Provenance : Prop
  | kept (same : (e.after c).state.origins = e.before.state.origins)
  /-- The answers that an activity got are noted. -/
  | noted {zone : DomainName} {a : Activity} {views : List SignerView} {t : Session ω}
      (does : e.Does c zone a)
      (asked : (observeGroup zone (touched a)).perform c.outside e.before = (.ok views, t))
      (same : (e.after c).state.origins = (Automation.noted a views e.before.state).origins)
  | removed {name : String} {signer : Signer} {τ : State} (removes : e.RemovesSigner c name)
      (removed : e.before.state.removeSigner name = .ok (signer, τ))
      (same : (e.after c).state.origins = τ.origins)
  | forgotten {args : List String} {entry : String} {changed : Bool} {τ : State}
      (action : e.action = .command args)
      (parse : Command.parse c.mode args = .ok (.confRemove entry))
      (removed : e.before.state.removeEntry entry = .ok (changed, τ))
      (same : (e.after c).state.origins = τ.origins)

variable {c zone e}

theorem Does.provenance {a : Activity} (h : e.Does c zone a)
    (hnoting : Noting c.outside e.before zone a (e.after c).state) : e.Provenance c := by
  cases hnoting with
  | nothing hsame => exact .kept hsame
  | answers hasked hsame => exact .noted h hasked hsame

theorem origins_of_lasting {t : Session ω} (h : (e.after c).lasting = t.lasting) :
    (e.after c).state.origins = t.state.origins :=
  congrArg State.origins (Session.lasting_eq_iff.1 h).1

/-- A step of the automation does the work of the activity that it finds the group at. -/
theorem provenance_of_steps {c : Controller ω} {e : Deed ω} (hsteps : e.Steps c zone)
    (h : (e.after c).state.origins
      = ((Automation.step zone).perform c.outside e.before).2.state.origins) : e.Provenance c := by
  rcases noting_of_step c.outside e.before zone with hkept | ⟨d, a, hstage, hnoting⟩
  · exact .kept (h.trans hkept)
  · exact (Does.step hsteps hstage).provenance (hnoting.congr h)

/-- **What a deed does to the notes** is one of these, whatever the network does. -/
theorem provenance (c : Controller ω) (e : Deed ω) : e.Provenance c := by
  cases ha : e.action with
  | tick zone =>
    exact provenance_of_steps (.tick ha BEq.rfl) (origins_of_lasting (lasting_of_tick ha))
  | command args =>
  cases hp : Command.parse c.mode args with
  | error failure => exact .kept (origins_of_lasting (TurnedAway.unread ha hp).lasting)
  | ok cmd =>
  have hafter := origins_of_lasting (lasting_of_parsed ha hp)
  cases hpushes : cmd.pushes? with
  | some p =>
    obtain ⟨zone, a⟩ := p
    rw [(Command.perform_run_of_pushes hpushes).2] at hafter
    exact (Does.command ha hp hpushes).provenance
      ((Noting.of_act c.outside e.before zone a).congr hafter)
  | none =>
  cases hnotes : cmd.notes with
  | false => exact .kept (hafter.trans (Command.keepsOrigins_of_notes hnotes _ _))
  | true =>
  cases cmd with
  | syncDnskeys | syncCds | syncNs | addCsync | removeCsync | removeCds => cases hpushes
  | signerRemove name =>
    rcases Command.origins_of_removeSigner c.outside e.before name with hkept | ⟨r, τ, hτ, hsame⟩
    · exact .kept (hafter.trans hkept)
    · exact .removed ⟨args, ha, hp⟩ hτ (hafter.trans hsame)
  | confRemove entry =>
    rcases Command.origins_of_removeEntry c.outside e.before entry with hkept | ⟨r, τ, hτ, hsame⟩
    · exact .kept (hafter.trans hkept)
    · exact .forgotten ha hp hτ (hafter.trans hsame)
  | automateStep zone stage =>
    cases hrunning : e.before.scheduler.isRunning zone with
    | true =>
      simp only [Command.run, Command.step, perform_bind, perform_requireIdle, hrunning,
        if_true] at hafter
      exact .kept hafter
    | false =>
    cases stage with
    | none =>
      simp only [Command.run, Command.step, perform_bind, perform_requireIdle, hrunning,
        Bool.false_eq_true, if_false] at hafter
      exact provenance_of_steps (.command ha hp hrunning BEq.rfl) hafter
    | some text =>
    simp only [Command.run, Command.step, perform_bind, perform_requireIdle, hrunning,
      Bool.false_eq_true, if_false] at hafter
    cases hstage : Stage.ofName? text with
    | none =>
      simp only [hstage, perform_throw] at hafter
      exact .kept hafter
    | some stage =>
      simp only [hstage] at hafter
      rcases noting_of_manualStep c.outside e.before zone stage with
        hkept | ⟨d, a, rfl, hmanual, hnoting⟩
      · exact .kept (hafter.trans hkept)
      · exact (Does.manual ha hp hrunning hstage hmanual).provenance (hnoting.congr hafter)
  | _ => cases hnotes

/-- What is noted lasts, unless the deed removes the signer or the entry. -/
theorem Provenance.lasts (h : e.Provenance c) {x : Subject} {name : String}
    (hx : e.before.state.origin? x = some name) :
    (e.after c).state.origin? x = some name ∨
      (e.after c).state.origin? x = none ∧ (e.RemovesSigner c name ∨ e.Forgets c x) := by
  cases h with
  | kept hsame => exact .inl (by rw [State.origin?_of_origins hsame, hx])
  | @noted zone a views t _ _ hsame =>
    refine .inl ?_
    rw [State.origin?_of_origins hsame, State.origin?_noted, hx, Option.some_or]
  | @removed gone signer τ hremoves hτ hsame =>
    have hkept := State.origin?_removeSigner hτ x
    rw [State.origin?_of_origins hsame]
    by_cases hname : name = gone
    · subst hname
      refine .inr ⟨Option.eq_none_iff_forall_ne_some.2 fun origin horigin => ?_, .inl hremoves⟩
      obtain ⟨hbefore, hother⟩ := (hkept origin).1 horigin
      rw [hx, Option.some.injEq] at hbefore
      exact hother hbefore.symm
    · exact .inl ((hkept name).2 ⟨hx, hname⟩)
  | forgotten ha hp hτ hsame =>
    rw [State.origin?_of_origins hsame]
    rcases State.origin?_removeEntry hτ x with hkept | ⟨hnone, hentry⟩
    · exact .inl (hkept.trans hx)
    · exact .inr ⟨hnone, .inr ⟨_, _, ha, hp, hentry⟩⟩

/-- What is noted anew is the first signer that was seen to serve the subject. -/
theorem Provenance.first (h : e.Provenance c) {x : Subject} {name : String}
    (hbefore : e.before.state.origin? x = none) (hafter : (e.after c).state.origin? x = some name) :
    ∃ zone views t, e.Does c zone x.activity ∧
      (observeGroup zone (touched x.activity)).perform c.outside e.before = (.ok views, t) ∧
      ∃ v, views.find? x.servedBy = some v ∧ v.name = name := by
  cases h with
  | kept hsame =>
    rw [State.origin?_of_origins hsame, hbefore] at hafter
    cases hafter
  | @noted zone a views t hdoes hasked hsame =>
    rw [State.origin?_of_origins hsame, State.origin?_noted, hbefore, Option.none_or] at hafter
    split at hafter
    · rename_i hactivity
      subst hactivity
      exact ⟨zone, views, t, hdoes, hasked, Option.map_eq_some_iff.1 hafter⟩
    · cases hafter
  | removed _ hτ hsame =>
    rw [State.origin?_of_origins hsame, State.origin?_removeSigner hτ, hbefore] at hafter
    cases hafter.1
  | forgotten _ _ hτ hsame =>
    rw [State.origin?_of_origins hsame] at hafter
    rcases State.origin?_removeEntry hτ x with hkept | ⟨hnone, -⟩
    · rw [hkept, hbefore] at hafter
      cases hafter
    · rw [hnone] at hafter
      cases hafter

end Deed

/-- **The first one wins.**  Whatever a deed does, and whatever the network answers:

1. An origin that is noted stays, or is gone, which takes the removal of the signer that it names or
   of its entry.
2. An origin that is new comes from the activity for its kind, in some group, and names the first
   member, in the order of the group, that was seen to serve the key or the name. -/
theorem first_writer_wins (c : Controller ω) (e : Deed ω) (x : Subject) (name : String) :
    (e.before.state.origin? x = some name →
      (e.after c).state.origin? x = some name ∨
        (e.after c).state.origin? x = none ∧ (e.RemovesSigner c name ∨ e.Forgets c x)) ∧
    (e.before.state.origin? x = none → (e.after c).state.origin? x = some name →
      ∃ zone views t, e.Does c zone x.activity ∧
        (observeGroup zone (touched x.activity)).perform c.outside e.before = (.ok views, t) ∧
        e.before.state.members zone = .ok (views.map SignerView.member) ∧
        ∃ v, views.find? x.servedBy = some v ∧ v.name = name) := by
  refine ⟨(e.provenance c).lasts, fun hbefore hafter => ?_⟩
  obtain ⟨zone, views, t, hdoes, hasked, hfirst⟩ := (e.provenance c).first hbefore hafter
  exact ⟨zone, views, t, hdoes, hasked, members_of_observeGroup hasked, hfirst⟩

/-- **What is noted lasts through runs** in which neither the signer nor the entry is removed. -/
theorem origin_lasts {c : Controller ω} {start σ : State} {run : List (Deed ω)} {x : Subject}
    {name : String} (hrun : Run c (fun σ τ => τ = σ)
      (fun e => ¬ e.RemovesSigner c name ∧ ¬ e.Forgets c x) start run σ)
    (hstart : start.origin? x = some name) : σ.origin? x = some name := by
  induction hrun with
  | start => exact hstart
  | @deed run σ e _ hbefore hfits ih =>
    rw [← hbefore] at ih
    exact ((e.provenance c).lasts ih).resolve_right fun h => h.2.elim hfits.1 hfits.2

namespace Sample

/-- The entry that the first sync made is removed. -/
def forgetting : Deed Int :=
  command ["conf-remove", "ns-origin:b."] (firstSync.after controller).state

/-- The first sync notes the only member for the name that it serves.  The note is gone once its
entry is removed. -/
theorem first_writer_of_firstSync :
    (∃ zone views t, firstSync.Does controller zone .syncNs ∧
      (observeGroup zone [.ns]).perform outside firstSync.before = (.ok views, t) ∧
      firstSync.before.state.members zone = .ok (views.map SignerView.member) ∧
      ∃ v, views.find? (Subject.name (name 98)).servedBy = some v ∧ v.name = "a") ∧
    (forgetting.after controller).state.origin? (.name (name 98)) = none ∧
    (forgetting.RemovesSigner controller "a" ∨
      forgetting.Forgets controller (.name (name 98))) := by
  have hnoted := (first_writer_wins controller firstSync (.name (name 98)) "a").2
    (by decide +kernel) (by decide +kernel)
  have hgone : (forgetting.after controller).state.origin? (.name (name 98)) = none := by
    decide +kernel
  refine ⟨hnoted, hgone, ?_⟩
  rcases (first_writer_wins controller forgetting (.name (name 98)) "a").1 (by decide +kernel) with
    hkept | ⟨-, hremoved⟩
  · rw [hgone] at hkept
    cases hkept
  · exact hremoved

end Sample
end MultiSigner
