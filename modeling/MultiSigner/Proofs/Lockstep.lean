/-
# Two runs side by side

To compare what an operation does in two sessions, both runs are followed at once: they are in
lockstep if they give the same result and what they leave is related again.  `Matches` says so of
two sessions, `Lockstep` of all that are related, and `Parallel` is the same for results that need
only correspond; rules for each way of putting operations together carry them through their text.

What is done about a zone looks at little.  `Footing` lists it: if the single steps that ask, report
and change the zone's group are in lockstep, and targets of updates are found alike, then so is
everything that is put together from them (`Footing.observeGroup`, `Footing.push`, `Footing.wait`,
…), up to a whole step (`Footing.matches_step`).  Only the origins of keys are left out: whoever
compares two runs has to say about them what is known.

`Beside` is a relation that offers this.  It lets the documents differ in everything but the zone's
group, the records of its members, credentials and settings (`State.AgreeOn`), and it wants the same
of the outside and the same updates to have been sent.
-/
import MultiSigner.Proofs.Questions
import MultiSigner.Proofs.Planning

namespace MultiSigner

open Operation Automation

variable {ω α β : Type} {o : Outside ω} {s s' t t' : Session ω} {zone : DomainName}
  {σ σ' τ τ' : State}

namespace Operation

/-! ## 1. Lockstep -/

/-- Two operations have the same result, and the sessions that they leave are related. -/
def Matches (R : Session ω → Session ω → Prop) (o : Outside ω) (s s' : Session ω)
    (op op' : Operation ω α) : Prop :=
  (op.perform o s).1 = (op'.perform o s').1 ∧ R (op.perform o s).2 (op'.perform o s').2

/-- The same in all related sessions. -/
def Lockstep (R : Session ω → Session ω → Prop) (o : Outside ω) (op op' : Operation ω α) : Prop :=
  ∀ s s', R s s' → Matches R o s s' op op'

section Lockstep

variable {R : Session ω → Session ω → Prop}

theorem Matches.bind {op op' : Operation ω α} {f f' : α → Operation ω β}
    (h : Matches R o s s' op op')
    (k : ∀ a t t', op.perform o s = (.ok a, t) → op'.perform o s' = (.ok a, t') → R t t' →
      Matches R o t t' (f a) (f' a)) : Matches R o s s' (op >>= f) (op' >>= f') := by
  obtain ⟨hresult, hrel⟩ := h
  rw [Matches, perform_bind, perform_bind]
  rcases hop : op.perform o s with ⟨e | a, t⟩
  all_goals
    rcases hop' : op'.perform o s' with ⟨e' | a', t'⟩
    all_goals
      rw [hop, hop'] at hresult hrel
      cases hresult
  · exact ⟨rfl, hrel⟩
  · exact k _ t t' hop hop' hrel

theorem matches_state_bind {f f' : State → Operation ω α}
    (h : Matches R o s s' (f s.state) (f' s'.state)) :
    Matches R o s s' (state >>= f) (state >>= f') := by
  rw [Matches, perform_bind, perform_bind]
  exact h

theorem lockstep_pure (a : α) : Lockstep R o (pure a) (pure a) := fun _ _ h => ⟨rfl, h⟩

theorem lockstep_throw (e : Error) : Lockstep R o (throw e : Operation ω α) (throw e) :=
  fun _ _ h => ⟨rfl, h⟩

theorem lockstep_lift (r : Except Error α) :
    Lockstep R o (liftM r : Operation ω α) (liftM r) := by
  cases r with
  | ok a => exact lockstep_pure a
  | error e => exact lockstep_throw e

theorem lockstep_bind {op op' : Operation ω α} {f f' : α → Operation ω β}
    (h : Lockstep R o op op') (k : ∀ a, Lockstep R o (f a) (f' a)) :
    Lockstep R o (op >>= f) (op' >>= f') := fun s s' hs =>
  (h s s' hs).bind fun a t t' _ _ ht => k a t t' ht

theorem lockstep_ite {c : Prop} [Decidable c] {op op' k k' : Operation ω α}
    (h : Lockstep R o op op') (hk : Lockstep R o k k') :
    Lockstep R o (if c then op else k) (if c then op' else k') := by
  split
  · exact h
  · exact hk

/-- What is refused under a condition, and goes on otherwise. -/
theorem lockstep_unless {c : Prop} [Decidable c] {e : Error} {op op' : Unit → Operation ω α}
    (h : Lockstep R o (op ()) (op' ())) :
    Lockstep R o (if c then throw e >>= op else op ()) (if c then throw e >>= op' else op' ()) :=
  lockstep_ite (lockstep_bind (lockstep_throw e) fun _ => h) h

theorem lockstep_attempt {op op' : Operation ω α} (h : Matches R o s s' op op') :
    Matches R o s s' (attempt op) (attempt op') :=
  ⟨congrArg Except.ok h.1, h.2⟩

theorem lockstep_mapM {f : α → Operation ω β} (h : ∀ a, Lockstep R o (f a) (f a)) (l : List α) :
    Lockstep R o (l.mapM f) (l.mapM f) := by
  induction l with
  | nil =>
    rw [List.mapM_nil]
    exact lockstep_pure []
  | cons a l ih =>
    rw [List.mapM_cons]
    exact lockstep_bind (h a) fun b => lockstep_bind ih fun bs => lockstep_pure _

theorem lockstep_foldlM {f : β → α → Operation ω β} (h : ∀ b a, Lockstep R o (f b a) (f b a))
    (l : List α) (b : β) : Lockstep R o (l.foldlM f b) (l.foldlM f b) := by
  induction l generalizing b with
  | nil => exact lockstep_pure b
  | cons a l ih =>
    rw [List.foldlM_cons]
    exact lockstep_bind (h b a) ih

theorem lockstep_read : Lockstep R o (read : Operation ω (Outside ω)) read :=
  fun _ _ h => ⟨rfl, h⟩

theorem lockstep_state_bind {f f' : State → Operation ω α}
    (h : ∀ s s', R s s' → Lockstep R o (f s.state) (f' s'.state)) :
    Lockstep R o (state >>= f) (state >>= f') := fun s s' hs =>
  matches_state_bind (h s s' hs s s' hs)

/-- What is looked up in the documents is the same, and gone on with. -/
theorem lockstep_lookup {f : State → Except Error α} {k : α → Operation ω β}
    (hf : ∀ s s', R s s' → f s'.state = f s.state) (hk : ∀ a, Lockstep R o (k a) (k a)) :
    Lockstep R o (do let a ← f (← state); k a) (do let a ← f (← state); k a) := by
  refine lockstep_state_bind fun s s' hs => ?_
  rw [hf s s' hs]
  exact lockstep_bind (lockstep_lift _) hk

theorem lockstep_get_bind {f f' : Session ω → Operation ω α}
    (h : ∀ s s', R s s' → Lockstep R o (f s) (f' s')) :
    Lockstep R o (get >>= f) (get >>= f') := fun s s' hs => by
  rw [Matches, perform_bind, perform_bind]
  exact h s s' hs s s' hs

theorem lockstep_tell (h : ∀ texts, Lockstep R o (lines texts) (lines texts))
    (r : Report String) : Lockstep R o (tell r) (tell r) := by
  refine lockstep_bind (h _) fun _ => ?_
  cases r.failure? with
  | none => exact lockstep_pure ()
  | some e => exact lockstep_throw e

end Lockstep

end Operation

/-! ## 2. Results that correspond -/

/-- Both fail in the same way, or both succeed with values that are related. -/
inductive Corresponds (Q : α → β → Prop) : Except Error α → Except Error β → Prop
  | ok {a : α} {b : β} (h : Q a b) : Corresponds Q (.ok a) (.ok b)
  | error (e : Error) : Corresponds Q (.error e) (.error e)

theorem corresponds_refl {Q : α → α → Prop} (h : ∀ a, Q a a) (r : Except Error α) :
    Corresponds Q r r := by
  cases r with
  | ok a => exact .ok (h a)
  | error e => exact .error e

theorem corresponds_eq_iff {r r' : Except Error α} : Corresponds Eq r r' ↔ r = r' := by
  constructor
  · intro h
    cases h with
    | ok h => rw [h]
    | error e => rfl
  · rintro rfl
    exact corresponds_refl (fun _ => rfl) r

theorem Corresponds.bind {γ δ : Type} {Q : α → β → Prop} {P : γ → δ → Prop} {r : Except Error α}
    {r' : Except Error β} {f : α → Except Error γ} {f' : β → Except Error δ}
    (h : Corresponds Q r r') (k : ∀ a b, Q a b → Corresponds P (f a) (f' b)) :
    Corresponds P (r >>= f) (r' >>= f') := by
  cases h with
  | ok hab => exact k _ _ hab
  | error e => exact .error e

/-- What is found in the same way is gone on with. -/
theorem corresponds_bind {γ : Type} {Q : α → β → Prop} {r : Except Error γ}
    {f : γ → Except Error α} {f' : γ → Except Error β} (h : ∀ c, Corresponds Q (f c) (f' c)) :
    Corresponds Q (r >>= f) (r >>= f') := by
  cases r with
  | ok c => exact h c
  | error e => exact .error e

theorem Corresponds.ite {Q : α → β → Prop} {c : Prop} [Decidable c] {r k : Except Error α}
    {r' k' : Except Error β} (h : Corresponds Q r r') (hk : Corresponds Q k k') :
    Corresponds Q (if c then r else k) (if c then r' else k') := by
  split
  · exact h
  · exact hk

namespace Operation

/-- The results of two operations correspond in all related sessions, and what they leave is related
again. -/
def Parallel (Q : α → β → Prop) (R : Session ω → Session ω → Prop) (o : Outside ω)
    (op : Operation ω α) (op' : Operation ω β) : Prop :=
  ∀ s s', R s s' → Corresponds Q (op.perform o s).1 (op'.perform o s').1 ∧
    R (op.perform o s).2 (op'.perform o s').2

section Parallel

variable {γ δ : Type} {R : Session ω → Session ω → Prop} {Q : α → β → Prop} {P : γ → δ → Prop}

theorem lockstep_iff_parallel {op op' : Operation ω α} :
    Lockstep R o op op' ↔ Parallel Eq R o op op' := by
  simp only [Lockstep, Matches, Parallel, corresponds_eq_iff]

theorem parallel_pure {a : α} {b : β} (h : Q a b) :
    Parallel Q R o (pure a : Operation ω α) (pure b : Operation ω β) :=
  fun _ _ hs => ⟨.ok h, hs⟩

theorem parallel_lift {r : Except Error α} {r' : Except Error β} (h : Corresponds Q r r') :
    Parallel Q R o (liftM r : Operation ω α) (liftM r' : Operation ω β) := by
  intro s s' hs
  rw [perform_lift, perform_lift]
  exact ⟨h, hs⟩

theorem Parallel.bind {op : Operation ω α} {op' : Operation ω β} {f : α → Operation ω γ}
    {f' : β → Operation ω δ} (h : Parallel Q R o op op')
    (k : ∀ a b, Q a b → Parallel P R o (f a) (f' b)) :
    Parallel P R o (op >>= f) (op' >>= f') := by
  intro s s' hs
  obtain ⟨hresult, hrel⟩ := h s s' hs
  rw [perform_bind, perform_bind]
  rcases hop : op.perform o s with ⟨r, t⟩
  rcases hop' : op'.perform o s' with ⟨r', t'⟩
  rw [hop, hop'] at hresult hrel
  cases hresult with
  | ok hab => exact k _ _ hab t t' hrel
  | error e => exact ⟨.error e, hrel⟩

/-- Results that correspond are gone on with, to the same result. -/
theorem Parallel.lockstep_bind {op : Operation ω α} {op' : Operation ω β} {f : α → Operation ω γ}
    {f' : β → Operation ω γ} (h : Parallel Q R o op op')
    (k : ∀ a b, Q a b → Lockstep R o (f a) (f' b)) : Lockstep R o (op >>= f) (op' >>= f') :=
  lockstep_iff_parallel.2 (h.bind fun a b hab => lockstep_iff_parallel.1 (k a b hab))

theorem parallel_state_bind {f : State → Operation ω α} {f' : State → Operation ω β}
    (h : ∀ s s', R s s' → Parallel Q R o (f s.state) (f' s'.state)) :
    Parallel Q R o (state >>= f) (state >>= f') := by
  intro s s' hs
  rw [perform_bind, perform_bind]
  exact h s s' hs s s' hs

theorem parallel_mapM {f : γ → Operation ω α} {f' : γ → Operation ω β}
    (h : ∀ c, Parallel Q R o (f c) (f' c)) (l : List γ) :
    Parallel (List.Forall₂ Q) R o (l.mapM f) (l.mapM f') := by
  induction l with
  | nil =>
    rw [List.mapM_nil, List.mapM_nil]
    exact parallel_pure .nil
  | cons c l ih =>
    rw [List.mapM_cons, List.mapM_cons]
    exact (h c).bind fun a b hab => ih.bind fun as bs hl => parallel_pure (.cons hab hl)

theorem lockstep_forM_of_forall₂ {f : α → Operation ω PUnit} {f' : β → Operation ω PUnit}
    (h : ∀ a b, Q a b → Lockstep R o (f a) (f' b)) {l : List α} {l' : List β}
    (hl : List.Forall₂ Q l l') : Lockstep R o (l.forM f) (l'.forM f') := by
  induction hl with
  | nil => exact lockstep_pure _
  | cons hab _ ih => exact Operation.lockstep_bind (h _ _ hab) fun _ => ih

end Parallel

end Operation

/-! ## 3. What is needed about a zone -/

/-- Two targets are the same but for their credentials, which are related. -/
structure UpdateTarget.Alike (Q : Credential → Credential → Prop) (x x' : UpdateTarget) :
    Prop where
  signer : x'.signer = x.signer
  kind : x'.kind = x.kind
  address : x'.address = x.address
  credential : Q x.credential x'.credential
  debug : x'.debug = x.debug

theorem UpdateTarget.Alike.eq {x x' : UpdateTarget} (h : x.Alike Eq x') : x' = x := by
  obtain ⟨hsigner, hkind, haddress, hcredential, hdebug⟩ := h
  cases x
  cases x'
  simp_all

/-- What two related sessions share, and what has to be in lockstep for everything that is done about
a zone to be.  Credentials need only correspond. -/
structure Footing (zone : DomainName) (Q : Credential → Credential → Prop)
    (R : Session ω → Session ω → Prop) (o : Outside ω) : Prop where
  group : ∀ {s s'}, R s s' → s'.state.group zone = s.state.group zone
  members : ∀ {s s'}, R s s' → s'.state.members zone = s.state.members zone
  debug : ∀ {s s'}, R s s' → s'.state.debugUpdater = s.state.debugUpdater
  credential : ∀ {s s'}, R s s' → ∀ m,
    Corresponds Q (Push.credential s.state m) (Push.credential s'.state m)
  lines : ∀ texts, Lockstep R o (lines texts) (lines texts)
  publishStatus : Lockstep R o (publishStatus zone) (publishStatus zone)
  now : Lockstep R o now now
  query : ∀ server kind, Lockstep R o (query server zone kind) (query server zone kind)
  modifyGroup : ∀ {f : Group → Group}, (∀ g, (f g).signers = g.signers) →
    Lockstep R o (modifyState fun s => s.modifyGroup zone f)
      (modifyState fun s => s.modifyGroup zone f)
  nsOrigins : ∀ views : List SignerView,
    Lockstep R o (modifyState fun s => views.foldl Sync.Nameservers.recordOrigins s)
      (modifyState fun s => views.foldl Sync.Nameservers.recordOrigins s)
  deliver : ∀ {x x' : UpdateTarget}, x.Alike Q x' → ∀ changes,
    Lockstep R o (deliver ⟨zone, x, changes⟩) (deliver ⟨zone, x', changes⟩)

namespace Footing

variable {Q : Credential → Credential → Prop} {R : Session ω → Session ω → Prop}
  (h : Footing zone Q R o)

include h

theorem line (text : String) : Lockstep R o (Operation.line text) (Operation.line text) :=
  h.lines [text]

theorem tell (r : Report String) : Lockstep R o (Operation.tell r) (Operation.tell r) :=
  lockstep_tell h.lines r

theorem group_bind {f : Group → Operation ω α} (hf : ∀ g, Lockstep R o (f g) (f g)) :
    Lockstep R o (do let g ← (← state).group zone; f g)
      (do let g ← (← state).group zone; f g) :=
  lockstep_lookup (fun _ _ => h.group) hf

/-! ## 4. Asking -/

theorem groupMembers :
    Lockstep R o (Operation.groupMembers zone) (Operation.groupMembers zone) :=
  lockstep_lookup (fun _ _ => h.members) fun _ => lockstep_unless (lockstep_pure _)

theorem observeSigner (kinds : List RecordKind) (m : Member) :
    Lockstep R o (Operation.observeSigner zone kinds m) (Operation.observeSigner zone kinds m) := by
  refine lockstep_bind (lockstep_lift _) fun _ => lockstep_foldlM (fun v kind => ?_) _ _
  exact lockstep_bind (h.query _ _) fun _ => lockstep_pure _

theorem observeGroup (kinds : List RecordKind) :
    Lockstep R o (Operation.observeGroup zone kinds) (Operation.observeGroup zone kinds) :=
  lockstep_bind h.groupMembers fun _ => lockstep_mapM (h.observeSigner kinds) _

theorem parentAddress :
    Lockstep R o (Operation.parentAddress zone) (Operation.parentAddress zone) := by
  refine h.group_bind fun g => ?_
  exact lockstep_unless (lockstep_pure _)

theorem observeParent (kinds : List RecordKind) :
    Lockstep R o (Operation.observeParent zone kinds) (Operation.observeParent zone kinds) := by
  refine lockstep_bind h.parentAddress fun _ => lockstep_foldlM (fun v kind => ?_) _ _
  exact lockstep_bind (h.query _ _) fun _ => lockstep_pure _

/-! ## 5. Pushing -/

/-- The same plan, with a target in either run. -/
def SameTarget (Q : Credential → Credential → Prop) (p p' : Plan × UpdateTarget) : Prop :=
  p'.1 = p.1 ∧ p.2.Alike Q p'.2

omit h in
theorem lockstep_checkMember (m : Member) :
    Lockstep R o (Push.checkMember m) (Push.checkMember m) := by
  refine lockstep_bind (lockstep_lift _) fun _ => lockstep_bind lockstep_read fun o' => ?_
  exact lockstep_bind (lockstep_lift _) fun _ => lockstep_pure _

theorem resolve (p : Plan) :
    Parallel (Option.Rel (SameTarget Q)) R o (Push.resolve p) (Push.resolve p) := by
  refine (lockstep_iff_parallel.1 (lockstep_checkMember _)).bind fun _ _ _ => ?_
  refine parallel_state_bind fun s s' hs => ?_
  have hcredential := h.credential hs p.member
  generalize Push.credential s.state p.member = r at hcredential
  generalize Push.credential s'.state p.member = r' at hcredential
  cases hcredential with
  | ok hQ => exact parallel_pure (.some ⟨rfl, ⟨rfl, rfl, rfl, hQ, h.debug hs⟩⟩)
  | error e =>
    exact (lockstep_iff_parallel.1 (h.line _)).bind fun _ _ _ => parallel_pure .none

/-- **Targets are found alike.** -/
theorem resolveAll (plans : List Plan) :
    Parallel (List.Forall₂ (SameTarget Q)) R o (Push.resolveAll plans) (Push.resolveAll plans) := by
  refine (parallel_mapM h.resolve plans).bind fun resolved resolved' hall => ?_
  have hfound : List.Forall₂ (SameTarget Q) (resolved.filterMap id) (resolved'.filterMap id) :=
    List.rel_filterMap (fun _ _ hx => hx) hall
  simp only [hfound.length_eq]
  split
  · exact (lockstep_iff_parallel.1 (lockstep_throw _)).bind fun _ _ _ => parallel_pure hfound
  · exact parallel_pure hfound

theorem push (plans : List Plan) :
    Lockstep R o (Push.push zone plans) (Push.push zone plans) := by
  refine (h.resolveAll _).lockstep_bind fun found found' hfound => ?_
  refine lockstep_forM_of_forall₂ (fun p p' hp => ?_) hfound
  obtain ⟨hplan, htarget⟩ := hp
  rw [Push.send, Push.send, hplan]
  exact lockstep_bind (h.deliver htarget _) fun _ => h.lines _

/-! ## 6. Holding -/

theorem report (t now : Timestamp) : Lockstep R o (Hold.report t now) (Hold.report t now) := by
  unfold Hold.report
  cases t.text? with
  | none => exact lockstep_throw _
  | some text => exact h.line _

theorem askTtl (kind : RecordKind) (label server : String) :
    Lockstep R o (Hold.askTtl zone kind label server) (Hold.askTtl zone kind label server) :=
  lockstep_bind (h.query _ _) fun _ => lockstep_bind (h.lines _) fun _ => lockstep_pure _

theorem largestTtl (hold : Hold) :
    Lockstep R o (hold.largestTtl zone) (hold.largestTtl zone) := by
  refine lockstep_bind h.groupMembers fun members => ?_
  refine lockstep_bind (lockstep_mapM (fun m => ?_) members) fun ttls => ?_
  · exact lockstep_bind (lockstep_lift _) fun _ => h.askTtl _ _ _
  · exact lockstep_bind h.parentAddress fun _ => lockstep_bind (h.askTtl _ _ _) fun _ =>
      lockstep_pure _

theorem setDeadline (hold : Hold) (t : Option Timestamp) :
    Lockstep R o (modifyState fun s => s.modifyGroup zone (hold.withDeadline t))
      (modifyState fun s => s.modifyGroup zone (hold.withDeadline t)) :=
  h.modifyGroup fun g => by cases hold <;> rfl

theorem wait (hold : Hold) : Lockstep R o (hold.wait zone) (hold.wait zone) := by
  refine lockstep_bind h.now fun now => h.group_bind fun g => ?_
  cases hold.deadline g with
  | some t => exact lockstep_bind (h.report t now) fun _ => lockstep_pure t
  | none =>
    refine lockstep_bind (h.largestTtl hold) fun ttl => ?_
    refine lockstep_bind (h.line _) fun _ => ?_
    refine lockstep_bind (h.setDeadline hold _) fun _ => ?_
    exact lockstep_bind (h.report _ now) fun _ => lockstep_pure _

/-! ## 7. Work and steps -/

theorem serial (m : Member) :
    Lockstep R o (Sync.DelegationRequest.serial zone m) (Sync.DelegationRequest.serial zone m) := by
  refine lockstep_bind (lockstep_lift _) fun _ => lockstep_bind (h.query _ _) fun a => ?_
  cases Sync.DelegationRequest.serial? a with
  | some n => exact lockstep_pure n
  | none => exact lockstep_throw _

/-- **Plans that read no origins** are the same. -/
theorem planning {a : Activity} (ha : a ≠ .syncDnskeys) :
    Lockstep R o (Automation.planning zone a) (Automation.planning zone a) := by
  cases a with
  | syncDnskeys => exact absurd rfl ha
  | syncNs =>
    refine lockstep_bind (h.observeGroup _) fun views => h.group_bind fun g => ?_
    refine lockstep_bind (h.nsOrigins views) fun _ => ?_
    exact lockstep_bind (h.lines _) fun _ => lockstep_pure _
  | syncCds =>
    refine lockstep_bind (h.observeGroup _) fun views => ?_
    refine lockstep_bind (h.tell _) fun _ => ?_
    exact lockstep_ite (lockstep_bind (h.line _) fun _ => lockstep_pure _) (lockstep_pure _)
  | addCsync =>
    refine lockstep_bind h.groupMembers fun members => h.group_bind fun g => ?_
    refine lockstep_mapM (fun m => ?_) members
    exact lockstep_bind (h.serial m) fun _ => lockstep_bind (h.line _) fun _ => lockstep_pure _
  | removeCds | removeCsync => exact lockstep_bind h.groupMembers fun _ => lockstep_pure _
  | checkDnskeys | checkCds | checkParentDs | wait | checkNs | checkParentNs =>
    exact lockstep_pure _

/-- **What is planned alike is done alike.** -/
theorem matches_act {d : Direction} {a : Activity} {op : Operation ω Unit}
    (hop : work zone d a = .act op)
    (hplans : Matches R o s s' (Automation.planning zone a) (Automation.planning zone a)) :
    Matches R o s s' op op := by
  rw [Matches, (perform_of_act hop).2, (perform_of_act hop).2]
  exact hplans.bind fun plans t t' _ _ ht => h.push plans t t' ht

theorem hold (stage : Stage) (hold : Hold) :
    Lockstep R o (doWork zone stage (.hold hold)) (doWork zone stage (.hold hold)) := by
  refine lockstep_bind (h.wait hold) fun deadline => lockstep_bind h.now fun now => ?_
  refine lockstep_ite (lockstep_pure _) (lockstep_bind (h.line _) fun _ => ?_)
  exact lockstep_bind (h.setDeadline hold none) fun _ => lockstep_pure _

/-- **The work of a stage**, given what depends on the origins of keys. -/
theorem matches_runStage {stage : Stage} (hs : R s s')
    (hcheck : Matches R o s s' (Status.check zone) (Status.check zone))
    (hkeys : ∀ d, stage = .walking d .syncDnskeys → Matches R o s s'
      (Automation.planning zone .syncDnskeys) (Automation.planning zone .syncDnskeys)) :
    Matches R o s s' (runStage zone stage) (runStage zone stage) := by
  cases stage with
  | ready | manual | error => exact lockstep_pure _ s s' hs
  | walking d a =>
    have hplans : Matches R o s s' (Automation.planning zone a) (Automation.planning zone a) := by
      by_cases ha : a = .syncDnskeys
      · subst ha
        exact hkeys d rfl
      · exact h.planning ha s s' hs
    show Matches R o s s' (doWork zone _ (work zone d a)) (doWork zone _ (work zone d a))
    cases hwork : work zone d a with
    | act op =>
      exact (h.matches_act hwork hplans).bind fun _ t t' _ _ ht => lockstep_pure _ t t' ht
    | check flag =>
      exact hcheck.bind fun flags t t' _ _ ht =>
        lockstep_ite (lockstep_bind (h.line _) fun _ => lockstep_pure _)
          (lockstep_bind (h.line _) fun _ => lockstep_pure _) t t' ht
    | hold w => exact h.hold _ w s s' hs

/-- **A step**, given the work of the stage. -/
theorem matches_step (hs : R s s')
    (hrun : ∀ g, s.state.groups.get? zone = some g →
      Matches R o s s' (runStage zone g.stage) (runStage zone g.stage)) :
    Matches R o s s' (step zone) (step zone) := by
  refine matches_state_bind ?_
  rw [h.group hs]
  refine (lockstep_lift _ s s' hs).bind fun g t t' hlook hlook' ht => ?_
  rw [perform_lift] at hlook hlook'
  obtain ⟨hg, rfl⟩ := Prod.mk.inj hlook
  obtain ⟨-, rfl⟩ := Prod.mk.inj hlook'
  cases restingLine g.stage with
  | some text => exact h.line text s s' hs
  | none =>
    refine (lockstep_attempt (hrun g (State.group_eq_ok.1 hg))).bind fun r t t' _ _ ht => ?_
    cases r with
    | ok next =>
      refine lockstep_ite ?_ (lockstep_pure _) t t' ht
      refine lockstep_bind (h.modifyGroup fun _ => rfl) fun _ => ?_
      exact lockstep_bind (h.line _) fun _ => h.publishStatus
    | error e =>
      refine lockstep_bind (h.line _) (fun _ => ?_) t t' ht
      refine lockstep_bind (h.modifyGroup fun _ => rfl) fun _ => ?_
      exact lockstep_bind h.publishStatus fun _ => lockstep_throw e

end Footing

/-! ## 8. Documents that agree on a zone -/

/-- Two documents have the same group of a zone, the same records of its members, and the same
credentials and settings. -/
structure State.AgreeOn (zone : DomainName) (σ σ' : State) : Prop where
  group : σ'.groups.get? zone = σ.groups.get? zone
  signers : ∀ g, σ.groups.get? zone = some g → ∀ name ∈ g.signers,
    σ'.signers.get? name = σ.signers.get? name
  tsigKeys : σ'.tsigKeys = σ.tsigKeys
  tokens : σ'.tokens = σ.tokens
  settings : σ'.settings = σ.settings

namespace State

theorem AgreeOn.group_eq (h : AgreeOn zone σ σ') : σ'.group zone = σ.group zone := by
  rw [State.group, State.group, h.group]

theorem AgreeOn.members_eq (h : AgreeOn zone σ σ') : σ'.members zone = σ.members zone := by
  rw [members, members, h.group_eq]
  cases hg : σ.group zone with
  | error e => rfl
  | ok g =>
    have hsigner : ∀ name ∈ g.signers, σ'.signer name = σ.signer name := by
      intro name hname
      rw [signer, signer, h.signers g (group_eq_ok.1 hg) name hname]
    show (g.signers.mapM fun name => return ⟨name, ← σ'.signer name⟩ : Except Error (List Member))
      = g.signers.mapM fun name => return ⟨name, ← σ.signer name⟩
    generalize g.signers = names at hsigner
    induction names with
    | nil => rfl
    | cons name names ih =>
      rw [List.mapM_cons, List.mapM_cons, hsigner name List.mem_cons_self,
        ih fun n hn => hsigner n (List.mem_cons_of_mem _ hn)]

/-- Both documents may have the group changed, as long as it keeps its members. -/
theorem AgreeOn.modifyGroup (h : AgreeOn zone σ σ') {f : Group → Group}
    (hf : ∀ g, (f g).signers = g.signers) :
    AgreeOn zone (σ.modifyGroup zone f) (σ'.modifyGroup zone f) where
  group := by rw [get?_modifyGroup, get?_modifyGroup, h.group]
  signers g hg name hname := by
    rw [get?_modifyGroup, Option.map_eq_some_iff] at hg
    obtain ⟨g, hg, rfl⟩ := hg
    rw [hf] at hname
    exact h.signers g hg name hname
  tsigKeys := h.tsigKeys
  tokens := h.tokens
  settings := h.settings

/-- It does not depend on origins. -/
theorem AgreeOn.congr (h : AgreeOn zone σ σ') (hτ : τ.withoutOrigins = σ.withoutOrigins)
    (hτ' : τ'.withoutOrigins = σ'.withoutOrigins) : AgreeOn zone τ τ' where
  group := by
    rw [groups_of_withoutOrigins hτ, groups_of_withoutOrigins hτ']
    exact h.group
  signers := by
    rw [groups_of_withoutOrigins hτ, signers_of_withoutOrigins hτ, signers_of_withoutOrigins hτ']
    exact h.signers
  tsigKeys := (congrArg State.tsigKeys hτ').trans (h.tsigKeys.trans (congrArg State.tsigKeys hτ).symm)
  tokens := (congrArg State.tokens hτ').trans (h.tokens.trans (congrArg State.tokens hτ).symm)
  settings := (congrArg State.settings hτ').trans (h.settings.trans (congrArg State.settings hτ).symm)

end State

/-- Two sessions agree on a zone and on the outside, and the same updates were sent in both since
their beginnings. -/
structure Beside (zone : DomainName) (before before' : List Delivery) (s s' : Session ω) : Prop where
  world : s'.world = s.world
  state : s.state.AgreeOn zone s'.state
  sent : ∃ ds, s.deliveries = before ++ ds ∧ s'.deliveries = before' ++ ds

section Beside

variable {before before' : List Delivery}

/-! ## 9. Single steps -/

/-- What may differ does. -/
theorem Beside.congr (h : Beside zone before before' s s') (hstate : t.state = s.state)
    (hworld : t.world = s.world) (hsent : t.deliveries = s.deliveries)
    (hstate' : t'.state = s'.state) (hworld' : t'.world = s'.world)
    (hsent' : t'.deliveries = s'.deliveries) : Beside zone before before' t t' where
  world := by rw [hworld, hworld', h.world]
  state := by
    rw [hstate, hstate']
    exact h.state
  sent := by
    rw [hsent, hsent']
    exact h.sent

theorem beside_lines (texts texts' : List String) :
    Lockstep (Beside zone before before') o (lines texts) (lines texts') :=
  fun _ _ h => ⟨rfl, h.congr rfl rfl rfl rfl rfl rfl⟩

theorem beside_modifyState {f f' : State → State}
    (h : ∀ σ σ', State.AgreeOn zone σ σ' → State.AgreeOn zone (f σ) (f' σ')) :
    Lockstep (Beside zone before before') o (modifyState f) (modifyState f') :=
  fun s s' hs => ⟨rfl, ⟨hs.world, h s.state s'.state hs.state, hs.sent⟩⟩

theorem beside_modify_origins {f : State → State}
    (hf : ∀ σ, (f σ).withoutOrigins = σ.withoutOrigins) :
    Lockstep (Beside zone before before') o (modifyState f) (modifyState f) :=
  beside_modifyState fun σ σ' h => h.congr (hf σ) (hf σ')

theorem beside_deliver (u : Update) :
    Lockstep (Beside zone before before') o (deliver u) (deliver u) := by
  refine lockstep_bind lockstep_read fun o' => lockstep_bind (lockstep_lift _) fun updater => ?_
  intro s s' h
  obtain ⟨ds, hds, hds'⟩ := h.sent
  simp only [Matches, perform_bind, perform_get, perform_set, perform_lift, h.world, true_and]
  refine ⟨rfl, h.state, ds ++ [⟨u, (updater.apply u s.world).outcome⟩], ?_, ?_⟩
  · simp only [hds, List.append_assoc]
  · simp only [hds', List.append_assoc]

/-- **Documents that agree on a zone** are all that is needed about it. -/
theorem footing_beside : Footing zone Eq (Beside zone before before') o where
  group h := h.state.group_eq
  members h := h.state.members_eq
  debug h := by rw [State.debugUpdater, State.debugUpdater, h.state.settings]
  credential h m := by
    rw [corresponds_eq_iff, Push.credential, Push.credential, h.state.tsigKeys, h.state.tokens]
  lines texts := beside_lines texts texts
  publishStatus s s' h := by
    rw [Matches, perform_publishStatus, perform_publishStatus]
    exact ⟨rfl, h.congr rfl rfl rfl rfl rfl rfl⟩
  now s s' h := ⟨by rw [perform_now, perform_now, h.world], h⟩
  query server kind s s' h := by
    rw [Matches, perform_query, perform_query, h.world]
    exact ⟨rfl, ⟨rfl, h.state, h.sent⟩⟩
  modifyGroup hf := beside_modifyState fun _ _ h => h.modifyGroup hf
  nsOrigins views := beside_modify_origins (withoutOrigins_nsOrigins views)
  deliver h changes := h.eq ▸ beside_deliver _

end Beside
end MultiSigner
