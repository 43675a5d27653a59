/-
# Failures that are the operator's own

A failure of class `validation` says that a command asked for something that is not to be had.  It
should change nothing: no document, no update, no event.

Operations that have to do with servers look their group up before they do anything else, and what
can fail later is not the operator's fault (`Opens`, `Spares`).  There are two exceptions, and
`blamed_of_execute` says that there are no others.  A step of a group that walks but has no signers
is refused like any other command, and yet the group is moved to the error stage, as after a server
that failed.  And the name of a key is looked at only when an update is signed with it, which may be
after other signers were sent theirs.
-/
import MultiSigner.Dialogue
import MultiSigner.Proofs.Misconfigured
import MultiSigner.Proofs.Outcomes

namespace MultiSigner

open Operation Automation

variable {ω α β : Type} {o : Outside ω} {s t : Session ω} {σ : State} {zone : DomainName}
  {a : Activity} {e : Error} {exchange : Exchange ω}

/-! ## 1. Whose fault a failure is -/

/-- The operator is not to blame for the failure. -/
def Error.Blameless (e : Error) : Prop :=
  e.kind ≠ .validation

theorem Error.blameless_dns : Error.dns.Blameless := by
  intro h
  cases h

/-- Servers and disks do not blame the operator, and signers are sent signed updates. -/
structure Outside.Candid (exchange : Exchange ω) (o : Outside ω) : Prop where
  updater : o.updater = SignedUpdate.updaters exchange
  query : ∀ {server zone kind w e}, (o.query server zone kind w).1 = .error e → e.Blameless
  exchange : ∀ {server key message w e}, (exchange server key message w).1 = .error e → e.Blameless
  save : ∀ {s w e}, (o.save s w).1 = .error e → e.Blameless

/-- **The outside of a process is such an outside.** -/
theorem Dialogue.candid : Outside.Candid Dialogue.exchange Dialogue.outside where
  updater := rfl
  query {server zone kind d e} h := by
    simp only [Dialogue.outside, Dialogue.query] at h
    split at h <;> cases h <;> exact nofun
  exchange {server key message d e} h := by
    simp only [Dialogue.exchange] at h
    split at h <;> cases h <;> exact nofun
  save {s d e} h := by
    simp only [Dialogue.outside, Dialogue.save, StateStore.pending, State.documentText] at h
    split at h
    · rename_i hpending
      split at hpending
      · cases hpending
      · cases hencode : s.encode with
        | none =>
          rw [hencode] at hpending
          cases h
          cases hpending
          exact nofun
        | some v =>
          rw [hencode] at hpending
          cases hpending
    · cases h
    · split at h <;> cases h
      exact nofun

namespace Operation

/-- The operation never fails through a fault of the operator. -/
abbrev Sure (o : Outside ω) (op : Operation ω α) : Prop :=
  Fails o Error.Blameless op

theorem sure_query (ho : o.Candid exchange) (server : String) (zone : DomainName)
    (kind : RecordKind) : Sure o (query server zone kind) := fun s e t h => by
  rw [perform_query] at h
  exact ho.query (congrArg Prod.fst h)

theorem sure_of_ok {op : Operation ω α} (h : ∀ s, ∃ a t, op.perform o s = (.ok a, t)) :
    Sure o op := fun s e t hp => by
  obtain ⟨a, u, hop⟩ := h s
  cases hop.symm.trans hp

theorem sure_lines (texts : List String) : Sure o (lines texts : Operation ω Unit) :=
  sure_of_ok fun _ => ⟨_, _, rfl⟩

theorem sure_modifyState (f : State → State) : Sure o (modifyState f : Operation ω Unit) :=
  sure_of_ok fun _ => ⟨_, _, rfl⟩

theorem sure_now : Sure o (now : Operation ω Timestamp) :=
  sure_of_ok fun _ => ⟨_, _, rfl⟩

theorem sure_checkAddress (m : Member) :
    Sure o (liftM (checkAddress m) : Operation ω Unit) := fails_lift fun e he => by
  unfold checkAddress at he
  split at he
  · cases he
    exact nofun
  · cases he

theorem sure_foldlM {f : β → α → Operation ω β} (h : ∀ b a, Sure o (f b a)) :
    ∀ (l : List α) (b : β), Sure o (l.foldlM f b)
  | [], b => fails_pure b
  | a :: l, b => by
    rw [List.foldlM_cons]
    exact fails_bind (h b a) fun c => sure_foldlM h l c

theorem sure_observeSigner (ho : o.Candid exchange) (zone : DomainName) (kinds : List RecordKind)
    (m : Member) : Sure o (observeSigner zone kinds m) :=
  fails_bind (sure_checkAddress m) fun _ =>
    sure_foldlM (fun _ _ => fails_bind (sure_query ho _ _ _) fun _ => fails_pure _) kinds _

theorem sure_serial (ho : o.Candid exchange) (zone : DomainName) (m : Member) :
    Sure o (Sync.DelegationRequest.serial zone m) := by
  refine fails_bind (sure_checkAddress m) fun _ => fails_bind (sure_query ho _ _ _) fun answer => ?_
  split
  · exact fails_pure _
  · exact fails_throw nofun

theorem sure_askTtl (ho : o.Candid exchange) (zone : DomainName) (kind : RecordKind)
    (label server : String) : Sure o (Hold.askTtl zone kind label server) :=
  fails_bind (sure_query ho _ _ _) fun _ => fails_bind (sure_lines _) fun _ => fails_pure _

theorem sure_report (deadline now : Timestamp) :
    Sure o (Hold.report deadline now : Operation ω Unit) := by
  unfold Hold.report
  split
  · exact fails_throw nofun
  · exact fails_line _

/-! ## 2. Operations on a group that is there -/

/-- On a group that is there the operation never fails through a fault of the operator. -/
def Spares (o : Outside ω) (zone : DomainName) (op : Operation ω α) : Prop :=
  ∀ s e t, (s.state.sight zone).isSome = true → op.perform o s = (.error e, t) → e.Blameless

theorem Fails.spares {op : Operation ω α} (h : Sure o op) : Spares o zone op :=
  fun s e t _ hp => h s e t hp

theorem sight_of_inward {op : Operation ω α} (h : Inward op) {r : Except Error α}
    (hp : op.perform o s = (r, t)) : t.state.sight zone = s.state.sight zone :=
  State.sight_of_outline (congrArg Prod.fst (h.rel_of_perform hp)) zone

theorem spares_bind {op : Operation ω α} {f : α → Operation ω β} (h : Spares o zone op)
    (hin : Inward op) (k : ∀ a, Spares o zone (f a)) : Spares o zone (op >>= f) := by
  intro s e t hs hp
  rw [perform_bind] at hp
  rcases hop : op.perform o s with ⟨e' | a, m⟩
  · rw [hop] at hp
    cases hp
    exact h s e t hs hop
  · rw [hop] at hp
    rw [← sight_of_inward hin hop] at hs
    exact k a m e t hs hp

theorem spares_group_bind {f : Group → Operation ω β} (k : ∀ g, Spares o zone (f g)) :
    Spares o zone (do let σ ← state; let g ← liftM (σ.group zone); f g) := by
  intro s e t hs hp
  have hthere := hs
  rw [State.isSome_sight] at hthere
  obtain ⟨g, hg⟩ := Option.isSome_iff_exists.1 hthere
  simp only [perform_bind, perform_state, perform_lift, State.group_eq_ok.2 hg] at hp
  exact k g s e t hs hp

theorem spares_parentAddress (zone : DomainName) :
    Spares o zone (parentAddress zone : Operation ω String) :=
  spares_group_bind fun _ => Fails.spares (fails_ite
    (fails_bind (fails_throw nofun) fun _ => fails_pure _) (fails_pure _))

theorem spares_observeParent (ho : o.Candid exchange) (zone : DomainName)
    (kinds : List RecordKind) : Spares o zone (observeParent zone kinds) :=
  spares_bind (spares_parentAddress zone) (quiet_parentAddress zone).inward fun _ =>
    Fails.spares (sure_foldlM
      (fun _ _ => fails_bind (sure_query ho _ _ _) fun _ => fails_pure _) kinds _)

/-! ## 3. Operations that look their group up first -/

/-- What the operator is to blame for when a group is looked up: it is not there, or it has no
signers. -/
inductive Lacking (zone : DomainName) (σ : State) : Error → Prop
  | group (missing : σ.sight zone = none) : Lacking zone σ (.noSuchGroup zone)
  | signers {g : Group} (group : σ.groups.get? zone = some g) (none : g.signers = []) :
      Lacking zone σ (.groupHasNoSigners zone)

/-- The operation looks its group up first.  So if it fails through a fault of the operator, it has
done nothing. -/
structure Opens (o : Outside ω) (zone : DomainName) (op : Operation ω α) : Prop where
  inward : Inward op
  found : ∀ {s a t}, op.perform o s = (.ok a, t) → (s.state.sight zone).isSome = true
  blamed : ∀ {s e t}, s.state.Intact → op.perform o s = (.error e, t) → ¬ e.Blameless →
    t.lasting = s.lasting ∧ Lacking zone s.state e

theorem Opens.bind {op : Operation ω α} {f : α → Operation ω β} (h : Opens o zone op)
    (hin : ∀ a, Inward (f a)) (k : ∀ a, Spares o zone (f a)) : Opens o zone (op >>= f) where
  inward := leaves_bind h.inward hin
  found {s b t} hp := by
    obtain ⟨a, m, hop, -⟩ := perform_bind_eq_ok.1 hp
    exact h.found hop
  blamed {s e t} hs hp he := by
    rw [perform_bind] at hp
    rcases hop : op.perform o s with ⟨e' | a, m⟩
    · rw [hop] at hp
      cases hp
      exact h.blamed hs hop he
    · rw [hop] at hp
      have hthere := h.found hop
      rw [← sight_of_inward h.inward hop] at hthere
      exact absurd (k a m e t hthere hp) he

theorem Opens.map {op : Operation ω α} (h : Opens o zone op) (f : α → β) :
    Opens o zone (do return f (← op)) :=
  h.bind (fun _ => leaves_pure _) fun _ => Fails.spares (fails_pure _)

/-- Every signer in the list of a group is there. -/
theorem members_of_group (h : σ.Intact) {g : Group} (hg : σ.groups.get? zone = some g) :
    ∃ members, σ.members zone = .ok members ∧ (members.isEmpty = true → g.signers = []) := by
  have hroster : σ.roster zone = some g.signers := by rw [State.roster, hg, Option.map_some]
  have hall : ∀ names : List String, (∀ name ∈ names, ∃ r, σ.signers.get? name = some r) →
      ∃ members : List Member, members.map Member.name = names ∧
        ∀ m ∈ members, σ.signers.get? m.name = some m.signer := fun names => by
    induction names with
    | nil => exact fun _ => ⟨[], rfl, by simp⟩
    | cons name names ih =>
      intro hnames
      obtain ⟨hname, hrest⟩ := List.forall_mem_cons.1 hnames
      obtain ⟨r, hr⟩ := hname
      obtain ⟨members, rfl, hmembers⟩ := ih hrest
      exact ⟨⟨name, r⟩ :: members, rfl, List.forall_mem_cons.2 ⟨hr, hmembers⟩⟩
  obtain ⟨members, hnames, hsigners⟩ := hall g.signers fun name hname => by
    obtain ⟨z, hz, -⟩ := (h.listed zone _ hroster).2 name hname
    obtain ⟨r, hr, -⟩ := State.home_eq_some.1 hz
    exact ⟨r, hr⟩
  refine ⟨members, State.members_eq_ok.2 ⟨g, hg, hnames, hsigners⟩, fun hempty => ?_⟩
  rw [← hnames, List.isEmpty_iff.1 hempty]
  rfl

theorem opens_groupMembers (o : Outside ω) (zone : DomainName) :
    Opens o zone (groupMembers zone) where
  inward := (quiet_groupMembers zone).inward
  found {s members t} h := by
    obtain ⟨hmembers, -⟩ := groupMembers_eq_ok.1 h
    obtain ⟨g, hg⟩ := group_of_members hmembers
    rw [State.isSome_sight, State.group_eq_ok.1 hg]
    rfl
  blamed {s e t} hs h he := by
    refine ⟨(quiet_groupMembers zone).rel_of_perform h, ?_⟩
    simp only [groupMembers, perform_bind, perform_state, perform_lift] at h
    cases hg : s.state.groups.get? zone with
    | none =>
      have hunseen := State.sight_eq_none.2 hg
      have hmembers : s.state.members zone = .error (.noSuchGroup zone) := by
        rw [State.members, State.group_of_unseen hunseen]
        rfl
      rw [hmembers] at h
      cases h
      exact .group hunseen
    | some g =>
      obtain ⟨members, hmembers, hempty⟩ := members_of_group hs hg
      simp only [hmembers, perform_ite, perform_bind, perform_throw, perform_pure] at h
      split at h
      · cases h
        exact .signers hg (hempty ‹_›)
      · cases h

theorem opens_observeGroup (ho : o.Candid exchange) (zone : DomainName)
    (kinds : List RecordKind) : Opens o zone (observeGroup zone kinds) :=
  (opens_groupMembers o zone).bind
    (fun _ => leaves_mapM (fun m => (quiet_observeSigner zone kinds m).inward) _)
    fun _ => Fails.spares (fails_mapM fun m _ => sure_observeSigner ho zone kinds m)

end Operation

/-! ## 4. Checks, holds and plans -/

namespace Report

/-- The first failure of a report with tags is want of room. -/
theorem blameless_of_mem_withTag {k : Dnskey} {f : UInt16 → List α} {e : Error}
    (h : .error e ∈ withTag k f) : e.Blameless := by
  rw [eq_dns_of_mem_withTag h]
  exact Error.blameless_dns

end Report

namespace Evaluation

theorem blameless_of_dnskeys {views : List SignerView} {origins : OrderedMap String String}
    (h : .error e ∈ dnskeys views origins) : e.Blameless := by
  obtain ⟨v, -, h⟩ := List.mem_flatMap.1 h
  split at h
  · rw [List.mem_singleton] at h
    cases h
  · rcases List.mem_cons.1 h with h | h
    · cases h
    · obtain ⟨k, -, h⟩ := List.mem_flatMap.1 h
      exact Report.blameless_of_mem_withTag h

theorem blameless_of_cds {views : List SignerView} (h : .error e ∈ cds zone views) :
    e.Blameless := by
  obtain ⟨v, -, h⟩ := List.mem_flatMap.1 h
  split at h
  · rw [List.mem_singleton] at h
    cases h
  · rcases List.mem_cons.1 h with h | h
    · cases h
    · obtain ⟨k, -, h⟩ := List.mem_flatMap.1 h
      exact Report.blameless_of_mem_withTag h

theorem blameless_of_flags {views : List SignerView} {parent : ParentView}
    {origins : OrderedMap String String}
    (h : (ofViews zone views parent origins).flags = .error e) : e.Blameless := by
  unfold ofViews at h
  dsimp only at h
  split at h
  · rename_i e' he'
    cases h
    rcases List.mem_append.1 (Report.error_mem_of_failure? he') with h | h
    · exact blameless_of_dnskeys h
    · exact blameless_of_cds h
  · cases h

end Evaluation

namespace Operation

theorem opens_check (ho : o.Candid exchange) (zone : DomainName) :
    Opens o zone (Status.check zone) := by
  have hflags (f : SyncFlags) :
      Inward (modifyState (Status.withFlags zone f) : Operation ω Unit) :=
    inward_modifyGroup zone fun _ => ⟨rfl, rfl⟩
  have hview (m : Member) : Inward (do
      let v ← observeSigner zone Status.signerKinds m
      lines (Status.describe (← state).dnskeyOrigin v)
      return v : Operation ω SignerView) :=
    leaves_bind (quiet_observeSigner _ _ m).inward fun _ => leaves_bind leaves_state fun _ =>
      leaves_bind (quiet_lines _).inward fun _ => leaves_pure _
  have hparent : Inward (observeParent zone Status.parentKinds : Operation ω ParentView) :=
    (quiet_observeParent zone _).inward
  refine (opens_groupMembers o zone).bind (fun members => ?_) fun members => ?_
  · refine leaves_bind (hflags _) fun _ => leaves_bind (leaves_mapM hview _) fun views => ?_
    refine leaves_bind hparent fun parent => leaves_bind leaves_state fun _ => ?_
    exact leaves_bind (quiet_lines _).inward fun _ => leaves_bind (leaves_lift _) fun flags =>
      leaves_bind (hflags flags) fun _ => leaves_pure _
  · refine spares_bind (Fails.spares (sure_modifyState _)) (hflags _) fun _ => ?_
    refine spares_bind (Fails.spares (fails_mapM fun m _ => ?_)) (leaves_mapM hview _) fun views => ?_
    · exact fails_bind (sure_observeSigner ho _ _ m) fun _ => fails_bind fails_state fun _ =>
        fails_bind (sure_lines _) fun _ => fails_pure _
    refine spares_bind (spares_observeParent ho zone _) hparent fun parent => Fails.spares ?_
    refine fails_bind fails_state fun σ => fails_bind (sure_lines _) fun _ => ?_
    refine fails_bind (fails_lift fun e he => Evaluation.blameless_of_flags he) fun flags => ?_
    exact fails_bind (sure_modifyState _) fun _ => fails_pure _

theorem opens_largestTtl (ho : o.Candid exchange) (h : Hold) (zone : DomainName) :
    Opens o zone (h.largestTtl zone) := by
  have hask (kind : RecordKind) (label server : String) :
      Inward (Hold.askTtl zone kind label server : Operation ω UInt32) :=
    leaves_bind (quiet_query _ _ _).inward fun _ => leaves_bind (quiet_lines _).inward fun _ =>
      leaves_pure _
  have hmember (m : Member) : Inward (do
      checkAddress m
      Hold.askTtl zone h.signerKind m.name m.signer.address : Operation ω UInt32) :=
    leaves_bind (leaves_lift _) fun _ => hask _ _ _
  have hparent : Inward (parentAddress zone : Operation ω String) :=
    (quiet_parentAddress zone).inward
  refine (opens_groupMembers o zone).bind (fun members => ?_) fun members => ?_
  · exact leaves_bind (leaves_mapM hmember _) fun _ => leaves_bind hparent fun _ =>
      leaves_bind (hask _ _ _) fun _ => leaves_pure _
  · refine spares_bind (Fails.spares (fails_mapM fun m _ => ?_)) (leaves_mapM hmember _) fun _ => ?_
    · exact fails_bind (sure_checkAddress m) fun _ => sure_askTtl ho _ _ _ _
    refine spares_bind (spares_parentAddress zone) hparent fun _ => Fails.spares ?_
    exact fails_bind (sure_askTtl ho _ _ _ _) fun _ => fails_pure _

theorem opens_wait (ho : o.Candid exchange) (h : Hold) (zone : DomainName) :
    Opens o zone (h.wait zone) where
  inward := inward_wait h zone
  found {s deadline t} hp := by
    obtain ⟨g, hg, -⟩ := Hold.wait_eq_ok hp
    rw [State.isSome_sight, hg]
    rfl
  blamed {s e t} hs hp he := by
    simp only [Hold.wait, perform_bind, perform_now, perform_state, perform_lift] at hp
    cases hg : s.state.groups.get? zone with
    | none =>
      have hunseen := State.sight_eq_none.2 hg
      rw [State.group_of_unseen hunseen] at hp
      cases hp
      exact ⟨rfl, .group hunseen⟩
    | some g =>
      rw [State.group_eq_ok.2 hg] at hp
      cases hd : h.deadline g with
      | some deadline =>
        simp only [hd] at hp
        refine absurd (fails_bind (sure_report deadline _) (fun _ => ?_) s e t hp) he
        exact fails_pure _
      | none =>
        simp only [hd] at hp
        refine ((opens_largestTtl ho h zone).bind (fun ttl => ?_) fun ttl => ?_).blamed hs hp he
        · refine leaves_bind (quiet_line _).inward fun _ => ?_
          refine leaves_bind (inward_modifyGroup zone (h.stage_withDeadline _)) fun _ => ?_
          exact leaves_bind (Hold.quiet_report _ _).inward fun _ => leaves_pure _
        · refine Fails.spares (fails_bind (fails_line _) fun _ => ?_)
          refine fails_bind (sure_modifyState _) fun _ => ?_
          exact fails_bind (sure_report _ _) fun _ => fails_pure _

end Operation

namespace Dnskey

variable {k : Dnskey}

theorem blameless_of_keyTag (h : k.keyTag = .error e) : e.Blameless := by
  rw [keyTag] at h
  split at h
  · cases h
    exact Error.blameless_dns
  · cases h

theorem blameless_of_delegation (h : k.delegation zone .sha256 = .error e) : e.Blameless := by
  unfold delegation at h
  dsimp only at h
  split at h
  · cases h
    exact Error.blameless_dns
  · simp only [DigestType.digest?] at h
    cases hk : k.keyTag with
    | error e' =>
      rw [hk] at h
      cases h
      exact blameless_of_keyTag hk
    | ok tag =>
      rw [hk] at h
      cases h

end Dnskey

namespace Automation

theorem blameless_of_request {source : Sync.KeyReferences.Source}
    (h : Sync.KeyReferences.request zone source = .error e) : e.Blameless := by
  rw [Sync.KeyReferences.request] at h
  cases hds : source.key.delegation zone .sha256 with
  | error e' =>
    rw [hds] at h
    cases h
    exact Dnskey.blameless_of_delegation hds
  | ok ds =>
    rw [hds] at h
    cases hk : source.key.keyTag with
    | error e' =>
      rw [hk] at h
      cases h
      exact Dnskey.blameless_of_keyTag hk
    | ok tag =>
      rw [hk] at h
      cases h

/-- **Planning looks its group up first.** -/
theorem opens_planning (ho : o.Candid exchange) (ha : acts a = true) :
    Opens o zone (planning zone a) := by
  have hrecord (views : List SignerView) : Inward (modifyState fun s =>
      views.foldl Sync.Dnskeys.recordOrigins s : Operation ω Unit) :=
    inward_modifyState fun σ => State.outline_of_withoutOrigins (withoutOrigins_dnskeyOrigins views σ)
  have hrecordNs (views : List SignerView) : Inward (modifyState fun s =>
      views.foldl Sync.Nameservers.recordOrigins s : Operation ω Unit) :=
    inward_modifyState fun σ => State.outline_of_withoutOrigins (withoutOrigins_nsOrigins views σ)
  cases a with
  | syncDnskeys =>
    refine (opens_observeGroup ho zone _).bind (fun views => ?_) fun views => ?_
    · refine leaves_bind (hrecord views) fun _ => leaves_bind leaves_state fun _ => ?_
      exact leaves_bind (quiet_tell _).inward fun _ => leaves_pure _
    · refine Fails.spares (fails_bind (sure_modifyState _) fun _ => fails_bind fails_state fun σ => ?_)
      exact fails_bind (fails_keyReport Error.blameless_dns views σ.dnskeyOrigin) fun _ => fails_pure _
  | syncCds =>
    refine (opens_observeGroup ho zone _).bind (fun views => ?_) fun views => ?_
    · refine leaves_bind (quiet_tell _).inward fun _ => ?_
      exact leaves_ite (leaves_bind (quiet_line _).inward fun _ => leaves_pure _) (leaves_pure _)
    · refine Fails.spares (fails_bind (fails_tell fun e he => ?_) fun _ => ?_)
      · obtain ⟨r, hr, he⟩ := List.mem_map.1 he
        obtain ⟨source, -, rfl⟩ := List.mem_map.1 hr
        cases hreq : Sync.KeyReferences.request zone source with
        | error e' =>
          rw [hreq] at he
          cases he
          exact blameless_of_request hreq
        | ok q =>
          rw [hreq] at he
          cases he
      · exact fails_ite (fails_bind (fails_line _) fun _ => fails_pure _) (fails_pure _)
  | removeCds | removeCsync => exact (opens_groupMembers o zone).map _
  | syncNs =>
    refine (opens_observeGroup ho zone _).bind (fun views => ?_) fun views => ?_
    · refine leaves_bind leaves_state fun _ => leaves_bind (leaves_lift _) fun g => ?_
      exact leaves_bind (hrecordNs views) fun _ => leaves_bind (quiet_lines _).inward fun _ =>
        leaves_pure _
    · refine spares_group_bind fun g => Fails.spares (fails_bind (sure_modifyState _) fun _ => ?_)
      exact fails_bind (sure_lines _) fun _ => fails_pure _
  | addCsync =>
    refine (opens_groupMembers o zone).bind (fun members => ?_) fun members => ?_
    · refine leaves_bind leaves_state fun _ => leaves_bind (leaves_lift _) fun g => ?_
      refine leaves_mapM (fun m => leaves_bind (quiet_serial zone m).inward fun _ => ?_) _
      exact leaves_bind (quiet_line _).inward fun _ => leaves_pure _
    · refine spares_group_bind fun g => Fails.spares (fails_mapM fun m _ => ?_)
      exact fails_bind (sure_serial ho zone m) fun _ => fails_bind (fails_line _) fun _ =>
        fails_pure _
  | checkDnskeys | checkCds | checkParentDs | wait | checkNs | checkParentNs => cases ha

end Automation

/-! ## 5. Pushes that stop halfway -/

/-- Updates were sent and accepted up to one for a member whose key has a name that is no domain
name.  That one was never put to an exchange, and its failure is the one told.  But for origins, and
for what the updates did at their signers, nothing has changed. -/
structure Halted (zone : DomainName) (s t : Session ω) (e : Error) : Prop where
  state : t.state.withoutOrigins = s.state.withoutOrigins
  scheduler : t.scheduler = s.scheduler
  events : t.events = s.events
  sent : ∃ sent refused, t.deliveries = s.deliveries ++ (sent ++ [refused]) ∧
    (∀ d ∈ sent, d.accepted = true) ∧ ¬ SignedUpdate.Exchanged refused.update ∧
    Misnamed zone s.state refused.update.target.signer e

namespace Push

theorem sure_resolve (ho : o.Candid exchange) (p : Plan) : Sure o (resolve p) := by
  refine fails_bind (fails_bind (sure_checkAddress _) fun _ => fails_read_bind ?_) fun _ =>
    fails_bind fails_state fun σ => ?_
  · refine fails_bind (fails_lift fun e he => ?_) fun _ => fails_pure _
    rw [Outside.updaterFor, ho.updater] at he
    cases hkind : p.member.signer.kind with
    | nsupdate =>
      rw [hkind] at he
      cases he
    | desec =>
      rw [hkind] at he
      cases he
      intro h
      cases h
  · split
    · exact fails_pure _
    · exact fails_bind (fails_line _) fun _ => fails_pure _

theorem sure_resolveAll (ho : o.Candid exchange) (plans : List Plan) :
    Sure o (resolveAll plans) :=
  fails_bind (fails_mapM fun p _ => sure_resolve ho p) fun _ =>
    fails_ite (fails_bind (fails_throw nofun) fun _ => fails_pure _) (fails_pure _)

open SignedUpdate in
/-- The operator is to blame for a reply only if the update was not put to an exchange. -/
theorem unprepared_of_reply (ho : o.Candid exchange) {q : Plan × UpdateTarget}
    (h : Replies o zone q (.error e)) (he : ¬ e.Blameless) :
    prepare (updateOf zone q) = .error e := by
  obtain ⟨x, w, hx, hreply⟩ := h
  obtain ⟨-, rfl⟩ := updaterFor_eq_ok ho.updater hx
  cases hu : prepare (updateOf zone q) with
  | error e' =>
    rw [show (updater exchange).apply = SignedUpdate.send exchange from rfl,
      send_of_unprepared hu] at hreply
    cases hreply
    rfl
  | ok p =>
    obtain ⟨message, key⟩ := p
    rw [show (updater exchange).apply = SignedUpdate.send exchange from rfl,
      (send_of_prepared hu).1] at hreply
    refine absurd ?_ he
    rcases hr : (exchange (updateOf zone q).target.address key message w).1 with e' | response
    · rw [hr] at hreply
      cases hreply
      exact ho.exchange hr
    · rw [hr] at hreply
      change judge (updateOf zone q) response = .error e at hreply
      unfold judge at hreply
      split at hreply
      · cases hreply
      · cases hreply
        exact nofun

end Push

namespace Automation

open SignedUpdate in
/-- **Work on records that fails through a fault of the operator** has done nothing, or it stopped at
the name of a key. -/
theorem blamed_of_act (ho : o.Candid exchange) (hs : s.state.Intact) (ha : acts a = true)
    (h : (planning zone a >>= Push.push zone).perform o s = (.error e, t)) (he : ¬ e.Blameless) :
    t.lasting = s.lasting ∧ Lacking zone s.state e ∨ Halted zone s t e := by
  rw [perform_bind] at h
  rcases hplans : (planning zone a).perform o s with ⟨e' | plans, m⟩
  all_goals rw [hplans] at h
  · cases h
    exact .inl ((opens_planning ho ha).blamed hs hplans he)
  have hplanned : m.planned = s.planned := (leaves_planning zone a).rel_of_perform hplans
  have hsettled : t.settled = m.settled := (Push.leaves_push_settled zone plans).rel_of_perform h
  simp only [Session.planned, Session.settled, Prod.mk.injEq] at hplanned hsettled
  obtain ⟨hstate, hscheduler, hevents, hdeliveries⟩ := hplanned
  simp only at h
  rw [Push.push, perform_bind] at h
  rcases hfound : (Push.resolveAll (plans.filter fun p => !p.changes.isEmpty)).perform o m
    with ⟨e' | found, u⟩
  all_goals rw [hfound] at h
  · cases h
    exact absurd (Push.sure_resolveAll ho _ m e t hfound) he
  have hall := Push.found_of_resolveAll hfound
  have hlasting := Session.lasting_eq_iff.1 ((Push.quiet_resolveAll _).rel_of_perform hfound)
  have hkind : ∀ q ∈ found, ∃ x, o.updaterFor q.2.kind = .ok x := fun q hq => by
    obtain ⟨p, -, hp, c, -, rfl⟩ := exists_mem_of_forall₂ hall hq
    exact hp.updater
  obtain ⟨first, q, rest, rfl, hsent, -, hq⟩ := Push.broken_of_sends hkind h
  have hunprepared := Push.unprepared_of_reply ho hq he
  -- the plan of the update that was refused is for a member with a key
  obtain ⟨p, hp, hready, c, hc, rfl⟩ :=
    exists_mem_of_forall₂ hall (List.mem_append_right first List.mem_cons_self)
  obtain ⟨hp, heffective⟩ := List.mem_filter.1 hp
  obtain ⟨x, hx⟩ := hready.updater
  obtain ⟨hnsupdate, -⟩ := updaterFor_eq_ok ho.updater hx
  obtain ⟨name, secret, hname, rfl⟩ := Push.key_of_credential hnsupdate hc
  have hchanges : p.changes.isEmpty = false := by simpa using heffective
  obtain ⟨reason, hreason, rfl⟩ := invalid_of_unprepared rfl hchanges
    (within_of_planning hplans hp) hunprepared
  obtain ⟨members, hmembers, hmember⟩ := member_of_planning hplans (List.ne_nil_of_mem hp)
  rw [hlasting.2.2.2, hdeliveries, List.append_assoc] at hsent
  refine .inr ⟨hsettled.1 ▸ hstate, hsettled.2.1.trans hscheduler, hsettled.2.2.trans hevents,
    _, _, hsent, fun d hd => ?_, not_exchanged hunprepared, members, p.member, name, reason,
    hmembers, hmember p hp, rfl, hnsupdate, hname, hreason, rfl⟩
  obtain ⟨p', -, rfl⟩ := List.mem_map.1 hd
  rfl

/-- The same of the work of a stage. -/
theorem blamed_of_runStage (ho : o.Candid exchange) (hs : s.state.Intact) {d : Direction}
    (h : (runStage zone (.walking d a)).perform o s = (.error e, t)) (he : ¬ e.Blameless) :
    t.lasting = s.lasting ∧ Lacking zone s.state e ∨ Halted zone s t e := by
  have hline (text : String) (stage : Stage) : Inward (do
      line text
      return stage : Operation ω Stage) :=
    leaves_bind (quiet_line _).inward fun _ => leaves_pure _
  have hlines (text : String) (stage : Stage) : Sure o (do
      line text
      return stage : Operation ω Stage) :=
    fails_bind (fails_line _) fun _ => fails_pure _
  cases ha : acts a with
  | true =>
    rw [perform_runStage_act ha, perform_bind] at h
    rcases hrun : (planning zone a >>= Push.push zone).perform o s with ⟨e' | _, u⟩
    all_goals
      rw [hrun] at h
      cases h
    exact blamed_of_act ho hs ha hrun he
  | false =>
    have hcheck (flag : SyncFlag) (stage : Stage) :
        Opens o zone (doWork zone stage (.check flag)) :=
      (opens_check ho zone).bind (fun _ => leaves_ite (hline _ _) (hline _ _)) fun _ =>
        Fails.spares (fails_ite (hlines _ _) (hlines _ _))
    have hhold (hold : Hold) (stage : Stage) : Opens o zone (doWork zone stage (.hold hold)) := by
      refine (opens_wait ho hold zone).bind (fun _ => ?_) fun _ => Fails.spares ?_
      · refine leaves_bind leaves_now fun _ => leaves_ite (leaves_pure _) ?_
        refine leaves_bind (quiet_line _).inward fun _ => ?_
        exact leaves_bind (inward_modifyGroup zone (hold.stage_withDeadline none)) fun _ =>
          leaves_pure _
      · refine fails_bind sure_now fun _ => fails_ite (fails_pure _) ?_
        exact fails_bind (fails_line _) fun _ => fails_bind (sure_modifyState _) fun _ =>
          fails_pure _
    left
    cases a with
    | syncDnskeys | syncCds | removeCds | syncNs | addCsync | removeCsync => cases ha
    | checkDnskeys | checkCds | checkParentDs | checkNs | checkParentNs =>
      exact (hcheck _ _).blamed hs h he
    | wait => exact (hhold _ _).blamed hs h he

end Automation

/-! ## 6. Commands -/

/-- What a command leaves that failed through a fault of the operator, where that is not what it
found. -/
inductive Aftermath (s : Session ω) (e : Error) (t : Session ω) : Command → Prop
  /-- The group walks and has no signers.  It is in the error stage, as if its work had failed. -/
  | deserted {zone : DomainName} {g : Group} (group : s.state.groups.get? zone = some g)
      (walks : g.stage.isWalking = true) (signers : g.signers = [])
      (error : e = .groupHasNoSigners zone) (told : t.lasting = s.told zone (fail zone e s.state)) :
      Aftermath s e t (.automateStep zone none)
  | halted {cmd : Command} {zone : DomainName} {u : Session ω} (concerns : cmd.zone? = some zone)
      (halted : Halted zone s u e) (rest : t.lasting = u.lasting) : Aftermath s e t cmd
  /-- The work of a step stopped at the name of a key, and the group is in the error stage. -/
  | walking {zone : DomainName} {u : Session ω} (halted : Halted zone s u e)
      (told : t.lasting = u.told zone (fail zone e u.state)) :
      Aftermath s e t (.automateStep zone none)

theorem Aftermath.of_lasting {u : Session ω} {cmd : Command} (h : Aftermath s e u cmd)
    (ht : t.lasting = u.lasting) : Aftermath s e t cmd := by
  cases h with
  | deserted hg hwalks hsigners herror htold =>
    exact .deserted hg hwalks hsigners herror (ht.trans htold)
  | halted hconcerns hhalted hrest => exact .halted hconcerns hhalted (ht.trans hrest)
  | walking hhalted htold => exact .walking hhalted (ht.trans htold)

namespace Command

theorem zone_of_pushes {cmd : Command} (h : cmd.pushes? = some (zone, a)) :
    cmd.zone? = some zone := by
  cases cmd <;> cases h <;> rfl

/-- A step that is named is refused before any work, or it does the work of that stage. -/
theorem aftermath_of_manualStep (ho : o.Candid exchange) (hs : s.state.Intact) {stage : Stage}
    (h : (manualStep zone stage).perform o s = (.error e, t)) (he : ¬ e.Blameless)
    {cmd : Command} (hcmd : cmd.zone? = some zone) :
    t.lasting = s.lasting ∨ Aftermath s e t cmd := by
  simp only [manualStep, perform_bind, perform_state, perform_lift, perform_ite, perform_throw]
    at h
  cases hg : s.state.group zone with
  | error e' =>
    rw [hg] at h
    cases h
    exact .inl rfl
  | ok g =>
    simp only [hg] at h
    split at h
    · cases h
      exact .inl rfl
    · rcases hrun : (runStage zone stage).perform o s with ⟨e' | next, u⟩
      all_goals rw [hrun] at h
      · cases h
        cases stage with
        | walking d a =>
          rcases blamed_of_runStage ho hs hrun he with ⟨hrest, -⟩ | hhalted
          · exact .inl hrest
          · exact .inr (.halted hcmd hhalted rfl)
        | ready | error | manual => cases hrun
      · cases h

/-- A step is refused, or it does the work of the stage that the group is in. -/
theorem aftermath_of_step (ho : o.Candid exchange) (hs : s.state.Intact)
    (h : StepOutcome zone o s (.error e) t) (he : ¬ e.Blameless) :
    t.lasting = s.lasting ∨ Aftermath s e t (.automateStep zone none) := by
  cases h with
  | missing => exact .inl rfl
  | @failed g d a e u t hg hstage hrun htold =>
    right
    rcases blamed_of_runStage ho hs hrun he with ⟨hrest, hlacking⟩ | hhalted
    · obtain ⟨hstate, hscheduler, hevents, hdeliveries⟩ := Session.lasting_eq_iff.1 hrest
      cases hlacking with
      | group hmissing =>
        rw [State.sight, hg] at hmissing
        cases hmissing
      | signers hg' hsigners =>
        refine .deserted hg' ?_ hsigners rfl ?_
        · cases hg.symm.trans hg'
          rw [hstage]
          rfl
        · rw [htold, Session.told, hstate, hscheduler, hevents, hdeliveries, Session.told]
    · exact .walking hhalted htold

/-- **What a command leaves that fails through a fault of the operator.** -/
theorem aftermath_of_command (ho : o.Candid exchange) (hs : s.state.Intact) {cmd : Command}
    (h : cmd.run.perform o s = (.error e, t)) (he : ¬ e.Blameless) :
    t.lasting = s.lasting ∨ Aftermath s e t cmd := by
  cases hpushes : cmd.pushes? with
  | some p =>
    obtain ⟨z, a⟩ := p
    obtain ⟨ha, hrun⟩ := perform_run_of_pushes (o := o) (s := s) hpushes
    rcases blamed_of_act ho hs ha (hrun ▸ h) he with ⟨hrest, -⟩ | hhalted
    · exact .inl hrest
    · exact .inr (.halted (zone_of_pushes hpushes) hhalted rfl)
  | none =>
  cases hasks : cmd.asks with
  | false =>
    cases outcome_of_command hs hasks h with
    | refused hrest => exact .inl hrest
  | true =>
  cases cmd with
  | status z => exact .inl (((opens_check ho z).map fun _ => ()).blamed hs h he).1
  | wait hold z =>
    refine .inl (((opens_wait ho hold z).bind (fun _ => ?_) fun _ => ?_).blamed hs h he).1
    · exact leaves_bind leaves_now fun _ => leaves_ite (quiet_line _).inward (leaves_pure _)
    · exact Fails.spares (fails_bind sure_now fun _ => fails_ite (fails_line _) (fails_pure _))
  | automateStep z stage =>
    cases stage with
    | none =>
      rcases step_of_automateStep h with hrest | hstep
      · exact .inl hrest
      · exact aftermath_of_step ho hs (outcome_of_step hstep) he
    | some text =>
      simp only [run, step, perform_bind, Deed.perform_requireIdle] at h
      cases hbusy : s.scheduler.isRunning z with
      | true =>
        rw [hbusy] at h
        cases h
        exact .inl rfl
      | false =>
        simp only [hbusy, Bool.false_eq_true, if_false] at h
        split at h
        · cases h
          exact .inl rfl
        · exact aftermath_of_manualStep ho hs h he rfl
  | syncDnskeys | syncCds | syncNs | addCsync | removeCsync | removeCds => cases hpushes
  | _ => cases hasks

end Command

/-- What is saved after a failure is what the failure left; or nothing failed but the saving. -/
theorem failed_of_attempt {op : Operation ω Unit} (h : (do
      let result ← attempt op
      let saved ← attempt save
      result
      saved : Operation ω Unit).perform o s = (.error e, t)) :
    ∃ u, t.lasting = u.lasting ∧
      (op.perform o s = (.error e, u) ∨ (o.save u.state u.world).1 = .error e) := by
  refine ⟨_, Deed.saved_of_attempt h, ?_⟩
  simp only [perform_bind, perform_attempt, perform_save, perform_lift] at h
  rcases hop : op.perform o s with ⟨e' | _, u⟩
  all_goals rw [hop] at h
  · cases h
    exact .inl rfl
  · exact .inr (congrArg Prod.fst h)

/-- **What is left after a failure of class `validation`**, in every document that can be reached.
Servers and disks do anything, but do not fail with that class.  Document, tasks, events and updates
are those found, unless the command

* is to let a group do a step that walks and has no signers; nothing is sent, but the group is put
  into the error stage, and observers are told; or
* sends signed updates and comes upon a key with a name that is no domain name; the updates before
  that were sent. -/
theorem blamed_of_execute (c : Controller ω) (args : List String) (exchange : Exchange ω)
    (hc : c.outside.Candid exchange) (hs : Reachable s.state)
    (hrun : c.execute args s = (.error e, t)) (hkind : e.kind = .validation) :
    t.lasting = s.lasting ∨
      ∃ cmd, Command.parse c.mode args = .ok cmd ∧ Aftermath s e t cmd := by
  have he : ¬ e.Blameless := not_not.2 hkind
  obtain ⟨u, hlasting, hrun | hsave⟩ := failed_of_attempt hrun
  · rw [perform_bind, perform_lift] at hrun
    cases hparse : Command.parse c.mode args with
    | error e' =>
      rw [hparse] at hrun
      cases hrun
      exact .inl hlasting
    | ok cmd =>
      rw [hparse] at hrun
      rcases Command.aftermath_of_command hc hs.intact hrun he with hrest | hafter
      · exact .inl (hlasting.trans hrest)
      · exact .inr ⟨cmd, rfl, hafter.of_lasting hlasting⟩
  · exact absurd (hc.save hsave) he

namespace Sample

theorem candid_signing :
    signing.Candid fun _ _ _ w => (.ok ⟨.noError, ""⟩, w) where
  updater := rfl
  query h := by cases h
  exchange h := by cases h
  save h := by cases h

/-- A group that was taken to the start of a walk before it had signers. -/
def deserted : State :=
  course .empty [["group-add", "x.", "192.0.2.4"], ["automate-manual", "x."],
    ["automate-resume", "x.", "join-sync-dnskeys"]]

/-- Its step is refused, and it is in the error stage. -/
theorem aftermath_of_deserted :
    let run := (Controller.mk .once signing).execute ["automate-step", "x."] (session deserted 0)
    run.1 = .error (.groupHasNoSigners Sample.zone) ∧ Reachable deserted ∧
      (run.2.state.groups.get? Sample.zone).map Group.stage = some .error ∧
      run.2.events = [.status Sample.zone .error []] ∧
      (run.2.lasting = (session deserted 0).lasting ∨
        ∃ cmd, Command.parse .once ["automate-step", "x."] = .ok cmd ∧
          Aftermath (session deserted 0) (.groupHasNoSigners Sample.zone) run.2 cmd) := by
  intro run
  have hreach : Reachable deserted := reachable_course _ .empty
  have hrun : run.1 = .error (.groupHasNoSigners Sample.zone) := by decide +kernel
  exact ⟨hrun, hreach, by decide +kernel, by decide +kernel,
    blamed_of_execute (t := run.2) (Controller.mk .once signing) ["automate-step", "x."] _
      candid_signing hreach (perform_of_fst hrun) rfl⟩

end Sample
end MultiSigner
