/-
# What the work of an activity plans

Six of the twelve activities change the records of signers.  Each of them first plans, asking the
signers for what it needs, and then pushes what it planned: `planning` is the first half, and
`perform_of_act` says that the whole is `planning` followed by `Push.push`.  So what an activity
sends can be read off its plans:

* `removal_of_planning`: only the activity that brings keys in line takes a key out, and it does so
  only at signers that stay and for keys that a leaving signer had first.
* `insertion_of_planning`: only the activity that brings name servers in line puts a name in, and
  never that of a leaving signer.
-/
import MultiSigner.Automation
import MultiSigner.Proofs.Messages
import MultiSigner.Proofs.Once
import MultiSigner.Proofs.Push

namespace MultiSigner

open Operation

variable {ω : Type} {o : Outside ω} {s t : Session ω} {zone : DomainName}

/-! ## 1. What planning leaves alone -/

/-- The document without the origins of records. -/
def State.withoutOrigins (s : State) : State :=
  { s with dnskeyOrigin := .empty, nsOrigin := .empty }

/-- All that planning leaves as it is. -/
def Session.planned (s : Session ω) : State × Scheduler × List Event × List Delivery :=
  (s.state.withoutOrigins, s.scheduler, s.events, s.deliveries)

theorem Session.planned_of_lasting {s t : Session ω} (h : t.lasting = s.lasting) :
    t.planned = s.planned := by
  obtain ⟨h₁, h₂, h₃, h₄⟩ := Session.lasting_eq_iff.1 h
  simp only [Session.planned, h₁, h₂, h₃, h₄]

namespace State

theorem withoutOrigins_recordDnskeyOrigin (s : State) (fingerprint name : String) :
    (s.recordDnskeyOrigin fingerprint name).2.withoutOrigins = s.withoutOrigins := by
  unfold recordDnskeyOrigin
  split <;> rfl

theorem withoutOrigins_recordNsOrigin (s : State) (ns : DomainName) (name : String) :
    (s.recordNsOrigin ns name).2.withoutOrigins = s.withoutOrigins := by
  unfold recordNsOrigin
  split <;> rfl

/-- Steps that leave the document but for its origins do so in any number. -/
theorem withoutOrigins_foldl {α : Type} {f : State → α → State}
    (h : ∀ s a, (f s a).withoutOrigins = s.withoutOrigins) :
    ∀ (l : List α) (s : State), (l.foldl f s).withoutOrigins = s.withoutOrigins
  | [], _ => rfl
  | a :: l, s => by rw [List.foldl_cons, withoutOrigins_foldl h l, h]

theorem groups_of_withoutOrigins {s t : State} (h : t.withoutOrigins = s.withoutOrigins) :
    t.groups = s.groups :=
  show t.withoutOrigins.groups = s.withoutOrigins.groups by rw [h]

theorem signers_of_withoutOrigins {s t : State} (h : t.withoutOrigins = s.withoutOrigins) :
    t.signers = s.signers :=
  show t.withoutOrigins.signers = s.withoutOrigins.signers by rw [h]

/-- The members of a group depend on no origin. -/
theorem members_of_withoutOrigins {s t : State} (h : t.withoutOrigins = s.withoutOrigins)
    (zone : DomainName) : t.members zone = s.members zone := by
  simp only [members, group, signer, groups_of_withoutOrigins h, signers_of_withoutOrigins h]

end State

/-- Credentials depend on no origin. -/
theorem Push.credential_of_withoutOrigins {s t : State} (h : t.withoutOrigins = s.withoutOrigins)
    (m : Member) : credential t m = credential s m := by
  have hkeys : t.tsigKeys = s.tsigKeys :=
    show t.withoutOrigins.tsigKeys = s.withoutOrigins.tsigKeys by rw [h]
  have htokens : t.tokens = s.tokens :=
    show t.withoutOrigins.tokens = s.withoutOrigins.tokens by rw [h]
  simp only [credential, hkeys, htokens]

theorem leaves_modifyState_planned {f : State → State}
    (h : ∀ s, (f s).withoutOrigins = s.withoutOrigins) :
    Leaves (.keeping Session.planned) (modifyState f : Operation ω Unit) := fun o s => by
  show (_, _, _, _) = (_, _, _, _)
  rw [perform_modifyState, h]

theorem Operation.Quiet.planned {α : Type} {op : Operation ω α} (h : Quiet op) :
    Leaves (.keeping Session.planned) op :=
  h.mono fun _ _ => Session.planned_of_lasting

theorem quiet_serial (zone : DomainName) (m : Member) :
    Quiet (Sync.DelegationRequest.serial zone m : Operation ω UInt32) := by
  refine leaves_bind (leaves_lift _) fun _ => leaves_bind (quiet_query _ _ _) fun a => ?_
  cases Sync.DelegationRequest.serial? a with
  | some n => exact leaves_pure n
  | none => exact leaves_throw _

/-! ## 2. The first half of an activity -/

namespace Automation

/-- Whether an activity changes the records of signers. -/
def acts : Activity → Bool
  | .syncDnskeys | .syncCds | .removeCds | .syncNs | .addCsync | .removeCsync => true
  | _ => false

/-- The plans of an activity. -/
def planning (zone : DomainName) : Activity → Operation ω (List Plan)
  | .syncDnskeys => do
    let views ← observeGroup zone [.dnskey]
    modifyState fun s => views.foldl Sync.Dnskeys.recordOrigins s
    let origins := (← state).dnskeyOrigin
    tell (Sync.Dnskeys.withdrawalReport views origins ++ Sync.Dnskeys.offerReport views origins)
    return Sync.Dnskeys.plans views origins
  | .syncCds => do
    let views ← observeGroup zone [.dnskey, .cds, .cdnskey]
    tell ((Sync.KeyReferences.requests zone views).map fun r => r.map Sync.KeyReferences.Request.line)
    let records := (Sync.KeyReferences.requests zone views).items.flatMap
      Sync.KeyReferences.Request.records
    if records.isEmpty then
      line "No KSKs found, nothing to sync"
      return []
    else return (SignerView.staying views).map (Sync.KeyReferences.plan records)
  | .removeCds => do
    return (← groupMembers zone).map fun m =>
      ⟨m, { removeKinds := Sync.KeyReferences.kinds }, [s!"  Removed CDS/CDNSKEYs from {m.name}"]⟩
  | .syncNs => do
    let views ← observeGroup zone [.ns]
    let g ← (← state).group zone
    modifyState fun s => views.foldl Sync.Nameservers.recordOrigins s
    lines (Sync.Nameservers.withdrawalLines views)
    return views.map (Sync.Nameservers.plan views g.ttl)
  | .addCsync => do
    let members ← groupMembers zone
    let g ← (← state).group zone
    members.mapM fun m => do
      let n ← Sync.DelegationRequest.serial zone m
      line s!"{m.name}: SOA serial {n}"
      return Sync.DelegationRequest.plan g.ttl m n
  | .removeCsync => do
    return (← groupMembers zone).map fun m =>
      ⟨m, { removeKinds := [.csync] }, [s!"  Removed CSYNC from {m.name}"]⟩
  | _ => return []

/-- **An activity that changes records plans and then pushes.** -/
theorem perform_of_act {d : Direction} {a : Activity} {op : Operation ω Unit}
    (h : work zone d a = .act op) :
    acts a = true ∧ op.perform o s = (planning zone a >>= Push.push zone).perform o s := by
  cases a with
  | syncDnskeys | removeCds | syncNs | addCsync | removeCsync =>
    cases h
    refine ⟨rfl, ?_⟩
    simp only [planning, Sync.Dnskeys.run, Sync.KeyReferences.remove, Sync.Nameservers.run,
      Sync.DelegationRequest.run, Sync.DelegationRequest.remove, bind_assoc, pure_bind]
  | syncCds =>
    cases h
    refine ⟨rfl, ?_⟩
    simp only [planning, Sync.KeyReferences.run, bind_assoc]
    refine congrArg (fun op : Operation ω Unit => op.perform o s) ?_
    refine bind_congr fun views => bind_congr fun _ => ?_
    split
    · rw [bind_assoc]
      refine (bind_pure _).symm.trans (bind_congr fun _ => ?_)
      rw [pure_bind]
      rfl
    · rw [pure_bind]
  | checkDnskeys | checkCds | checkParentDs | wait | checkNs | checkParentNs => cases h

/-! ## 3. Planning changes origins only -/

theorem withoutOrigins_dnskeyOrigins (views : List SignerView) (s : State) :
    (views.foldl Sync.Dnskeys.recordOrigins s).withoutOrigins = s.withoutOrigins := by
  refine State.withoutOrigins_foldl (fun s v => ?_) views s
  unfold Sync.Dnskeys.recordOrigins
  exact State.withoutOrigins_foldl
    (fun s k => State.withoutOrigins_recordDnskeyOrigin s _ _) v.syncedKeys s

theorem withoutOrigins_nsOrigins (views : List SignerView) (s : State) :
    (views.foldl Sync.Nameservers.recordOrigins s).withoutOrigins = s.withoutOrigins := by
  refine State.withoutOrigins_foldl (fun s v => ?_) views s
  unfold Sync.Nameservers.recordOrigins
  exact State.withoutOrigins_foldl (fun s n => State.withoutOrigins_recordNsOrigin s n _) v.ns s

/-- Planning reports and asks, but for two activities. -/
theorem quiet_planning (zone : DomainName) {a : Activity} (hkeys : a ≠ .syncDnskeys)
    (hnames : a ≠ .syncNs) : Quiet (planning zone a : Operation ω (List Plan)) := by
  cases a with
  | syncDnskeys => exact absurd rfl hkeys
  | syncNs => exact absurd rfl hnames
  | syncCds =>
    refine leaves_bind (quiet_observeGroup _ _) fun views => leaves_bind (quiet_tell _) fun _ => ?_
    exact leaves_ite (leaves_bind (quiet_line _) fun _ => leaves_pure _) (leaves_pure _)
  | addCsync =>
    refine leaves_bind (quiet_groupMembers _) fun _ => leaves_bind leaves_state fun _ => ?_
    refine leaves_bind (leaves_lift _) fun _ => leaves_mapM (fun m => ?_) _
    exact leaves_bind (quiet_serial zone m) fun _ => leaves_bind (quiet_line _) fun _ =>
      leaves_pure _
  | removeCds | removeCsync => exact leaves_bind (quiet_groupMembers _) fun _ => leaves_pure _
  | checkDnskeys | checkCds | checkParentDs | wait | checkNs | checkParentNs =>
    exact leaves_pure _

theorem leaves_planning (zone : DomainName) (a : Activity) :
    Leaves (.keeping Session.planned) (planning zone a : Operation ω (List Plan)) := by
  by_cases hkeys : a = .syncDnskeys
  · subst hkeys
    refine leaves_bind (quiet_observeGroup _ _).planned fun views => ?_
    refine leaves_bind (leaves_modifyState_planned (withoutOrigins_dnskeyOrigins views)) fun _ => ?_
    exact leaves_bind leaves_state fun _ => leaves_bind (quiet_tell _).planned
      fun _ => leaves_pure _
  by_cases hnames : a = .syncNs
  · subst hnames
    refine leaves_bind (quiet_observeGroup _ _).planned fun views => ?_
    refine leaves_bind leaves_state fun _ => leaves_bind (leaves_lift _) fun _ => ?_
    refine leaves_bind (leaves_modifyState_planned (withoutOrigins_nsOrigins views)) fun _ => ?_
    exact leaves_bind (quiet_lines _).planned fun _ => leaves_pure _
  · exact (quiet_planning zone hkeys hnames).planned

/-! ## 4. The two plans that depend on who is leaving -/

theorem plans_of_syncDnskeys {plans : List Plan}
    (h : (planning zone .syncDnskeys).perform o s = (.ok plans, t)) :
    ∃ views : List SignerView, s.state.members zone = .ok (views.map SignerView.member) ∧
      plans = Sync.Dnskeys.plans views t.state.dnskeyOrigin := by
  obtain ⟨views, u, hv, h⟩ := perform_bind_eq_ok.1 h
  refine ⟨views, members_of_observeGroup hv, ?_⟩
  obtain ⟨_, _, -, h⟩ := perform_bind_eq_ok.1 h
  obtain ⟨_, x, hx, h⟩ := perform_bind_eq_ok.1 h
  cases hx
  obtain ⟨_, y, hy, h⟩ := perform_bind_eq_ok.1 h
  have hstate := (quiet_tell _).state_eq hy
  cases h
  rw [hstate]

theorem plans_of_syncNs {plans : List Plan}
    (h : (planning zone .syncNs).perform o s = (.ok plans, t)) :
    ∃ (views : List SignerView) (ttl : UInt32),
      s.state.members zone = .ok (views.map SignerView.member) ∧
        plans = views.map (Sync.Nameservers.plan views ttl) := by
  obtain ⟨views, u, hv, h⟩ := perform_bind_eq_ok.1 h
  obtain ⟨_, _, -, h⟩ := perform_bind_eq_ok.1 h
  obtain ⟨g, _, -, h⟩ := perform_bind_eq_ok.1 h
  obtain ⟨_, _, -, h⟩ := perform_bind_eq_ok.1 h
  obtain ⟨_, _, -, h⟩ := perform_bind_eq_ok.1 h
  cases h
  exact ⟨views, g.ttl, members_of_observeGroup hv, rfl⟩

/-! ## 5. The record sets that an activity touches -/

/-- The kinds of the records that an activity puts in and takes out. -/
def touched : Activity → List RecordKind
  | .syncDnskeys => [.dnskey]
  | .syncCds | .removeCds => [.cds, .cdnskey]
  | .syncNs => [.ns]
  | .addCsync | .removeCsync => [.csync]
  | _ => []

/-- A change set stays within some kinds of records. -/
structure Within (kinds : List RecordKind) (c : ChangeSet) : Prop where
  inserts : ∀ r ∈ c.inserts, r.kind ∈ kinds
  removes : ∀ r ∈ c.removes, r.kind ∈ kinds
  removeKinds : ∀ k ∈ c.removeKinds, k ∈ kinds

/-- No activity changes the start of the zone. -/
theorem Within.not_touchesStart {a : Activity} {c : ChangeSet} (h : Within (touched a) c) :
    ¬ c.TouchesStart := by
  have hsoa : RecordKind.soa ∉ touched a := by cases a <;> decide
  rintro ⟨r, hr, hstart⟩
  have hkind : r.kind = .soa := Record.kind_eq_soa_iff.2 hstart
  rcases List.mem_append.1 hr with hr | hr
  · exact hsoa (hkind ▸ h.removes r hr)
  · exact hsoa (hkind ▸ h.inserts r hr)

theorem within_dnskeys_plan (views : List SignerView) (origins : OrderedMap String String)
    (v : SignerView) : Within [.dnskey] (Sync.Dnskeys.plan views origins v).changes where
  inserts r hr := by
    rcases mem_of_mem_once hr with hr | hr
    · cases hr
    · obtain ⟨w, -, hr⟩ := List.mem_flatMap.1 (List.mem_filter.1 hr).1
      obtain ⟨k, -, rfl⟩ := List.mem_map.1 hr
      exact List.mem_singleton_self _
  removes r hr := by
    obtain ⟨k, -, rfl⟩ := List.mem_map.1 hr
    exact List.mem_singleton_self _
  removeKinds k hk := by cases hk

/-- The items of a report are among its entries. -/
theorem ok_mem_of_mem_items {α : Type} {a : α} :
    ∀ {r : Report α}, a ∈ r.items → Except.ok a ∈ r
  | .error _ :: _, h => by cases h
  | .ok b :: r, h => by
    rcases List.mem_cons.1 h with rfl | h
    · exact List.mem_cons_self
    · exact List.mem_cons_of_mem _ (ok_mem_of_mem_items h)

theorem kind_of_request {source : Sync.KeyReferences.Source} {q : Sync.KeyReferences.Request}
    (h : Sync.KeyReferences.request zone source = .ok q) {r : Record} (hr : r ∈ q.records) :
    r.kind ∈ [RecordKind.cds, .cdnskey] := by
  obtain ⟨ds, -, h⟩ := bind_eq_ok.1 h
  obtain ⟨tag, -, h⟩ := bind_eq_ok.1 h
  cases h
  rcases List.mem_cons.1 hr with rfl | hr
  · exact List.mem_cons_self
  · rw [List.mem_singleton.1 hr]
    exact List.mem_cons_of_mem _ List.mem_cons_self

/-- **An activity touches its own record sets only.** -/
theorem within_of_planning {a : Activity} {plans : List Plan} {p : Plan}
    (h : (planning zone a).perform o s = (.ok plans, t)) (hp : p ∈ plans) :
    Within (touched a) p.changes := by
  cases a with
  | syncDnskeys =>
    obtain ⟨views, -, rfl⟩ := plans_of_syncDnskeys h
    obtain ⟨v, -, rfl⟩ := List.mem_map.1 hp
    exact within_dnskeys_plan views _ v
  | syncCds =>
    obtain ⟨views, _, -, h⟩ := perform_bind_eq_ok.1 h
    obtain ⟨_, _, -, h⟩ := perform_bind_eq_ok.1 h
    simp only [perform_ite] at h
    split at h
    · cases h
      cases hp
    · cases h
      obtain ⟨v, -, rfl⟩ := List.mem_map.1 hp
      refine ⟨fun r hr => ?_, fun r hr => (by cases hr), fun k hk => hk⟩
      obtain ⟨q, hq, hr⟩ := List.mem_flatMap.1 hr
      obtain ⟨source, -, hsource⟩ := List.mem_map.1 (ok_mem_of_mem_items hq)
      exact kind_of_request hsource hr
  | removeCds =>
    obtain ⟨members, _, -, h⟩ := perform_bind_eq_ok.1 h
    cases h
    obtain ⟨m, -, rfl⟩ := List.mem_map.1 hp
    exact ⟨fun r hr => (by cases hr), fun r hr => (by cases hr), fun k hk => hk⟩
  | syncNs =>
    obtain ⟨views, ttl, -, rfl⟩ := plans_of_syncNs h
    obtain ⟨v, -, rfl⟩ := List.mem_map.1 hp
    refine ⟨fun r hr => ?_, fun r hr => ?_, fun k hk => (by cases hk)⟩
    · obtain ⟨e, -, rfl⟩ := List.mem_map.1 hr
      exact List.mem_singleton_self _
    · obtain ⟨n, -, rfl⟩ := List.mem_map.1 hr
      exact List.mem_singleton_self _
  | addCsync =>
    obtain ⟨members, _, -, h⟩ := perform_bind_eq_ok.1 h
    obtain ⟨_, _, -, h⟩ := perform_bind_eq_ok.1 h
    obtain ⟨g, _, -, h⟩ := perform_bind_eq_ok.1 h
    have hquiet : ∀ m : Member, Quiet (do
        let n ← Sync.DelegationRequest.serial zone m
        line s!"{m.name}: SOA serial {n}"
        return Sync.DelegationRequest.plan g.ttl m n : Operation ω Plan) := fun m =>
      leaves_bind (quiet_serial zone m) fun _ => leaves_bind (quiet_line _) fun _ => leaves_pure _
    obtain ⟨m, -, u, v, -, hm, -⟩ := exists_mem_of_forall₂ (perform_mapM_eq_ok hquiet h) hp
    obtain ⟨n, _, -, hm⟩ := perform_bind_eq_ok.1 hm
    obtain ⟨_, _, -, hm⟩ := perform_bind_eq_ok.1 hm
    cases hm
    refine ⟨fun r hr => ?_, fun r hr => (by cases hr), fun k hk => (by cases hk)⟩
    rw [List.mem_singleton.1 hr]
    exact List.mem_singleton_self _
  | removeCsync =>
    obtain ⟨members, _, -, h⟩ := perform_bind_eq_ok.1 h
    cases h
    obtain ⟨m, -, rfl⟩ := List.mem_map.1 hp
    exact ⟨fun r hr => (by cases hr), fun r hr => (by cases hr), fun k hk => hk⟩
  | checkDnskeys | checkCds | checkParentDs | wait | checkNs | checkParentNs =>
    cases h
    cases hp

/-! ## 6. What is taken out and put in -/

/-- A change set takes a key out, by itself or with all others. -/
def RemovesKey (c : ChangeSet) (k : Dnskey) : Prop :=
  (∃ r ∈ c.removes, r.data = .dnskey k) ∨ .dnskey ∈ c.removeKinds

/-- A change set puts a name server in. -/
def InsertsName (c : ChangeSet) (n : DomainName) : Prop :=
  ∃ r ∈ c.inserts, r.data = .ns n

theorem mem_staying {views : List SignerView} {v : SignerView} :
    v ∈ SignerView.staying views ↔ v ∈ views ∧ v.member.signer.leaving = false := by
  simp only [SignerView.staying, List.mem_filter, SignerView.leaving, Bool.not_eq_true']

theorem leavingOrigin?_eq_some {views : List SignerView} {origins : OrderedMap String String}
    {k : Dnskey} {name : String} (h : SignerView.leavingOrigin? views origins k = some name) :
    origins.get? k.fingerprint = some name ∧
      ∃ v ∈ views, v.member.name = name ∧ v.member.signer.leaving = true := by
  obtain ⟨ho, hd⟩ := Option.filter_eq_some_iff.1 h
  obtain ⟨v, hv, hn⟩ := List.any_eq_true.1 hd
  obtain ⟨hv, hl⟩ := List.mem_filter.1 hv
  exact ⟨ho, v, hv, beq_iff_eq.1 hn, hl⟩

/-- **Keys are taken out in one activity only**, at members who stay, and only those that a leaving
member had first. -/
theorem removal_of_planning {a : Activity} {plans : List Plan} {p : Plan} {k : Dnskey}
    (h : (planning zone a).perform o s = (.ok plans, t)) (hp : p ∈ plans)
    (hk : RemovesKey p.changes k) :
    a = .syncDnskeys ∧ ∃ members, s.state.members zone = .ok members ∧
      (p.member ∈ members ∧ p.member.signer.leaving = false) ∧
      ∃ m ∈ members, m.signer.leaving = true ∧
        t.state.dnskeyOrigin.get? k.fingerprint = some m.name := by
  have hw := within_of_planning h hp
  have ha : RecordKind.dnskey ∈ touched a := by
    rcases hk with ⟨r, hr, hrk⟩ | hk
    · have := hw.removes r hr
      rwa [Record.kind, hrk] at this
    · exact hw.removeKinds _ hk
  obtain rfl : a = .syncDnskeys := by
    cases a <;> simp only [touched, List.mem_cons, List.not_mem_nil, reduceCtorEq, or_self] at ha ⊢
  obtain ⟨views, hm, rfl⟩ := plans_of_syncDnskeys h
  obtain ⟨v, hv, rfl⟩ := List.mem_map.1 hp
  obtain ⟨hv, hl⟩ := mem_staying.1 hv
  refine ⟨rfl, _, hm, ⟨List.mem_map_of_mem hv, hl⟩, ?_⟩
  rcases hk with ⟨r, hr, hrk⟩ | hk
  · obtain ⟨l, hlw, rfl⟩ := List.mem_map.1 hr
    cases hrk
    obtain ⟨name, hname⟩ := Option.isSome_iff_exists.1 (List.mem_filter.1 hlw).2
    obtain ⟨ho, w, hw, rfl, hwl⟩ := leavingOrigin?_eq_some hname
    exact ⟨_, List.mem_map_of_mem hw, hwl, ho⟩
  · cases hk

/-- **Name servers are put in in one activity only**, and none of them is that of a leaving
member. -/
theorem insertion_of_planning {a : Activity} {plans : List Plan} {p : Plan} {n : DomainName}
    (h : (planning zone a).perform o s = (.ok plans, t)) (hp : p ∈ plans)
    (hn : InsertsName p.changes n) :
    a = .syncNs ∧ ∃ members, s.state.members zone = .ok members ∧
      ∀ m ∈ members, (m.signer.nameserver == n) = true → m.signer.leaving = false := by
  obtain ⟨r, hr, hrn⟩ := hn
  have ha : RecordKind.ns ∈ touched a := by
    have := (within_of_planning h hp).inserts r hr
    rwa [Record.kind, hrn] at this
  obtain rfl : a = .syncNs := by
    cases a <;> simp only [touched, List.mem_cons, List.not_mem_nil, reduceCtorEq, or_self] at ha ⊢
  obtain ⟨views, ttl, hm, rfl⟩ := plans_of_syncNs h
  refine ⟨rfl, _, hm, fun m hmem hmn => ?_⟩
  obtain ⟨v, -, rfl⟩ := List.mem_map.1 hp
  obtain ⟨e, he, rfl⟩ := List.mem_map.1 hr
  cases hrn
  obtain ⟨w, hw, rfl⟩ := List.mem_map.1 hmem
  -- a name in the desired set is none of those of leaving members
  have hdes : (!Evaluation.isOneOf (Evaluation.leavingNames views) e.1) = true :=
    (List.mem_filter.1 (List.mem_filter.1 he).1).2
  by_contra hl
  have : Evaluation.isOneOf (Evaluation.leavingNames views) e.1 = true :=
    List.any_eq_true.2 ⟨w.nameserver, List.mem_map_of_mem (List.mem_filter.2
      ⟨hw, Bool.not_eq_false _ ▸ hl⟩), hmn⟩
  rw [this] at hdes
  cases hdes

end Automation
end MultiSigner
