/-
# When the checks find nothing to mend

Each of the five checks compares views.  On a faithful network the views show what the servers
serve, so the conditions that `Proofs.Checks` states for views come down to conditions on that:
`KeysShared`, `KeysReferred`, `NamesShared` and, for the parent, `ParentRefers` and
`ParentDelegates`.  `flags_of_views` says that the flags are worked out without a failure as long as
key tags can be computed, and which condition sets which flag.
-/
import MultiSigner.Proofs.Checks
import MultiSigner.Proofs.Deployment

namespace MultiSigner

open Operation
open SignerView (staying departing leavingOrigin?)

/-- A report without a failure is told with success. -/
theorem Operation.perform_tell_of_sound {ω : Type} {o : Outside ω} {s : Session ω}
    {r : Report String} (h : Report.Sound r) :
    (tell r : Operation ω Unit).perform o s
      = (.ok (), { s with transcript := s.transcript.append ⟨r.items⟩ }) := by
  rw [perform_tell, h.failure?]

/-! ## 1. What is shown -/

/-- Whether a member shares a key with the other signers. -/
def Member.shares (m : Member) (k : Dnskey) : Bool :=
  m.signer.combined || k.role == .zoneSigning

namespace Deployment

variable {ω : Type} {n : Deployment ω} {s t : Session ω} {m : Member}

/-- A member's server serves some data. -/
def Shows (n : Deployment ω) (s : Session ω) (m : Member) (d : RecordData) : Prop :=
  Serves (n.records s m) d

/-- The parent serves some data. -/
def ParentShows (n : Deployment ω) (s : Session ω) (d : RecordData) : Prop :=
  Serves (n.parentRecords s) d

/-- A member that stays in the group. -/
def Stays (n : Deployment ω) (m : Member) : Prop :=
  m ∈ n.members ∧ m.signer.leaving = false

/-- A member that is leaving the group. -/
def Leaves (n : Deployment ω) (m : Member) : Prop :=
  m ∈ n.members ∧ m.signer.leaving = true

/-- A leaving member was the first to have a key. -/
def Departed (n : Deployment ω) (origins : OrderedMap String String) (k : Dnskey) : Prop :=
  ∃ m, n.Leaves m ∧ origins.get? k.fingerprint = some m.name

theorem mem_views {kinds : List RecordKind} {v : SignerView} :
    v ∈ n.views kinds s ↔ ∃ m ∈ n.members, v = .viewOf kinds (n.records s m) m := by
  simp only [views, List.mem_map, eq_comm]

/-- The views of those who stay are those of the members who stay. -/
theorem mem_staying_views {kinds : List RecordKind} {v : SignerView} :
    v ∈ staying (n.views kinds s) ↔ ∃ m, n.Stays m ∧ v = .viewOf kinds (n.records s m) m := by
  rw [Automation.mem_staying, mem_views]
  constructor
  · rintro ⟨⟨m, hm, rfl⟩, hl⟩
    exact ⟨m, ⟨hm, by rwa [SignerView.member_viewOf] at hl⟩, rfl⟩
  · rintro ⟨m, ⟨hm, hl⟩, rfl⟩
    exact ⟨⟨m, hm, rfl⟩, by rwa [SignerView.member_viewOf]⟩

theorem mem_departing_views {kinds : List RecordKind} {v : SignerView} :
    v ∈ departing (n.views kinds s) ↔ ∃ m, n.Leaves m ∧ v = .viewOf kinds (n.records s m) m := by
  rw [departing, List.mem_filter, mem_views]
  constructor
  · rintro ⟨⟨m, hm, rfl⟩, hl⟩
    exact ⟨m, ⟨hm, by rwa [SignerView.leaving, SignerView.member_viewOf] at hl⟩, rfl⟩
  · rintro ⟨m, ⟨hm, hl⟩, rfl⟩
    exact ⟨⟨m, hm, rfl⟩, by rwa [SignerView.leaving, SignerView.member_viewOf]⟩

section Shows

variable {kinds : List RecordKind}

theorem mem_dnskeys_view (hk : .dnskey ∈ kinds) {k : Dnskey} :
    k ∈ (SignerView.viewOf kinds (n.records s m) m).dnskeys ↔ n.Shows s m (.dnskey k) :=
  (SignerView.has_viewOf (d := .dnskey k) (show .dnskey ∈ Status.signerKinds by decide)).trans
    (and_iff_right hk)

theorem mem_syncedKeys_view (hk : .dnskey ∈ kinds) {k : Dnskey} :
    k ∈ (SignerView.viewOf kinds (n.records s m) m).syncedKeys
      ↔ n.Shows s m (.dnskey k) ∧ m.shares k = true := by
  rw [SignerView.syncedKeys, List.mem_filter, mem_dnskeys_view hk, SignerView.member_viewOf,
    Member.shares]

theorem mem_keySigningKeys_view (hk : .dnskey ∈ kinds) {k : Dnskey} :
    k ∈ (SignerView.viewOf kinds (n.records s m) m).keySigningKeys
      ↔ n.Shows s m (.dnskey k) ∧ k.role = .keySigning := by
  rw [SignerView.keySigningKeys, List.mem_filter, mem_dnskeys_view hk, beq_iff_eq]

theorem mem_cds_view (hk : .cds ∈ kinds) {d : Ds} :
    d ∈ (SignerView.viewOf kinds (n.records s m) m).cds ↔ n.Shows s m (.cds d) :=
  (SignerView.has_viewOf (d := .cds d) (show .cds ∈ Status.signerKinds by decide)).trans
    (and_iff_right hk)

theorem mem_cdnskeys_view (hk : .cdnskey ∈ kinds) {k : Dnskey} :
    k ∈ (SignerView.viewOf kinds (n.records s m) m).cdnskeys ↔ n.Shows s m (.cdnskey k) :=
  (SignerView.has_viewOf (d := .cdnskey k) (show .cdnskey ∈ Status.signerKinds by decide)).trans
    (and_iff_right hk)

theorem isOneOf_ns_view (hk : .ns ∈ kinds) {name : DomainName} :
    Evaluation.isOneOf (SignerView.viewOf kinds (n.records s m) m).ns name = true
      ↔ n.Shows s m (.ns name) :=
  (SignerView.has_viewOf (d := .ns name) (show .ns ∈ Status.signerKinds by decide)).trans
    (and_iff_right hk)

/-- **Whose a key is** does not depend on what was asked. -/
theorem fromLeaving_views {origins : OrderedMap String String} {k : Dnskey} :
    Evaluation.FromLeaving (n.views kinds s) origins k ↔ n.Departed origins k := by
  constructor
  · rintro ⟨v, hv, hleaves, horigin⟩
    obtain ⟨m, hm, rfl⟩ := mem_departing_views.1 (List.mem_filter.2 ⟨hv, hleaves⟩)
    rw [SignerView.name, SignerView.member_viewOf] at horigin
    exact ⟨m, hm, horigin⟩
  · rintro ⟨m, hm, horigin⟩
    obtain ⟨hv, hleaves⟩ := List.mem_filter.1 (mem_departing_views.2 ⟨m, hm, rfl⟩)
    refine ⟨_, hv, hleaves, ?_⟩
    rwa [SignerView.name, SignerView.member_viewOf]

theorem leavingOrigin?_eq_none {origins : OrderedMap String String} {k : Dnskey} :
    leavingOrigin? (n.views kinds s) origins k = none ↔ ¬ n.Departed origins k := by
  rw [Evaluation.leavingOrigin?_eq_none_iff, fromLeaving_views]

/-- What holds of the views of those who stay. -/
theorem forall_staying_views {P : SignerView → Prop} :
    (∀ v ∈ n.views kinds s, v.leaving = false → P v) ↔
      ∀ m, n.Stays m → P (.viewOf kinds (n.records s m) m) := by
  rw [← Evaluation.forall_staying]
  simp only [mem_staying_views]
  exact ⟨fun h m hm => h _ ⟨m, hm, rfl⟩, fun h v ⟨m, hm, hv⟩ => hv ▸ h m hm⟩

end Shows

/-! ## 2. Keys -/

/-- The tags of all keys at signers that stay can be computed. -/
def Tagged (n : Deployment ω) (s : Session ω) : Prop :=
  ∀ m, n.Stays m → ∀ k, n.Shows s m (.dnskey k) → ∃ tag, k.keyTag = .ok tag

/-- Keys of signers that stay have one algorithm for the same bytes. -/
def OneAlgorithm (n : Deployment ω) (s : Session ω) : Prop :=
  ∀ m m', n.Stays m → n.Stays m' → ∀ k k', n.Shows s m (.dnskey k) → n.Shows s m' (.dnskey k') →
    k.publicKey = k'.publicKey → k.algorithm = k'.algorithm

/-- Each key that a signer which stays shares is at all others that stay, and none is left of those
who leave. -/
structure KeysShared (n : Deployment ω) (s : Session ω) : Prop where
  kept : ∀ m, n.Stays m → ∀ k, n.Shows s m (.dnskey k) → m.shares k = true →
    ¬ n.Departed s.state.dnskeyOrigin k
  spread : ∀ m, n.Stays m → ∀ k, n.Shows s m (.dnskey k) → m.shares k = true →
    ∀ m', n.Stays m' → ∃ k', n.Shows s m' (.dnskey k') ∧ k'.publicKey = k.publicKey
  algorithms : n.OneAlgorithm s

/-- What the status asks its signers for. -/
abbrev statusViews (n : Deployment ω) (s : Session ω) : List SignerView :=
  n.views Status.signerKinds s

theorem Tagged.views (h : n.Tagged s) : Evaluation.Tagged (n.statusViews s) := by
  refine forall_staying_views.2 fun m hm k hk => h m hm k ?_
  rcases List.mem_append.1 hk with hk | hk
  · exact ((mem_syncedKeys_view (by decide)).1 hk).1
  · exact ((mem_keySigningKeys_view (by decide)).1 hk).1

/-- A key that is found at a signer is shown there, with the same bytes. -/
theorem shows_of_foundAt {k : Dnskey}
    (h : Evaluation.FoundAt (.viewOf Status.signerKinds (n.records s m) m) k) :
    ∃ l, n.Shows s m (.dnskey l) ∧ l.publicKey = k.publicKey := by
  obtain ⟨l, hl, -⟩ := h
  obtain ⟨hmem, hbytes⟩ := Evaluation.mem_of_find?_sameKey hl
  exact ⟨l, (mem_dnskeys_view (by decide)).1 hmem, hbytes⟩

/-- **Keys that are shared** are found synced. -/
theorem KeysShared.synced (h : n.KeysShared s) :
    Evaluation.KeysSynced (n.statusViews s) s.state.dnskeyOrigin where
  kept := forall_staying_views.2 fun m hm k hk => by
    obtain ⟨hshow, hshare⟩ := (mem_syncedKeys_view (by decide)).1 hk
    exact mt fromLeaving_views.1 (h.kept m hm k hshow hshare)
  found := forall_staying_views.2 fun m hm k hk => forall_staying_views.2 fun m' hm' _ => by
    obtain ⟨hshow, hshare⟩ := (mem_syncedKeys_view (by decide)).1 hk
    obtain ⟨k', hk', hbytes⟩ := h.spread m hm k hshow hshare m' hm'
    cases hfound : (SignerView.viewOf Status.signerKinds (n.records s m') m').dnskeys.find?
        fun l => l.sameKey k with
    | none =>
      exact absurd hfound
        (Evaluation.find?_sameKey_ne_none ((mem_dnskeys_view (by decide)).2 hk') hbytes)
    | some l =>
      -- what is found has the same algorithm
      obtain ⟨hmem, hsame⟩ := Evaluation.mem_of_find?_sameKey hfound
      have hshown := (mem_dnskeys_view (by decide)).1 hmem
      exact ⟨l, hfound, h.algorithms m' m hm' hm l k hshown hshow hsame⟩

/-! ## 3. References to keys -/

/-- Every signer that stays asks the parent to refer to every key that signs keys at those who
stay. -/
structure KeysReferred (n : Deployment ω) (s : Session ω) : Prop where
  cds : ∀ m m', n.Stays m → n.Stays m' → ∀ k, n.Shows s m' (.dnskey k) → k.role = .keySigning →
    ∃ d, n.Shows s m (.cds d) ∧ k.isReferredBy n.zone d = true
  cdnskey : ∀ m m', n.Stays m → n.Stays m' → ∀ k, n.Shows s m' (.dnskey k) → k.role = .keySigning →
    n.Shows s m (.cdnskey k)

/-- **Keys that are referred to** are found so. -/
theorem KeysReferred.views (h : n.KeysReferred s) :
    Evaluation.KeysReferred n.zone (n.statusViews s) where
  cds := forall_staying_views.2 fun m hm => forall_staying_views.2 fun m' hm' k hk => by
    obtain ⟨hshow, hrole⟩ := (mem_keySigningKeys_view (by decide)).1 hk
    obtain ⟨d, hd, href⟩ := h.cds m m' hm hm' k hshow hrole
    exact ⟨d, (mem_cds_view (by decide)).2 hd, Evaluation.isReferredBy_iff.1 href⟩
  cdnskey := forall_staying_views.2 fun m hm => forall_staying_views.2 fun m' hm' k hk => by
    obtain ⟨hshow, hrole⟩ := (mem_keySigningKeys_view (by decide)).1 hk
    exact (mem_cdnskeys_view (by decide)).2 (h.cdnskey m m' hm hm' k hshow hrole)

/-- The parent refers to just those keys that the signers which stay ask for. -/
def ParentRefers (n : Deployment ω) (s : Session ω) : Prop :=
  ∀ d, n.ParentShows s (.ds d) ↔ ∃ m, n.Stays m ∧ n.Shows s m (.cds d)

/-- What the status finds about the parent. -/
abbrev statusParent (n : Deployment ω) (s : Session ω) : ParentView :=
  .viewOf Status.parentKinds (n.parentRecords s)

theorem mem_ds_parent {d : Ds} : d ∈ (n.statusParent s).ds ↔ n.ParentShows s (.ds d) :=
  ParentView.has_viewOf (d := .ds d) (show .ds ∈ Status.parentKinds by decide)

theorem isOneOf_ns_parent {name : DomainName} :
    Evaluation.isOneOf (n.statusParent s).ns name = true ↔ n.ParentShows s (.ns name) :=
  ParentView.has_viewOf (d := .ns name) (show .ns ∈ Status.parentKinds by decide)

/-- **A parent refers to what the views ask for** just if it does to what is shown. -/
theorem parentRefers_views {p : ParentView} :
    Evaluation.ParentRefers (n.statusViews s) p ↔
      ∀ d, d ∈ p.ds ↔ ∃ m, n.Stays m ∧ n.Shows s m (.cds d) := by
  have hasked : ∀ d, (∃ v ∈ n.statusViews s, v.leaving = false ∧ d ∈ v.cds) ↔
      ∃ m, n.Stays m ∧ n.Shows s m (.cds d) := by
    intro d
    simp only [← Evaluation.exists_staying, mem_staying_views]
    constructor
    · rintro ⟨v, ⟨m, hm, rfl⟩, hd⟩
      exact ⟨m, hm, (mem_cds_view (by decide)).1 hd⟩
    · rintro ⟨m, hm, hd⟩
      exact ⟨_, ⟨m, hm, rfl⟩, (mem_cds_view (by decide)).2 hd⟩
  simp only [Evaluation.ParentRefers, hasked]

/-! ## 4. Name servers -/

/-- All signers serve the same names, none of which is that of a leaving signer. -/
structure NamesShared (n : Deployment ω) (s : Session ω) : Prop where
  same : ∀ m ∈ n.members, ∀ m' ∈ n.members, ∀ name, n.Shows s m (.ns name) → n.Shows s m' (.ns name)
  staying : ∀ m ∈ n.members, ∀ x, n.Leaves x → ¬ n.Shows s m (.ns x.signer.nameserver)

open Evaluation (isOneOf leavingNames isOneOf_iff)

theorem isOneOf_leavingNames {kinds : List RecordKind} {name : DomainName} :
    isOneOf (leavingNames (n.views kinds s)) name = true
      ↔ ∃ x, n.Leaves x ∧ (x.signer.nameserver == name) = true := by
  rw [Evaluation.isOneOf_leavingNames]
  constructor
  · rintro ⟨v, hv, hname⟩
    obtain ⟨x, hx, rfl⟩ := mem_departing_views.1 hv
    rw [SignerView.nameserver, SignerView.member_viewOf] at hname
    exact ⟨x, hx, hname⟩
  · rintro ⟨x, hx, hname⟩
    refine ⟨_, mem_departing_views.2 ⟨x, hx, rfl⟩, ?_⟩
    rwa [SignerView.nameserver, SignerView.member_viewOf]

/-- Some view lists a name just if some member serves it. -/
theorem exists_isOneOf_views {kinds : List RecordKind} (hk : .ns ∈ kinds) {name : DomainName} :
    (∃ v ∈ n.views kinds s, isOneOf v.ns name = true) ↔
      ∃ m ∈ n.members, n.Shows s m (.ns name) := by
  simp only [mem_views]
  constructor
  · rintro ⟨v, ⟨m, hm, rfl⟩, hname⟩
    exact ⟨m, hm, (isOneOf_ns_view hk).1 hname⟩
  · rintro ⟨m, hm, hshow⟩
    exact ⟨_, ⟨m, hm, rfl⟩, (isOneOf_ns_view hk).2 hshow⟩

/-- **Signers are found to agree on names** just if they share them. -/
theorem namesAgree_views : Evaluation.NamesAgree (n.statusViews s) ↔ n.NamesShared s := by
  have hns : ∀ {m : Member} {name : DomainName},
      isOneOf (SignerView.viewOf Status.signerKinds (n.records s m) m).ns name = true
        ↔ n.Shows s m (.ns name) := isOneOf_ns_view (by decide)
  constructor
  · intro h
    refine ⟨fun m hm m' hm' name hshow => ?_, fun m hm x hx hshow => ?_⟩
    · exact hns.1 (h.same _ (mem_views.2 ⟨m, hm, rfl⟩) _ (mem_views.2 ⟨m', hm', rfl⟩) name
        (hns.2 hshow))
    · obtain ⟨hv, hleaves⟩ := List.mem_filter.1 (mem_departing_views.2 ⟨x, hx, rfl⟩)
      have hstays := h.staying _ (mem_views.2 ⟨m, hm, rfl⟩) _ hv hleaves
      rw [SignerView.nameserver, SignerView.member_viewOf, hns.2 hshow] at hstays
      cases hstays
  · intro h
    refine ⟨fun v hv v' hv' name hname => ?_, fun v hv w hw hleaves => ?_⟩
    · obtain ⟨m, hm, rfl⟩ := mem_views.1 hv
      obtain ⟨m', hm', rfl⟩ := mem_views.1 hv'
      exact hns.2 (h.same m hm m' hm' name (hns.1 hname))
    · obtain ⟨m, hm, rfl⟩ := mem_views.1 hv
      obtain ⟨x, hx, rfl⟩ := mem_departing_views.1 (List.mem_filter.2 ⟨hw, hleaves⟩)
      rw [SignerView.nameserver, SignerView.member_viewOf, ← Bool.not_eq_true, hns]
      exact h.staying m hm x hx

/-- The parent delegates to just those names that the signers serve. -/
def ParentDelegates (n : Deployment ω) (s : Session ω) : Prop :=
  ∀ name, n.ParentShows s (.ns name) ↔ ∃ m ∈ n.members, n.Shows s m (.ns name)

theorem ParentDelegates.views (h : n.ParentDelegates s) :
    Evaluation.ParentDelegates (n.statusViews s) (n.statusParent s) := fun name => by
  rw [isOneOf_ns_parent, h name, exists_isOneOf_views (by decide)]

/-! ## 5. All checks -/

/-- What has to be the case for an answer of the status to be yes. -/
def Meets (n : Deployment ω) (s : Session ω) : SyncFlag → Prop
  | .dnskeys => n.KeysShared s
  | .cds => n.KeysReferred s
  | .parentDs => n.KeysReferred s ∧ n.ParentRefers s
  | .ns => n.NamesShared s
  | .parentNs => n.NamesShared s ∧ n.ParentDelegates s

theorem Meets.holds {flag : SyncFlag} (h : n.Meets s flag) :
    Evaluation.Holds n.zone (n.statusViews s) (n.statusParent s) s.state.dnskeyOrigin flag := by
  cases flag with
  | dnskeys => exact KeysShared.synced h
  | cds => exact KeysReferred.views h
  | parentDs => exact ⟨h.1.views, parentRefers_views.2 fun d => mem_ds_parent.trans (h.2 d)⟩
  | ns => exact namesAgree_views.2 h
  | parentNs => exact ⟨namesAgree_views.2 h.1, h.2.views⟩

/-- **The status gives the answer yes** where it should. -/
theorem flags_of_views (htags : n.Tagged s) {flag : SyncFlag} (h : n.Meets s flag) :
    ∃ f, (Evaluation.ofViews n.zone (n.statusViews s) (n.statusParent s)
      s.state.dnskeyOrigin).flags = .ok f ∧ f.get flag = true := by
  obtain ⟨f, hf⟩ := Evaluation.exists_flags_iff.2 htags.views
  exact ⟨f, hf, (Evaluation.get_iff hf flag).2 h.holds⟩

end Deployment
end MultiSigner
