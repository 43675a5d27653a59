/-
# What the activities make of what is served

Six activities change the records of signers.  On a faithful network each of them succeeds under the
conditions that its work needs, and this module says what the signers serve after it:

* `achieves_syncDnskeys`: signers that stay serve their own keys, except those that a leaving signer
  had first, and the keys of the others that they lacked (`KeysInLine`).
* `achieves_syncCds`: signers that stay ask the parent for all keys that sign keys.
* `achieves_syncNs`: all signers serve all names but those of leaving signers (`NamesInLine`).
* `achieves_remove`: record sets that are taken out are gone.

Whatever is not of the kinds that an activity touches is served as before (`Acted.frame`).
-/
import MultiSigner.Proofs.Findings
import MultiSigner.Proofs.Step

namespace MultiSigner

theorem Dnskey.delegation_eq_ok {k : Dnskey} {owner : DomainName} {type : DigestType} {d : Ds} :
    k.delegation owner type = .ok d ↔ (owner.wire ++ k.wire).length ≤ 65535 ∧
      ∃ digest tag, type.digest? (owner.wire ++ k.wire) = some digest ∧ k.keyTag = .ok tag ∧
        d = ⟨tag, k.algorithm, type, digest⟩ := by
  unfold delegation
  by_cases hlen : 65535 < (owner.wire ++ k.wire).length
  · simp only [hlen, if_true]
    refine iff_of_false (fun h => by cases h) fun h => absurd h.1 (Nat.not_le_of_lt hlen)
  · simp only [hlen, if_false, Nat.le_of_not_lt hlen, true_and]
    cases type.digest? (owner.wire ++ k.wire) with
    | none => exact iff_of_false (fun h => by cases h) fun ⟨_, _, h, _⟩ => by cases h
    | some digest =>
      cases k.keyTag with
      | error e => exact iff_of_false (fun h => by cases h) fun ⟨_, _, _, h, _⟩ => by cases h
      | ok tag =>
        constructor
        · intro h
          cases h
          exact ⟨digest, tag, rfl, rfl, rfl⟩
        · rintro ⟨_, _, hd, ht, rfl⟩
          cases hd
          cases ht
          rfl

/-- A reference that is computed is one to its key. -/
theorem Dnskey.isReferredBy_delegation {k : Dnskey} {owner : DomainName} {type : DigestType}
    {d : Ds} (h : k.delegation owner type = .ok d) : k.isReferredBy owner d = true := by
  obtain ⟨-, digest, tag, -, -, hd⟩ := Dnskey.delegation_eq_ok.1 h
  have htype : d.digestType = type := by rw [hd]
  rw [Dnskey.isReferredBy, htype, h]
  exact beq_self_eq_true d

/-- Noting where names were seen leaves the origins of keys alone. -/
theorem dnskeyOrigin_nsOrigins (views : List SignerView) (σ : State) :
    (views.foldl Sync.Nameservers.recordOrigins σ).dnskeyOrigin = σ.dnskeyOrigin := by
  have hname : ∀ (ns : DomainName) (name : String) (σ : State),
      (σ.recordNsOrigin ns name).2.dnskeyOrigin = σ.dnskeyOrigin := fun ns name σ => by
    unfold State.recordNsOrigin
    split <;> rfl
  have hview : ∀ (v : SignerView) (names : List DomainName) (σ : State),
      (names.foldl (fun s l => (s.recordNsOrigin l v.name).2) σ).dnskeyOrigin = σ.dnskeyOrigin := by
    intro v names
    induction names with
    | nil => exact fun _ => rfl
    | cons l names ih => exact fun σ => (ih _).trans (hname l v.name σ)
  induction views generalizing σ with
  | nil => rfl
  | cons v views ih => exact (ih _).trans (hview v v.ns σ)

namespace Deployment

open Operation Automation
open SignerView (staying leavingOrigin?)

variable {ω : Type} {n : Deployment ω} {s t u : Session ω} {m : Member}

/-! ## 1. Planning and pushing -/

/-- An activity planned, and what it planned was pushed. -/
structure Acted (n : Deployment ω) (a : Activity) (plans : List Plan) (s t : Session ω) : Prop where
  /-- The session in which the plans were pushed. -/
  planned : ∃ u, (planning n.zone a).perform n.outside s = (.ok plans, u) ∧
    t.state = u.state ∧ n.holds u.world = n.holds s.world
  members : ∀ p ∈ plans, p.member ∈ n.members
  changed : ∀ p ∈ plans, n.holds t.world p.member.signer.address
    = some (p.changes.applyTo (n.records s p.member))
  rest : ∀ server, (∀ p ∈ plans, p.member.signer.address ≠ server) →
    n.holds t.world server = n.holds s.world server

theorem Documented.of_withoutOrigins {σ τ : State} (h : n.Documented σ)
    (hw : τ.withoutOrigins = σ.withoutOrigins) : n.Documented τ where
  members := (State.members_of_withoutOrigins hw n.zone).trans h.members
  populated := h.populated
  parent := by
    rw [State.groups_of_withoutOrigins hw]
    exact h.parent
  credentials m hm := by
    rw [Push.credential_of_withoutOrigins hw]
    exact h.credentials m hm

theorem acted_of_pushed {a : Activity} {plans : List Plan}
    (hplan : (planning n.zone a).perform n.outside s = (.ok plans, u))
    (hholds : n.holds u.world = n.holds s.world)
    (hmembers : (plans.map Plan.member).Sublist n.members) (h : n.Pushed plans u t) :
    n.Acted a plans s t where
  planned := ⟨u, hplan, congrArg Prod.fst h.settled, hholds⟩
  members p hp := hmembers.subset (List.mem_map_of_mem hp)
  changed p hp := by rw [h.changed p hp, records_congr hholds]
  rest server hserver := by rw [h.rest server hserver, hholds]

/-- **An activity succeeds if its planning does.** -/
theorem achieves_act (hn : n.Faithful) (ha : n.Addressed) (hs : n.Found s) {a : Activity}
    {plans : List Plan} (hmembers : (plans.map Plan.member).Sublist n.members)
    {Q : Session ω → Prop} (hplan : Achieves n.outside s (planning n.zone a) fun ps u =>
      ps = plans ∧ n.holds u.world = n.holds s.world ∧ Q u) :
    Achieves n.outside s (planning n.zone a >>= Push.push n.zone) fun _ t =>
      n.Acted a plans s t ∧ ∃ u, t.state = u.state ∧ Q u := by
  obtain ⟨ps, u, hperform, rfl, hholds, hq⟩ := hplan
  have hfound : n.Found u := by
    refine ⟨hs.documented.of_withoutOrigins ?_, hs.serving.congr hholds⟩
    exact congrArg Prod.fst ((leaves_planning n.zone a).rel_of_perform hperform)
  have hstart : ∀ p ∈ ps, ¬ p.changes.TouchesStart := fun p hp =>
    (within_of_planning hperform hp).not_touchesStart
  refine Achieves.after hperform ((achieves_push hn ha hfound hmembers hstart).imp fun _ t ht => ?_)
  exact ⟨acted_of_pushed hperform hholds hmembers ht, u, congrArg Prod.fst ht.settled, hq⟩

section Acted

variable {a : Activity} {plans : List Plan}

/-- The server of a plan holds what the plan makes of its records. -/
theorem Acted.records_of_mem (h : n.Acted a plans s t) {p : Plan} (hp : p ∈ plans) :
    n.records t p.member = p.changes.applyTo (n.records s p.member) := by
  rw [records, h.changed p hp, Option.getD_some]

/-- A member that no plan is for holds what it held. -/
theorem Acted.records_of_not_mem (hn : n.Apart) (h : n.Acted a plans s t) (hm : m ∈ n.members)
    (hnot : ∀ p ∈ plans, p.member ≠ m) : n.records t m = n.records s m := by
  rw [records, h.rest _ fun p hp heq => hnot p hp
    (hn.eq_of_address (h.members p hp) hm heq), records]

theorem shows_applyTo_of_within {c : ChangeSet} {rs : List Record} {kinds : List RecordKind}
    (hc : Within kinds c) {d : RecordData} (hd : d.kind ∉ kinds) :
    Serves (c.applyTo rs) d ↔ Serves rs d := by
  have hnone : ∀ {l : List Record}, (∀ r ∈ l, r.kind ∈ kinds) → ¬ Serves l d := by
    rintro l hl ⟨r, hr, hrd⟩
    exact hd (RecordData.kind_eq_of_same hrd ▸ hl r hr)
  rw [ChangeSet.serves_applyTo]
  constructor
  · rintro (⟨h, -, -⟩ | h)
    · exact h
    · exact absurd h (hnone hc.inserts)
  · intro h
    exact .inl ⟨h, fun hk => hd (hc.removeKinds _ hk), hnone hc.removes⟩

/-- **What an activity does not touch is served as before.** -/
theorem Acted.frame (hn : n.Apart) (h : n.Acted a plans s t) (hm : m ∈ n.members)
    {d : RecordData} (hd : d.kind ∉ touched a) : n.Shows t m d ↔ n.Shows s m d := by
  obtain ⟨u, hu, -, -⟩ := h.planned
  by_cases hp : ∃ p ∈ plans, p.member = m
  · obtain ⟨p, hp, rfl⟩ := hp
    rw [Shows, h.records_of_mem hp]
    exact shows_applyTo_of_within (within_of_planning hu hp) hd
  · rw [Shows, h.records_of_not_mem hn hm fun p hp' hpm => hp ⟨p, hp', hpm⟩, Shows]

/-- Nothing but origins changed in the document. -/
theorem Acted.state (h : n.Acted a plans s t) :
    t.state.withoutOrigins = s.state.withoutOrigins := by
  obtain ⟨u, hu, hstate, -⟩ := h.planned
  rw [hstate]
  exact congrArg Prod.fst ((leaves_planning n.zone a).rel_of_perform hu)

/-- Servers that are there stay there. -/
theorem Acted.serves (h : n.Acted a plans s t) {server : String}
    (hs : ∃ rs, n.holds s.world server = some rs) : ∃ rs, n.holds t.world server = some rs := by
  by_cases hp : ∃ p ∈ plans, p.member.signer.address = server
  · obtain ⟨p, hp, rfl⟩ := hp
    exact ⟨_, h.changed p hp⟩
  · rw [h.rest server fun p hp' hpm => hp ⟨p, hp', hpm⟩]
    exact hs

/-- The group can still be worked on. -/
theorem Acted.found (h : n.Acted a plans s t) (hs : n.Found s) : n.Found t where
  documented := hs.documented.of_withoutOrigins h.state
  serving := ⟨fun m hm => h.serves (hs.serving.members m hm), h.serves hs.serving.parent⟩

end Acted

theorem views_map_member (kinds : List RecordKind) (s : Session ω) :
    (n.views kinds s).map SignerView.member = n.members := by
  rw [views, List.map_map]
  refine (List.map_congr_left fun m _ => ?_).trans (List.map_id _)
  exact SignerView.member_viewOf kinds (n.records s m) m

theorem staying_map_member (kinds : List RecordKind) (s : Session ω) :
    ((staying (n.views kinds s)).map SignerView.member).Sublist n.members := by
  rw [← n.views_map_member kinds s]
  exact List.filter_sublist.map _

/-! ## 2. Keys -/

open Sync.Dnskeys (withdrawn offered missing hasKey isLeaving)

/-- Whether a member shares a key with the given fingerprint. -/
def sharesPrint (n : Deployment ω) (s : Session ω) (print : String) (m : Member) : Bool :=
  (n.records s m).any fun r => match r.data with
    | .dnskey k => m.shares k && k.fingerprint == print
    | _ => false

/-- **Where keys come from** once they were synced: what was known stays, and any other key comes
from the first member, in group order, that shares one like it. -/
def originAfter (n : Deployment ω) (s : Session ω) (print : String) : Option String :=
  (s.state.dnskeyOrigin.get? print).or ((n.members.find? (n.sharesPrint s print)).map Member.name)

theorem sharesPrint_iff {print : String} : n.sharesPrint s print m = true
    ↔ ∃ k, n.Shows s m (.dnskey k) ∧ m.shares k = true ∧ k.fingerprint = print := by
  rw [sharesPrint, List.any_eq_true]
  constructor
  · rintro ⟨r, hr, hprint⟩
    cases hd : r.data with
    | dnskey k =>
      rw [hd] at hprint
      obtain ⟨hshares, hprint⟩ := Bool.and_eq_true_iff.1 hprint
      exact ⟨k, ⟨r, hr, by rw [hd]; exact BEq.rfl⟩, hshares, beq_iff_eq.1 hprint⟩
    | cdnskey _ | ds _ | cds _ | ns _ | soa _ | csync _ =>
      rw [hd] at hprint
      cases hprint
  · rintro ⟨k, ⟨r, hr, hk⟩, hshares, hprint⟩
    refine ⟨r, hr, ?_⟩
    rw [RecordData.eq_of_beq hk nofun]
    exact Bool.and_eq_true_iff.2 ⟨hshares, beq_iff_eq.2 hprint⟩

theorem get?_recordDnskeyOrigin (σ : State) (print name other : String) :
    (σ.recordDnskeyOrigin print name).2.dnskeyOrigin.get? other
      = (σ.dnskeyOrigin.get? other).or (if print = other then some name else none) := by
  have hrecord : (σ.recordDnskeyOrigin print name).2.dnskeyOrigin
      = if σ.dnskeyOrigin.contains print then σ.dnskeyOrigin
        else σ.dnskeyOrigin.insert print name := by
    unfold State.recordDnskeyOrigin
    split <;> rfl
  have hkey : compare other print = .eq ↔ print = other := by
    rw [Std.LawfulEqOrd.compare_eq_iff_eq, eq_comm]
  rw [hrecord, OrderedMap.get?_insertNew]
  simp only [hkey]

theorem get?_recordKeys (print name : String) : ∀ (keys : List Dnskey) (σ : State),
    (keys.foldl (fun s k => (s.recordDnskeyOrigin k.fingerprint name).2) σ).dnskeyOrigin.get? print
      = (σ.dnskeyOrigin.get? print).or
        (if keys.any (fun k => k.fingerprint == print) then some name else none)
  | [], σ => by simp
  | k :: keys, σ => by
    rw [List.foldl_cons, get?_recordKeys print name keys, get?_recordDnskeyOrigin, Option.or_assoc]
    by_cases hk : k.fingerprint = print <;> simp [hk]

theorem get?_recordOrigins (print : String) : ∀ (views : List SignerView) (σ : State),
    (views.foldl Sync.Dnskeys.recordOrigins σ).dnskeyOrigin.get? print
      = (σ.dnskeyOrigin.get? print).or
        ((views.find? fun v => v.syncedKeys.any fun k => k.fingerprint == print).map
          SignerView.name)
  | [], σ => by simp
  | v :: views, σ => by
    rw [List.foldl_cons, get?_recordOrigins print views, Sync.Dnskeys.recordOrigins,
      get?_recordKeys, Option.or_assoc]
    cases hany : v.syncedKeys.any fun k => k.fingerprint == print <;> simp [hany]

/-- **The origins that syncing keys notes.** -/
theorem get?_origins_of_sync (print : String) :
    ((n.views [.dnskey] s).foldl Sync.Dnskeys.recordOrigins s.state).dnskeyOrigin.get? print
      = n.originAfter s print := by
  rw [get?_recordOrigins, originAfter, views, List.find?_map, Option.map_map]
  congr 2
  · funext m
    rw [Function.comp_apply, SignerView.name, SignerView.member_viewOf]
  · refine congrArg (fun p => n.members.find? p) (funext fun m => ?_)
    rw [Function.comp_apply, Bool.eq_iff_iff, List.any_eq_true, sharesPrint_iff]
    constructor
    · rintro ⟨k, hk, hprint⟩
      obtain ⟨hshow, hshares⟩ := (mem_syncedKeys_view (by decide)).1 hk
      exact ⟨k, hshow, hshares, beq_iff_eq.1 hprint⟩
    · rintro ⟨k, hshow, hshares, hprint⟩
      exact ⟨k, (mem_syncedKeys_view (by decide)).2 ⟨hshow, hshares⟩, beq_iff_eq.2 hprint⟩

/-- The keys of the signers that stay are in line: each of them serves its own keys, except those
that a leaving signer had first, and the shared keys of the others that it lacked.  Leaving signers
serve what they served. -/
structure KeysInLine (n : Deployment ω) (start t : Session ω) : Prop where
  origins : ∀ print, t.state.dnskeyOrigin.get? print = n.originAfter start print
  staying : ∀ m, n.Stays m → ∀ k, n.Shows t m (.dnskey k) ↔ ¬ n.Departed t.state.dnskeyOrigin k ∧
    (n.Shows start m (.dnskey k) ∨
      (∀ l, n.Shows start m (.dnskey l) → l.publicKey ≠ k.publicKey) ∧
        ∃ m', n.Stays m' ∧ n.Shows start m' (.dnskey k) ∧ m'.shares k = true)
  leaving : ∀ m, n.Leaves m → ∀ k, n.Shows t m (.dnskey k) ↔ n.Shows start m (.dnskey k)

theorem isLeaving_iff {kinds : List RecordKind} {origins : OrderedMap String String} {k : Dnskey} :
    isLeaving (n.views kinds s) origins k = true ↔ n.Departed origins k := by
  rw [isLeaving, Option.isSome_iff_ne_none, ne_eq, leavingOrigin?_eq_none, not_not]

section Keys

variable {origins : OrderedMap String String} {k : Dnskey}

theorem mem_withdrawn :
    k ∈ withdrawn (n.views [.dnskey] s) origins (.viewOf [.dnskey] (n.records s m) m)
      ↔ n.Shows s m (.dnskey k) ∧ n.Departed origins k := by
  rw [withdrawn, List.mem_filter, mem_dnskeys_view (by decide), isLeaving_iff]

theorem mem_offered :
    k ∈ offered (n.views [.dnskey] s) origins (.viewOf [.dnskey] (n.records s m) m)
      ↔ (n.Shows s m (.dnskey k) ∧ m.shares k = true) ∧ ¬ n.Departed origins k := by
  rw [offered, List.mem_filter, mem_syncedKeys_view (by decide), Bool.not_eq_true',
    ← Bool.not_eq_true, isLeaving_iff]

/-- The tags of all keys that are told of can be computed: of those of signers that stay which come
from leaving signers or are shared. -/
def TagsTold (n : Deployment ω) (s : Session ω) (origins : OrderedMap String String) : Prop :=
  ∀ m, n.Stays m → ∀ k, n.Shows s m (.dnskey k) →
    (n.Departed origins k ∨ m.shares k = true) → ∃ tag, k.keyTag = .ok tag

/-- What syncing keys tells. -/
def keyReport (n : Deployment ω) (s : Session ω) (origins : OrderedMap String String) :
    Report String :=
  Sync.Dnskeys.withdrawalReport (n.views [.dnskey] s) origins
    ++ Sync.Dnskeys.offerReport (n.views [.dnskey] s) origins

/-- **Syncing keys can tell what it does** just if it can compute the tags. -/
theorem sound_keyReport : Report.Sound (n.keyReport s origins) ↔ n.TagsTold s origins := by
  constructor
  · intro h m hm k hshow htold
    have hview := mem_staying_views.2 ⟨m, hm, (rfl : SignerView.viewOf [.dnskey] (n.records s m) m = _)⟩
    cases htag : k.keyTag with
    | ok tag => exact ⟨tag, rfl⟩
    | error e =>
      -- there is an entry for the key, which needs the tag
      have hmem : .error e ∈ n.keyReport s origins := by
        by_cases hdeparted : n.Departed origins k
        · refine List.mem_append_left _ (List.mem_append_right _ (List.mem_flatMap.2 ⟨_, hview, ?_⟩))
          exact List.mem_flatMap.2 ⟨k, mem_withdrawn.2 ⟨hshow, hdeparted⟩,
            Report.error_mem_withTag htag _⟩
        · have hoffered := mem_offered.2 ⟨⟨hshow, htold.resolve_left hdeparted⟩, hdeparted⟩
          refine List.mem_append_right _ (List.mem_flatMap.2 ⟨_, hview, List.mem_cons_of_mem _ ?_⟩)
          exact List.mem_flatMap.2 ⟨k, hoffered, Report.error_mem_withTag htag _⟩
      obtain ⟨a, ha⟩ := h _ hmem
      cases ha
  · intro htags x hx
    rcases List.mem_append.1 hx with hx | hx
    · rcases List.mem_append.1 hx with hx | hx
      · obtain ⟨v, -, rfl⟩ := List.mem_map.1 hx
        exact ⟨_, rfl⟩
      · obtain ⟨v, hv, hx⟩ := List.mem_flatMap.1 hx
        obtain ⟨m, hm, rfl⟩ := mem_staying_views.1 hv
        obtain ⟨k, hk, hx⟩ := List.mem_flatMap.1 hx
        obtain ⟨hshow, hdeparted⟩ := mem_withdrawn.1 hk
        exact Report.sound_withTag.2 (htags m hm k hshow (.inl hdeparted)) x hx
    · obtain ⟨v, hv, hx⟩ := List.mem_flatMap.1 hx
      obtain ⟨m, hm, rfl⟩ := mem_staying_views.1 hv
      rcases List.mem_cons.1 hx with rfl | hx
      · exact ⟨_, rfl⟩
      · obtain ⟨k, hk, hx⟩ := List.mem_flatMap.1 hx
        obtain ⟨⟨hshow, hshares⟩, -⟩ := mem_offered.1 hk
        exact Report.sound_withTag.2 (htags m hm k hshow (.inr hshares)) x hx

theorem Tagged.told (h : n.Tagged s) : n.TagsTold s origins :=
  fun m hm k hshow _ => h m hm k hshow

/-- The origins after the keys of a group were seen. -/
def keyOrigins (n : Deployment ω) (s : Session ω) : State :=
  (n.views [.dnskey] s).foldl Sync.Dnskeys.recordOrigins s.state

/-- The plans for bringing keys in line. -/
def keyPlans (n : Deployment ω) (s : Session ω) : List Plan :=
  Sync.Dnskeys.plans (n.views [.dnskey] s) (n.keyOrigins s).dnskeyOrigin

theorem keyPlans_members : ((n.keyPlans s).map Plan.member).Sublist n.members := by
  rw [keyPlans, Sync.Dnskeys.plans, List.map_map]
  exact staying_map_member [.dnskey] s

/-- Once the signers were asked, planning succeeds if it can tell what it does. -/
theorem planning_syncDnskeys_of_views {P : ω → Prop}
    (hviews : Achieves n.outside s (observeGroup n.zone [.dnskey]) fun vs u =>
      vs = n.views [.dnskey] s ∧ n.Still s u ∧ P u.world)
    (htags : n.TagsTold s (n.keyOrigins s).dnskeyOrigin) :
    Achieves n.outside s (planning n.zone .syncDnskeys) fun ps u =>
      (ps = n.keyPlans s ∧ n.holds u.world = n.holds s.world ∧ P u.world) ∧
        u.state = n.keyOrigins s := by
  refine hviews.bind fun views u ⟨hviews, hu, hp⟩ => ?_
  subst hviews
  refine Achieves.after (perform_modifyState _) (Achieves.after perform_state ?_)
  have hstate : (n.views [.dnskey] s).foldl Sync.Dnskeys.recordOrigins u.state = n.keyOrigins s := by
    rw [hu.state, keyOrigins]
  simp only [hstate]
  refine Achieves.after (perform_tell_of_sound (sound_keyReport.2 htags)) ?_
  exact achieves_pure ⟨⟨rfl, hu.holds, hp⟩, rfl⟩

theorem achieves_planning_syncDnskeys (hn : n.Faithful) (ha : n.Addressed) (hs : n.Found s)
    (htags : n.Tagged s) :
    Achieves n.outside s (planning n.zone .syncDnskeys) fun ps u =>
      ps = n.keyPlans s ∧ n.holds u.world = n.holds s.world ∧ u.state = n.keyOrigins s := by
  have hviews : Achieves n.outside s (observeGroup n.zone [.dnskey]) fun vs u =>
      vs = n.views [.dnskey] s ∧ n.Still s u ∧ True :=
    (achieves_observeGroup hn ha hs [.dnskey]).imp fun _ _ h => ⟨h.1, h.2, trivial⟩
  exact (planning_syncDnskeys_of_views (P := fun _ => True) hviews htags.told).imp
    fun _ _ ⟨⟨hps, hholds, _⟩, hstate⟩ => ⟨hps, hholds, hstate⟩

/-- **What a signer lacks**: the keys that others share and whose bytes it has not. -/
theorem serves_missing (hs : s.state.members n.zone = .ok n.members) (hm : n.Stays m) :
    Serves (missing (n.views [.dnskey] s) origins (.viewOf [.dnskey] (n.records s m) m)) (.dnskey k)
      ↔ ¬ n.Departed origins k ∧
        (∀ l, n.Shows s m (.dnskey l) → l.publicKey ≠ k.publicKey) ∧
          ∃ m', n.Stays m' ∧ n.Shows s m' (.dnskey k) ∧ m'.shares k = true := by
  have hlack : ∀ ttl : UInt32,
      (!hasKey (.viewOf [.dnskey] (n.records s m) m) ⟨ttl, .dnskey k⟩) = true
        ↔ ∀ l, n.Shows s m (.dnskey l) → l.publicKey ≠ k.publicKey := by
    intro ttl
    rw [hasKey, Bool.not_eq_true', ← Bool.not_eq_true, List.any_eq_true]
    constructor
    · intro hnone l hl hbytes
      exact hnone ⟨l, (mem_dnskeys_view (by decide)).2 hl, beq_iff_eq.2 hbytes⟩
    · rintro hnone ⟨l, hl, hbytes⟩
      exact hnone l ((mem_dnskeys_view (by decide)).1 hl) (beq_iff_eq.1 hbytes)
  constructor
  · rintro ⟨r, hr, hk⟩
    rcases mem_of_mem_once hr with hr | hr
    · cases hr
    · obtain ⟨hr, hlacks⟩ := List.mem_filter.1 hr
      obtain ⟨v, hv, hr⟩ := List.mem_flatMap.1 hr
      obtain ⟨l, hl, rfl⟩ := List.mem_map.1 hr
      obtain rfl := RecordData.dnskey.inj (RecordData.eq_of_beq hk nofun)
      obtain ⟨m', hm', rfl⟩ := mem_staying_views.1 (List.mem_filter.1 hv).1
      obtain ⟨⟨hshow, hshares⟩, hstays⟩ := mem_offered.1 hl
      exact ⟨hstays, (hlack _).1 hlacks, m', hm', hshow, hshares⟩
  · rintro ⟨hstays, hlacks, m', hm', hshow, hshares⟩
    have hne : (SignerView.viewOf [.dnskey] (n.records s m') m').name
        ≠ (SignerView.viewOf [.dnskey] (n.records s m) m).name := by
      simp only [SignerView.name, SignerView.member_viewOf]
      intro hname
      rw [State.eq_of_name hs hm'.1 hm.1 hname] at hshow
      exact hlacks k hshow rfl
    have hoffer : (⟨(SignerView.viewOf [.dnskey] (n.records s m') m').dnskeyTtl, .dnskey k⟩ : Record)
        ∈ (Sync.Dnskeys.offersTo (n.views [.dnskey] s) origins
          (.viewOf [.dnskey] (n.records s m) m)).filter
            fun r => !hasKey (.viewOf [.dnskey] (n.records s m) m) r := by
      refine List.mem_filter.2 ⟨List.mem_flatMap.2 ⟨_, List.mem_filter.2
        ⟨mem_staying_views.2 ⟨m', hm', rfl⟩, bne_iff_ne.2 hne⟩, ?_⟩, (hlack _).2 hlacks⟩
      exact List.mem_map_of_mem (mem_offered.2 ⟨⟨hshow, hshares⟩, hstays⟩)
    -- the offer, or one like it, is among those that were gathered
    have hseen := seen_once (fun records (r : Record) => records.any (r == ·))
      (fun hsub hany => by
        obtain ⟨x, hx, hsame⟩ := List.any_eq_true.1 hany
        exact List.any_eq_true.2 ⟨x, hsub hx, hsame⟩)
      (fun l r hr => List.any_eq_true.2 ⟨r, hr, Bool.and_eq_true_iff.2
        ⟨beq_self_eq_true _, BEq.rfl⟩⟩) [] hoffer
    obtain ⟨x, hx, hsame⟩ := List.any_eq_true.1 hseen
    exact ⟨x, hx, BEq.symm (Bool.and_eq_true_iff.1 hsame).2⟩

/-- What the plan of a signer takes out. -/
theorem serves_withdrawn {ttl : UInt32} :
    Serves ((withdrawn (n.views [.dnskey] s) origins (.viewOf [.dnskey] (n.records s m) m)).map
      fun l => ⟨ttl, .dnskey l⟩) (.dnskey k) ↔ n.Shows s m (.dnskey k) ∧ n.Departed origins k := by
  rw [← mem_withdrawn]
  constructor
  · rintro ⟨r, hr, hk⟩
    obtain ⟨l, hl, rfl⟩ := List.mem_map.1 hr
    obtain rfl := RecordData.dnskey.inj (RecordData.eq_of_beq hk nofun)
    exact hl
  · intro hk
    exact ⟨_, List.mem_map_of_mem hk, BEq.rfl⟩

/-- **The plans bring keys in line.** -/
theorem Acted.keysInLine (hn : n.Apart) (hs : s.state.members n.zone = .ok n.members)
    (h : n.Acted .syncDnskeys (n.keyPlans s) s t) (hstate : t.state = n.keyOrigins s) :
    n.KeysInLine s t where
  origins print := by
    rw [hstate]
    exact get?_origins_of_sync print
  staying m hm k := by
    have hrecords := h.records_of_mem (List.mem_map_of_mem (mem_staying_views.2 ⟨m, hm, rfl⟩))
    simp only [Sync.Dnskeys.plan, SignerView.member_viewOf] at hrecords
    rw [Shows, hrecords, hstate, ChangeSet.serves_applyTo, serves_missing hs hm, serves_withdrawn]
    simp only [List.not_mem_nil, not_false_eq_true, true_and]
    constructor
    · rintro (⟨hshow, hstays⟩ | ⟨hstays, hlacks⟩)
      · exact ⟨fun hd => hstays ⟨hshow, hd⟩, .inl hshow⟩
      · exact ⟨hstays, .inr hlacks⟩
    · rintro ⟨hstays, hshow | hlacks⟩
      · exact .inl ⟨hshow, fun hd => hstays hd.2⟩
      · exact .inr ⟨hstays, hlacks⟩
  leaving m hm k := by
    rw [Shows, h.records_of_not_mem hn hm.1, Shows]
    rintro p hp rfl
    obtain ⟨v, hv, rfl⟩ := List.mem_map.1 hp
    have hl := (Automation.mem_staying.1 hv).2
    exact Bool.false_ne_true (hl.symm.trans hm.2)

/-- **Syncing keys brings them in line.** -/
theorem achieves_syncDnskeys (hn : n.Faithful) (ha : n.Addressed) (hs : n.Found s)
    (htags : n.Tagged s) :
    Achieves n.outside s (planning n.zone .syncDnskeys >>= Push.push n.zone) fun _ t =>
      (∃ plans, n.Acted .syncDnskeys plans s t) ∧ n.KeysInLine s t := by
  have hplan := achieves_planning_syncDnskeys hn ha hs htags
  refine (achieves_act hn ha hs keyPlans_members hplan).imp fun _ t ⟨hacted, u, hstate, hu⟩ => ?_
  exact ⟨⟨_, hacted⟩, hacted.keysInLine hn.members_apart hs.documented.members (hstate.trans hu)⟩

end Keys

/-! ## 3. References to keys -/

/-- The references to all keys that sign keys at signers which stay can be computed. -/
def Delegable (n : Deployment ω) (s : Session ω) : Prop :=
  ∀ m, n.Stays m → ∀ k, n.Shows s m (.dnskey k) → k.role = .keySigning →
    ∃ d, k.delegation n.zone .sha256 = .ok d

section References

open Sync.KeyReferences (Source Request sources request requests)

/-- What is asked of signers before the parent is asked to refer to their keys. -/
abbrev referenceViews (n : Deployment ω) (s : Session ω) : List SignerView :=
  n.views [.dnskey, .cds, .cdnskey] s

/-- The records that ask for references. -/
def requested (n : Deployment ω) (s : Session ω) : List Record :=
  (requests n.zone (n.referenceViews s)).items.flatMap Request.records

/-- A signer that stays has a key that signs keys. -/
def SignsKeys (n : Deployment ω) (s : Session ω) (k : Dnskey) : Prop :=
  ∃ m, n.Stays m ∧ n.Shows s m (.dnskey k) ∧ k.role = .keySigning

theorem mem_sources {x : Source} (hx : x ∈ sources (n.referenceViews s)) :
    n.SignsKeys s x.key := by
  rcases mem_of_mem_once hx with hx | hx
  · cases hx
  · obtain ⟨v, hv, hx⟩ := List.mem_flatMap.1 hx
    obtain ⟨m, hm, rfl⟩ := mem_staying_views.1 hv
    obtain ⟨k, hk, rfl⟩ := List.mem_map.1 hx
    exact ⟨m, hm, (mem_keySigningKeys_view (by decide)).1 hk⟩

theorem exists_source {k : Dnskey} (hk : n.SignsKeys s k) :
    ∃ x ∈ sources (n.referenceViews s), x.key = k := by
  obtain ⟨m, hm, hk⟩ := hk
  have hmem : (⟨.viewOf [.dnskey, .cds, .cdnskey] (n.records s m) m, k⟩ : Source)
      ∈ (staying (n.referenceViews s)).flatMap fun v => v.keySigningKeys.map fun k => ⟨v, k⟩ :=
    List.mem_flatMap.2 ⟨_, mem_staying_views.2 ⟨m, hm, rfl⟩,
      List.mem_map_of_mem ((mem_keySigningKeys_view (by decide)).2 hk)⟩
  have hseen := seen_once (fun (found : List Source) x => found.any fun f => f.key == x.key)
    (fun hsub hany => by
      obtain ⟨x, hx, hsame⟩ := List.any_eq_true.1 hany
      exact List.any_eq_true.2 ⟨x, hsub hx, hsame⟩)
    (fun l x hx => List.any_eq_true.2 ⟨x, hx, beq_self_eq_true _⟩) [] hmem
  obtain ⟨x, hx, hsame⟩ := List.any_eq_true.1 hseen
  exact ⟨x, hx, beq_iff_eq.1 hsame⟩

theorem request_eq_ok {x : Source} {d : Ds} (hd : x.key.delegation n.zone .sha256 = .ok d) :
    ∃ q, request n.zone x = .ok q ∧
      q.records = [⟨x.view.dnskeyTtl, .cds d⟩, ⟨x.view.dnskeyTtl, .cdnskey x.key⟩] := by
  obtain ⟨-, -, tag, -, htag, -⟩ := Dnskey.delegation_eq_ok.1 hd
  have hrequest : request n.zone x = .ok
      ⟨s!"KSK {tag} of {x.view.name}: CDS {(RecordData.cds d).text}",
        [⟨x.view.dnskeyTtl, .cds d⟩, ⟨x.view.dnskeyTtl, .cdnskey x.key⟩]⟩ := by
    simp only [request, hd, htag]
    rfl
  exact ⟨_, hrequest, rfl⟩

theorem sound_requests (hdel : n.Delegable s) :
    Report.Sound (requests n.zone (n.referenceViews s)) := by
  intro y hy
  obtain ⟨x, hx, rfl⟩ := List.mem_map.1 hy
  obtain ⟨m, hm, hk, hrole⟩ := mem_sources hx
  obtain ⟨d, hd⟩ := hdel m hm _ hk hrole
  obtain ⟨q, hq, -⟩ := request_eq_ok hd
  exact ⟨q, hq⟩

/-- **What is asked for** are references to just those keys that sign keys. -/
theorem serves_requested (hdel : n.Delegable s) {data : RecordData} :
    Serves (n.requested s) data ↔ ∃ k, n.SignsKeys s k ∧
      ∃ d, k.delegation n.zone .sha256 = .ok d ∧ (data = .cds d ∨ data = .cdnskey k) := by
  constructor
  · rintro ⟨r, hr, hdata⟩
    obtain ⟨q, hq, hr⟩ := List.mem_flatMap.1 hr
    obtain ⟨x, hx, hrequest⟩ := List.mem_map.1 (ok_mem_of_mem_items hq)
    obtain ⟨d, hd, -⟩ := bind_eq_ok.1 hrequest
    obtain ⟨q', hq', hrecords⟩ := request_eq_ok hd
    obtain rfl : q' = q := Except.ok.inj (hq'.symm.trans hrequest)
    refine ⟨x.key, mem_sources hx, d, hd, ?_⟩
    rw [hrecords, List.mem_cons, List.mem_singleton] at hr
    rcases hr with rfl | rfl
    · exact .inl (RecordData.eq_of_beq (BEq.symm hdata) nofun)
    · exact .inr (RecordData.eq_of_beq (BEq.symm hdata) nofun)
  · rintro ⟨k, hk, d, hd, hdata⟩
    obtain ⟨x, hx, rfl⟩ := exists_source hk
    obtain ⟨q, hq, hrecords⟩ := request_eq_ok hd
    have hmem : q ∈ (requests n.zone (n.referenceViews s)).items :=
      (sound_requests hdel).mem_items (hq ▸ List.mem_map_of_mem hx)
    refine ⟨⟨x.view.dnskeyTtl, data⟩, List.mem_flatMap.2 ⟨q, hmem, ?_⟩, BEq.rfl⟩
    rw [hrecords]
    rcases hdata with rfl | rfl
    · exact List.mem_cons_self
    · exact List.mem_cons_of_mem _ List.mem_cons_self

/-- There is something to ask for just if there is a key that signs keys. -/
theorem requested_eq_nil (hdel : n.Delegable s) :
    n.requested s = [] ↔ ∀ k, ¬ n.SignsKeys s k := by
  constructor
  · rintro hnil k hk
    obtain ⟨m, hm, hshow, hrole⟩ := hk
    obtain ⟨d, hd⟩ := hdel m hm k hshow hrole
    have hasked := (serves_requested hdel).2 ⟨k, ⟨m, hm, hshow, hrole⟩, d, hd, .inl rfl⟩
    rw [hnil] at hasked
    exact serves_nil hasked
  · intro hnone
    rw [List.eq_nil_iff_forall_not_mem]
    intro r hr
    obtain ⟨k, hk, -⟩ := (serves_requested hdel).1 ⟨r, hr, BEq.rfl⟩
    exact hnone k hk

/-- The plans for asking, of which there are none if there is nothing to ask for. -/
def referencePlans (n : Deployment ω) (s : Session ω) : List Plan :=
  if (n.requested s).isEmpty then []
  else (staying (n.referenceViews s)).map (Sync.KeyReferences.plan (n.requested s))

theorem referencePlans_members : ((n.referencePlans s).map Plan.member).Sublist n.members := by
  rw [referencePlans]
  split
  · exact List.nil_sublist _
  · rw [List.map_map]
    exact staying_map_member [.dnskey, .cds, .cdnskey] s

/-- Once the signers were asked, planning succeeds if all references can be computed. -/
theorem planning_syncCds_of_views {P : ω → Prop}
    (hviews : Achieves n.outside s (observeGroup n.zone [.dnskey, .cds, .cdnskey]) fun vs u =>
      vs = n.referenceViews s ∧ n.Still s u ∧ P u.world) (hdel : n.Delegable s) :
    Achieves n.outside s (planning n.zone .syncCds) fun ps u =>
      (ps = n.referencePlans s ∧ n.holds u.world = n.holds s.world ∧ P u.world) ∧
        u.state = s.state := by
  refine hviews.bind fun views u ⟨hviews, hu, hp⟩ => ?_
  subst hviews
  have hlines : Report.Sound ((requests n.zone (n.referenceViews s)).map
      fun r => r.map Request.line) := by
    intro y hy
    obtain ⟨r, hr, rfl⟩ := List.mem_map.1 hy
    obtain ⟨q, rfl⟩ := sound_requests hdel r hr
    exact ⟨q.line, rfl⟩
  refine Achieves.after (perform_tell_of_sound hlines) ?_
  rw [referencePlans]
  by_cases hempty : (n.requested s).isEmpty = true
  · rw [if_pos hempty]
    simp only [requested] at hempty
    simp only [hempty, if_true]
    exact Achieves.after (perform_line _) (achieves_pure ⟨⟨rfl, hu.holds, hp⟩, hu.state⟩)
  · rw [if_neg hempty]
    simp only [requested] at hempty
    simp only [hempty, if_false, Bool.false_eq_true]
    exact achieves_pure ⟨⟨rfl, hu.holds, hp⟩, hu.state⟩

theorem achieves_planning_syncCds (hn : n.Faithful) (ha : n.Addressed) (hs : n.Found s)
    (hdel : n.Delegable s) :
    Achieves n.outside s (planning n.zone .syncCds) fun ps u =>
      ps = n.referencePlans s ∧ n.holds u.world = n.holds s.world ∧ u.state = s.state := by
  have hviews : Achieves n.outside s (observeGroup n.zone [.dnskey, .cds, .cdnskey]) fun vs u =>
      vs = n.referenceViews s ∧ n.Still s u ∧ True :=
    (achieves_observeGroup hn ha hs _).imp fun _ _ h => ⟨h.1, h.2, trivial⟩
  exact (planning_syncCds_of_views (P := fun _ => True) hviews hdel).imp
    fun _ _ ⟨⟨hps, hholds, _⟩, hstate⟩ => ⟨hps, hholds, hstate⟩

/-- Requests can only be made if all references can be computed. -/
theorem delegable_of_sound (h : Report.Sound (requests n.zone (n.referenceViews s))) :
    n.Delegable s := by
  intro m hm k hk hrole
  obtain ⟨x, hx, rfl⟩ := exists_source ⟨m, hm, hk, hrole⟩
  obtain ⟨q, hq⟩ := h _ (List.mem_map_of_mem hx)
  obtain ⟨d, hd, -⟩ := bind_eq_ok.1 hq
  exact ⟨d, hd⟩

/-- So telling of the requests succeeds just then. -/
theorem delegable_of_lines (h : Report.failure? ((requests n.zone (n.referenceViews s)).map
    fun r => r.map Request.line) = none) : n.Delegable s := by
  refine delegable_of_sound fun r hr => ?_
  obtain ⟨line, hline⟩ := Report.sound_of_failure? h _ (List.mem_map_of_mem hr)
  cases r with
  | error e => cases hline
  | ok q => exact ⟨q, rfl⟩

/-- **Syncing references fails if one of them can not be computed.** -/
theorem fails_planning_syncCds (hn : n.Faithful) (ha : n.Addressed) (hs : n.Found s)
    (hnot : ¬ n.Delegable s) :
    ∃ e t, (planning n.zone .syncCds).perform n.outside s = (.error e, t) := by
  obtain ⟨views, u, hviews, rfl, -⟩ := achieves_observeGroup hn ha hs [.dnskey, .cds, .cdnskey]
  have hfailure : ∃ e, Report.failure? ((requests n.zone (n.referenceViews s)).map
      fun r => r.map Request.line) = some e :=
    Option.ne_none_iff_exists'.1 fun hnone => hnot (delegable_of_lines hnone)
  obtain ⟨e, he⟩ := hfailure
  simp only [planning, perform_bind, hviews, Operation.tell, perform_lines, he, perform_throw]
  exact ⟨e, _, rfl⟩

/-- The signers that stay ask the parent to refer to just those keys that sign keys, and to each of
them once. -/
structure KeysAsked (n : Deployment ω) (start t : Session ω) : Prop where
  cds : ∀ m, n.Stays m → ∀ d, n.Shows t m (.cds d) ↔
    ∃ k, n.SignsKeys start k ∧ k.delegation n.zone .sha256 = .ok d
  cdnskey : ∀ m, n.Stays m → ∀ k, n.Shows t m (.cdnskey k) ↔ n.SignsKeys start k
  once : ∀ m, n.Stays m → ∀ d : RecordData, d.kind ∈ Sync.KeyReferences.kinds →
    ((n.records t m).countP fun r => r.data == d) ≤ 1

/-- **The plans ask for references**, if there are keys that sign keys. -/
theorem Acted.keysAsked (hdel : n.Delegable s) (hsome : ∃ k, n.SignsKeys s k)
    (h : n.Acted .syncCds (n.referencePlans s) s t) : n.KeysAsked s t := by
  have hrecords : ∀ m, n.Stays m → n.records t m
      = ChangeSet.applyTo { inserts := n.requested s, removeKinds := Sync.KeyReferences.kinds }
        (n.records s m) := fun m hm => by
    have hplan : Sync.KeyReferences.plan (n.requested s)
        (.viewOf [.dnskey, .cds, .cdnskey] (n.records s m) m) ∈ n.referencePlans s := by
      obtain ⟨k, hk⟩ := hsome
      rw [referencePlans, if_neg fun hempty =>
        (requested_eq_nil hdel).1 (List.isEmpty_iff.1 hempty) k hk]
      exact List.mem_map_of_mem (mem_staying_views.2 ⟨m, hm, rfl⟩)
    have hmade := h.records_of_mem hplan
    simpa only [Sync.KeyReferences.plan, SignerView.member_viewOf] using hmade
  have hshows : ∀ m, n.Stays m → ∀ d : RecordData, d.kind ∈ Sync.KeyReferences.kinds →
      (n.Shows t m d ↔ Serves (n.requested s) d) := fun m hm d hd => by
    rw [Shows, hrecords m hm, ChangeSet.serves_applyTo]
    exact or_iff_right fun hkept => hkept.2.1 hd
  refine ⟨fun m hm d => ?_, fun m hm k => ?_, fun m hm d hd => ?_⟩
  · rw [hshows m hm _ (show RecordKind.cds ∈ _ by decide), serves_requested hdel]
    constructor
    · rintro ⟨k, hk, e, he, hdata | hdata⟩
      · cases hdata
        exact ⟨k, hk, he⟩
      · cases hdata
    · rintro ⟨k, hk, hd⟩
      exact ⟨k, hk, d, hd, .inl rfl⟩
  · rw [hshows m hm _ (show RecordKind.cdnskey ∈ _ by decide), serves_requested hdel]
    constructor
    · rintro ⟨l, hl, e, -, hdata | hdata⟩
      · cases hdata
      · cases hdata
        exact hl
    · rintro ⟨x, hx, hshow, hrole⟩
      obtain ⟨d, hd⟩ := hdel x hx k hshow hrole
      exact ⟨k, ⟨x, hx, hshow, hrole⟩, d, hd, .inr rfl⟩
  · rw [hrecords m hm]
    exact ChangeSet.countP_applyTo_le hd

/-- Keys that are asked for are referred to, as long as no others come up. -/
theorem KeysAsked.referred {start : Session ω} (h : n.KeysAsked start t) (hdel : n.Delegable start)
    (hkeys : ∀ k, n.SignsKeys t k → n.SignsKeys start k) : n.KeysReferred t where
  cds m m' hm hm' k hk hrole := by
    obtain ⟨x, hx, hshow, -⟩ := hkeys k ⟨m', hm', hk, hrole⟩
    obtain ⟨d, hd⟩ := hdel x hx k hshow hrole
    exact ⟨d, (h.cds m hm d).2 ⟨k, ⟨x, hx, hshow, hrole⟩, hd⟩, Dnskey.isReferredBy_delegation hd⟩
  cdnskey m m' hm hm' k hk hrole := (h.cdnskey m hm k).2 (hkeys k ⟨m', hm', hk, hrole⟩)

/-- Asking for references leaves the keys alone. -/
theorem Acted.signsKeys (hn : n.Apart) {plans : List Plan} (h : n.Acted .syncCds plans s t)
    (k : Dnskey) : n.SignsKeys t k ↔ n.SignsKeys s k :=
  exists_congr fun m => and_congr_right fun hm => and_congr_left fun _ =>
    h.frame hn hm.1 (show RecordKind.dnskey ∉ touched .syncCds by decide)

/-- **Syncing references makes every key that signs keys referred to**, also if there are none. -/
theorem Acted.keysReferred (hn : n.Apart) (hdel : n.Delegable s)
    (h : n.Acted .syncCds (n.referencePlans s) s t) : n.KeysReferred t := by
  by_cases hsome : ∃ k, n.SignsKeys s k
  · exact (h.keysAsked hdel hsome).referred hdel fun k => (h.signsKeys hn k).1
  · have hnone : ∀ k, ¬ n.SignsKeys t k := fun k hk => hsome ⟨k, (h.signsKeys hn k).1 hk⟩
    exact ⟨fun m m' _ hm' k hk hrole => absurd ⟨m', hm', hk, hrole⟩ (hnone k),
      fun m m' _ hm' k hk hrole => absurd ⟨m', hm', hk, hrole⟩ (hnone k)⟩

/-- **Syncing references asks the parent for every key that signs keys.** -/
theorem achieves_syncCds (hn : n.Faithful) (ha : n.Addressed) (hs : n.Found s)
    (hdel : n.Delegable s) :
    Achieves n.outside s (planning n.zone .syncCds >>= Push.push n.zone) fun _ t =>
      (∃ plans, n.Acted .syncCds plans s t) ∧ t.state = s.state ∧ n.KeysReferred t := by
  have hplan := achieves_planning_syncCds hn ha hs hdel
  refine (achieves_act hn ha hs referencePlans_members hplan).imp
    fun _ t ⟨hacted, u, hstate, hu⟩ => ?_
  exact ⟨⟨_, hacted⟩, hstate.trans hu, hacted.keysReferred hn.members_apart hdel⟩

end References

/-! ## 4. Name servers -/

section Names

open Evaluation (isOneOf leavingNames isOneOf_iff)
open Sync.Nameservers (addTtl candidates desired)

/-- The names that every signer should serve: those that some signer serves or stays under, without
those of the signers that are leaving. -/
def Wanted (n : Deployment ω) (s : Session ω) (name : DomainName) : Prop :=
  ((∃ m ∈ n.members, n.Shows s m (.ns name)) ∨
    ∃ m, n.Stays m ∧ (m.signer.nameserver == name) = true) ∧
      ¬ ∃ m, n.Leaves m ∧ (m.signer.nameserver == name) = true

/-- All signers serve the names that were wanted. -/
def NamesInLine (n : Deployment ω) (start t : Session ω) : Prop :=
  ∀ m ∈ n.members, ∀ name, n.Shows t m (.ns name) ↔ n.Wanted start name

/-- Names in line are shared. -/
theorem NamesInLine.shared {start : Session ω} (h : n.NamesInLine start t) : n.NamesShared t where
  same m hm m' hm' name hshow := (h m' hm' name).2 ((h m hm name).1 hshow)
  staying m hm x hx hshow := ((h m hm _).1 hshow).2 ⟨x, hx, BEq.rfl⟩

variable {map : OrderedMap DomainName UInt32} {name : DomainName}

theorem get?_addTtl {l : DomainName} {ttl : UInt32} :
    (addTtl map l ttl).get? name
      = (map.get? name).or (if (l == name) = true then some ttl else none) := by
  rw [addTtl, OrderedMap.get?_insertNew]
  simp only [DomainName.compare_eq_iff_beq]

theorem get?_addTtls {ttl : UInt32} : ∀ {names : List DomainName}
    {map : OrderedMap DomainName UInt32},
      (names.foldl (fun map l => addTtl map l ttl) map).get? name
        = (map.get? name).or (if isOneOf names name = true then some ttl else none)
  | [], map => by simp [isOneOf]
  | l :: names, map => by
    rw [List.foldl_cons, get?_addTtls, get?_addTtl, Option.or_assoc, isOneOf, isOneOf, List.any_cons]
    cases (l == name) <;> simp

/-- A name gets the time to live of the first view that shows it. -/
theorem get?_served : ∀ {views : List SignerView} {map : OrderedMap DomainName UInt32},
    (views.foldl (fun map v => v.ns.foldl (fun map l => addTtl map l v.nsTtl) map) map).get? name
      = (map.get? name).or ((views.find? fun v => isOneOf v.ns name).map SignerView.nsTtl)
  | [], map => by simp
  | v :: views, map => by
    rw [List.foldl_cons, get?_served, get?_addTtls, Option.or_assoc]
    cases hv : isOneOf v.ns name <;> simp [hv]

/-- A name that no signer serves gets the time to live of the group. -/
theorem get?_advertised {ttl : UInt32} : ∀ {views : List SignerView}
    {map : OrderedMap DomainName UInt32},
      (views.foldl (fun map v => addTtl map v.nameserver ttl) map).get? name
        = (map.get? name).or
          (if views.any (fun v => v.nameserver == name) = true then some ttl else none)
  | [], map => by simp
  | v :: views, map => by
    rw [List.foldl_cons, get?_advertised, get?_addTtl, Option.or_assoc, List.any_cons]
    cases (v.nameserver == name) <;> simp

/-- **The names to serve**, each with its time to live. -/
theorem get?_desired {views : List SignerView} {ttl : UInt32} : (desired views ttl).get? name
    = if isOneOf (leavingNames views) name = true then none
      else ((views.find? fun v => isOneOf v.ns name).map SignerView.nsTtl).or
        (if (staying views).any (fun v => v.nameserver == name) = true then some ttl else none) := by
  have hspelling : ∀ l : DomainName, compare name l = .eq →
      isOneOf (leavingNames views) l = isOneOf (leavingNames views) name := by
    intro l hl
    have hsame := DomainName.compare_eq_iff_beq.1 hl
    rw [Bool.eq_iff_iff, isOneOf_iff, isOneOf_iff]
    constructor
    · rintro ⟨x, hx, hxl⟩
      exact ⟨x, hx, BEq.trans hxl hsame⟩
    · rintro ⟨x, hx, hxname⟩
      exact ⟨x, hx, BEq.trans hxname (BEq.symm hsame)⟩
  rw [desired, OrderedMap.get?_filter_of_keys _ _ _ fun l hl => by rw [hspelling l hl], candidates,
    get?_advertised, get?_served, OrderedMap.get?_empty, Option.none_or]
  cases isOneOf (leavingNames views) name <;> rfl

/-- **The names to serve are those wanted.** -/
theorem contains_desired {ttl : UInt32} :
    (desired (n.views [.ns] s) ttl).contains name = true ↔ n.Wanted s name := by
  have hserved : ((n.views [.ns] s).find? fun v => isOneOf v.ns name).isSome = true
      ↔ ∃ m ∈ n.members, n.Shows s m (.ns name) := by
    rw [List.find?_isSome]
    constructor
    · rintro ⟨v, hv, hname⟩
      obtain ⟨m, hm, rfl⟩ := mem_views.1 hv
      exact ⟨m, hm, (isOneOf_ns_view (by decide)).1 hname⟩
    · rintro ⟨m, hm, hshow⟩
      exact ⟨_, mem_views.2 ⟨m, hm, rfl⟩, (isOneOf_ns_view (by decide)).2 hshow⟩
  have hstaying : (staying (n.views [.ns] s)).any (fun v => v.nameserver == name) = true
      ↔ ∃ m, n.Stays m ∧ (m.signer.nameserver == name) = true := by
    rw [List.any_eq_true]
    constructor
    · rintro ⟨v, hv, hname⟩
      obtain ⟨m, hm, rfl⟩ := mem_staying_views.1 hv
      rw [SignerView.nameserver, SignerView.member_viewOf] at hname
      exact ⟨m, hm, hname⟩
    · rintro ⟨m, hm, hname⟩
      refine ⟨_, mem_staying_views.2 ⟨m, hm, rfl⟩, ?_⟩
      rwa [SignerView.nameserver, SignerView.member_viewOf]
  have hleaving : isOneOf (leavingNames (n.views [.ns] s)) name = true
      ↔ ∃ m, n.Leaves m ∧ (m.signer.nameserver == name) = true := isOneOf_leavingNames
  rw [Wanted, ← hserved, ← hstaying, ← hleaving, OrderedMap.contains, get?_desired]
  cases isOneOf (leavingNames (n.views [.ns] s)) name with
  | true => simp
  | false =>
    cases (staying (n.views [.ns] s)).any fun v => v.nameserver == name <;> simp

/-- The names that a plan takes out are those of leaving signers. -/
theorem serves_withdrawnNames {ttl : UInt32} :
    Serves ((Sync.Nameservers.plan (n.views [.ns] s) ttl
      (.viewOf [.ns] (n.records s m) m)).changes.removes) (.ns name)
        ↔ n.Shows s m (.ns name) ∧ ∃ x, n.Leaves x ∧ (x.signer.nameserver == name) = true := by
  have hleft : ∀ l, isOneOf (leavingNames (n.views [.ns] s)) l = true
      ↔ ∃ x, n.Leaves x ∧ (x.signer.nameserver == l) = true := fun l => isOneOf_leavingNames
  constructor
  · rintro ⟨r, hr, hname⟩
    obtain ⟨l, hl, rfl⟩ := List.mem_map.1 hr
    obtain ⟨hl, hleaves⟩ := List.mem_filter.1 hl
    have hsame : (l == name) = true := hname
    obtain ⟨x, hx, hxl⟩ := (hleft l).1 hleaves
    exact ⟨(isOneOf_ns_view (by decide)).1 (isOneOf_iff.2 ⟨l, hl, hsame⟩), x, hx,
      BEq.trans hxl hsame⟩
  · rintro ⟨hshow, x, hx, hxname⟩
    obtain ⟨l, hl, hsame⟩ := isOneOf_iff.1
      ((isOneOf_ns_view (show .ns ∈ [RecordKind.ns] by decide)).2 hshow)
    have hleaves := (hleft l).2 ⟨x, hx, BEq.trans hxname (BEq.symm hsame)⟩
    exact ⟨_, List.mem_map_of_mem (List.mem_filter.2 ⟨hl, hleaves⟩), hsame⟩

/-- The names that it puts in are those wanted that are not served. -/
theorem serves_newNames {ttl : UInt32} :
    Serves ((Sync.Nameservers.plan (n.views [.ns] s) ttl
      (.viewOf [.ns] (n.records s m) m)).changes.inserts) (.ns name)
        ↔ n.Wanted s name ∧ ¬ n.Shows s m (.ns name) := by
  have hserved : ∀ {l : DomainName}, (l == name) = true →
      (isOneOf (SignerView.viewOf [.ns] (n.records s m) m).ns l = true
        ↔ n.Shows s m (.ns name)) := fun hsame => by
    rw [isOneOf_ns_view (by decide)]
    exact ⟨fun h => Serves.congr h hsame, fun h => Serves.congr h (BEq.symm hsame)⟩
  rw [← contains_desired (n := n) (s := s), OrderedMap.contains_iff]
  constructor
  · rintro ⟨r, hr, hname⟩
    obtain ⟨⟨l, keep⟩, he, rfl⟩ := List.mem_map.1 hr
    obtain ⟨he, hlacks⟩ := List.mem_filter.1 he
    have hsame : (l == name) = true := hname
    refine ⟨⟨_, he, DomainName.compare_eq_iff_beq.2 hsame⟩, fun hshow => ?_⟩
    simp only [(hserved hsame).2 hshow] at hlacks
    cases hlacks
  · rintro ⟨⟨⟨l, keep⟩, he, hsame⟩, hlacks⟩
    have hsame := DomainName.compare_eq_iff_beq.1 hsame
    refine ⟨⟨keep, .ns l⟩, List.mem_map.2 ⟨(l, keep), List.mem_filter.2 ⟨he, ?_⟩, rfl⟩, hsame⟩
    simp only [Bool.not_eq_true', ← Bool.not_eq_true, hserved hsame]
    exact hlacks

/-- **What the plan of a signer makes of its names.** -/
theorem serves_plan_ns (hm : m ∈ n.members) {ttl : UInt32} :
    Serves ((Sync.Nameservers.plan (n.views [.ns] s) ttl
      (.viewOf [.ns] (n.records s m) m)).changes.applyTo (n.records s m)) (.ns name)
        ↔ n.Wanted s name := by
  rw [ChangeSet.serves_applyTo, serves_withdrawnNames, serves_newNames]
  constructor
  · rintro (⟨hshow, -, hstays⟩ | ⟨hwanted, -⟩)
    · exact ⟨.inl ⟨m, hm, hshow⟩, fun hleaves => hstays ⟨hshow, hleaves⟩⟩
    · exact hwanted
  · intro hwanted
    by_cases hshow : n.Shows s m (.ns name)
    · exact .inl ⟨hshow, List.not_mem_nil, fun h => hwanted.2 h.2⟩
    · exact .inr ⟨hwanted, hshow⟩

/-- The plans for bringing names in line. -/
def namePlans (n : Deployment ω) (s : Session ω) (ttl : UInt32) : List Plan :=
  (n.views [.ns] s).map (Sync.Nameservers.plan (n.views [.ns] s) ttl)

theorem namePlans_members {ttl : UInt32} : (n.namePlans s ttl).map Plan.member = n.members := by
  rw [namePlans, List.map_map]
  exact n.views_map_member [.ns] s

/-- **The plans bring names in line.** -/
theorem Acted.namesInLine {ttl : UInt32} (h : n.Acted .syncNs (n.namePlans s ttl) s t) :
    n.NamesInLine s t := by
  intro m hm name
  have hrecords := h.records_of_mem (List.mem_map_of_mem (mem_views.2 ⟨m, hm, rfl⟩))
  have hmember : (Sync.Nameservers.plan (n.views [.ns] s) ttl
      (.viewOf [.ns] (n.records s m) m)).member = m := SignerView.member_viewOf _ _ m
  rw [hmember] at hrecords
  rw [Shows, hrecords]
  exact serves_plan_ns hm

/-- Once the signers were asked, planning succeeds. -/
theorem planning_syncNs_of_views {P : ω → Prop} {g : Group}
    (hviews : Achieves n.outside s (observeGroup n.zone [.ns]) fun vs u =>
      vs = n.views [.ns] s ∧ n.Still s u ∧ P u.world)
    (hg : s.state.groups.get? n.zone = some g) :
    Achieves n.outside s (planning n.zone .syncNs) fun ps u =>
      (ps = n.namePlans s g.ttl ∧ n.holds u.world = n.holds s.world ∧ P u.world) ∧
        u.state.dnskeyOrigin = s.state.dnskeyOrigin := by
  refine hviews.bind fun views u ⟨hviews, hu, hp⟩ => ?_
  subst hviews
  refine Achieves.after perform_state (Achieves.after (perform_group (hu.state ▸ hg)) ?_)
  refine Achieves.after (perform_modifyState _) (Achieves.after (perform_lines _) ?_)
  refine achieves_pure ⟨⟨rfl, hu.holds, hp⟩, ?_⟩
  rw [← hu.state]
  exact dnskeyOrigin_nsOrigins _ _

theorem achieves_planning_syncNs (hn : n.Faithful) (ha : n.Addressed) (hs : n.Found s) :
    ∃ ttl, Achieves n.outside s (planning n.zone .syncNs) fun ps u =>
      ps = n.namePlans s ttl ∧ n.holds u.world = n.holds s.world ∧
        u.state.dnskeyOrigin = s.state.dnskeyOrigin := by
  obtain ⟨g, hg, -⟩ := hs.documented.parent
  have hviews : Achieves n.outside s (observeGroup n.zone [.ns]) fun vs u =>
      vs = n.views [.ns] s ∧ n.Still s u ∧ True :=
    (achieves_observeGroup hn ha hs [.ns]).imp fun _ _ h => ⟨h.1, h.2, trivial⟩
  exact ⟨g.ttl, (planning_syncNs_of_views (P := fun _ => True) hviews hg).imp
    fun _ _ ⟨⟨hps, hholds, _⟩, hstate⟩ => ⟨hps, hholds, hstate⟩⟩

/-- **Syncing names brings them in line.** -/
theorem achieves_syncNs (hn : n.Faithful) (ha : n.Addressed) (hs : n.Found s) :
    Achieves n.outside s (planning n.zone .syncNs >>= Push.push n.zone) fun _ t =>
      (∃ plans, n.Acted .syncNs plans s t) ∧ t.state.dnskeyOrigin = s.state.dnskeyOrigin ∧
        n.NamesInLine s t := by
  obtain ⟨ttl, hplan⟩ := achieves_planning_syncNs hn ha hs
  refine (achieves_act hn ha hs (by rw [namePlans_members]) hplan).imp
    fun _ t ⟨hacted, u, hstate, horigins⟩ => ?_
  exact ⟨⟨_, hacted⟩, by rw [hstate, horigins], hacted.namesInLine⟩

end Names

/-! ## 5. Record sets that come and go -/

section Requests

open Sync.DelegationRequest (serial? serial)

/-- Every signer serves the start of the zone. -/
def Started (n : Deployment ω) (s : Session ω) : Prop :=
  ∀ m ∈ n.members, ∃ k, n.Shows s m (.soa k)

/-- The serial number that a member serves, zero if there is none. -/
def serialOf (n : Deployment ω) (s : Session ω) (m : Member) : UInt32 :=
  (serial? ⟨(n.records s m).filter fun r => r.kind == .soa⟩).getD 0

theorem serial?_isSome {rs : List Record} {k : UInt32} (h : Serves rs (.soa k)) :
    (serial? ⟨rs⟩).isSome = true := by
  obtain ⟨r, hr, hk⟩ := h
  rw [serial?, List.findSome?_isSome_iff]
  refine ⟨r, hr, ?_⟩
  rw [RecordData.eq_of_beq hk nofun]
  rfl

theorem achieves_serial (hn : n.Faithful) (ha : n.Addressed) (hs : n.Found s) (hsoa : n.Started s)
    (hm : m ∈ n.members) :
    Achieves n.outside s (serial n.zone m) fun k t => k = n.serialOf s m ∧ n.Still s t := by
  refine Achieves.after (perform_checkAddress (ha.members m hm)) ?_
  refine (achieves_query hn (hs.serving.holds_eq hm) .soa).bind fun a t ⟨hanswer, ht⟩ => ?_
  subst hanswer
  obtain ⟨k, hk⟩ := hsoa m hm
  obtain ⟨l, hl⟩ := Option.isSome_iff_exists.1 (serial?_isSome (serves_filter.2 ⟨rfl, hk⟩))
  have hkind : (RecordData.soa k).kind = .soa := rfl
  rw [hkind] at hl
  simp only [hl]
  refine achieves_pure ⟨?_, ht⟩
  rw [serialOf, hl, Option.getD_some]

/-- **Asking the parent to take over names succeeds.** -/
theorem achieves_addCsync (hn : n.Faithful) (ha : n.Addressed) (hs : n.Found s)
    (hsoa : n.Started s) :
    Achieves n.outside s (planning n.zone .addCsync >>= Push.push n.zone) fun _ t =>
      (∃ plans, n.Acted .addCsync plans s t) ∧ t.state = s.state := by
  obtain ⟨g, hg, -⟩ := hs.documented.parent
  have hplan : Achieves n.outside s (planning n.zone .addCsync) fun ps u =>
      ps = (n.members.map fun m => Sync.DelegationRequest.plan g.ttl m (n.serialOf s m)) ∧
        n.holds u.world = n.holds s.world ∧ u.state = s.state := by
    refine Achieves.after (perform_groupMembers hs) ?_
    refine Achieves.after perform_state (Achieves.after (perform_group hg) ?_)
    refine (achieves_mapM_members fun m hm t ht => ?_).imp
      fun ps u ⟨hps, hu⟩ => ⟨hps, hu.holds, hu.state⟩
    have hsoa' : n.Started t := fun m hm => by
      obtain ⟨k, hk⟩ := hsoa m hm
      exact ⟨k, by rwa [Shows, ht.records]⟩
    refine (achieves_serial hn ha (ht.found hs) hsoa' hm).bind fun k u ⟨hk, hu⟩ => ?_
    refine (still_line _).bind fun _ v hv => achieves_pure ⟨?_, hu.trans hv⟩
    rw [hk, serialOf, ht.records, serialOf]
  have hmembers : (n.members.map fun m => Sync.DelegationRequest.plan g.ttl m
      (n.serialOf s m)).map Plan.member = n.members := by
    rw [List.map_map]
    exact List.map_id _
  exact (achieves_act hn ha hs (by rw [hmembers]) hplan).imp
    fun _ t ⟨hacted, u, hstate, hu⟩ => ⟨⟨_, hacted⟩, hstate.trans hu⟩

/-- **Record sets that are taken out are gone.** -/
theorem achieves_remove (hn : n.Faithful) (ha : n.Addressed) (hs : n.Found s) {a : Activity}
    {lines : Member → List String}
    (hplanning : (planning n.zone a : Operation ω (List Plan)) = do
      return (← groupMembers n.zone).map fun m => ⟨m, { removeKinds := touched a }, lines m⟩) :
    Achieves n.outside s (planning n.zone a >>= Push.push n.zone) fun _ t =>
      (∃ plans, n.Acted a plans s t) ∧ t.state = s.state ∧
        ∀ m ∈ n.members, ∀ d : RecordData, d.kind ∈ touched a → ¬ n.Shows t m d := by
  have hplan : Achieves n.outside s (planning n.zone a) fun ps u =>
      ps = (n.members.map fun m => ⟨m, { removeKinds := touched a }, lines m⟩) ∧
        n.holds u.world = n.holds s.world ∧ u.state = s.state := by
    rw [hplanning]
    exact Achieves.after (perform_groupMembers hs) (achieves_pure ⟨rfl, rfl, rfl⟩)
  have hmembers : (n.members.map fun m : Member =>
      (⟨m, { removeKinds := touched a }, lines m⟩ : Plan)).map Plan.member = n.members := by
    rw [List.map_map]
    exact List.map_id _
  refine (achieves_act hn ha hs (by rw [hmembers]) hplan).imp
    fun _ t ⟨hacted, u, hstate, hu⟩ => ⟨⟨_, hacted⟩, hstate.trans hu, fun m hm d hd hshow => ?_⟩
  have hrecords := hacted.records_of_mem (List.mem_map_of_mem hm)
  rw [Shows, hrecords, ChangeSet.serves_applyTo] at hshow
  rcases hshow with ⟨-, hkept, -⟩ | hput
  · exact hkept hd
  · exact serves_nil hput

end Requests

end Deployment
end MultiSigner
