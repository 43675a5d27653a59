/-
# Work that breaks off is made up for

When syncing keys, names or references breaks off, the network is left part of the way: some signers
hold what was planned for them, the others what they held (`PartWay`).  The next sync finds this and
plans anew.  `sync_recovers` says that it succeeds once all is calm, and that every signer then serves
what it would serve had nothing been refused; the origins of keys are the same as well.

For keys this rests on three facts about a network that is part of the way: it shares the same keys
of those that are to stay (`PartWay.shared_iff`), the first sync noted where all of them come from
(`PartWay.originsKnown`), and no signer lacks a key that its bytes say it has (`OneAlgorithm`).
-/
import MultiSigner.Proofs.Convergence.Interruption
import MultiSigner.Proofs.Convergence.Keys
import MultiSigner.Proofs.Convergence.Names
import MultiSigner.Proofs.Convergence.References

namespace MultiSigner

open Operation Automation

/-- Single records that are put in or taken out make a change set that is not empty. -/
theorem ChangeSet.isEmpty_eq_false {c : ChangeSet} (hc : c.removeKinds = []) :
    c.isEmpty = false ↔ ∃ d, Serves c.removes d ∨ Serves c.inserts d := by
  have hsome : ∀ {rs : List Record}, rs ≠ [] ↔ ∃ d, Serves rs d := by
    intro rs
    constructor
    · intro hne
      obtain ⟨r, hr⟩ := List.exists_mem_of_ne_nil rs hne
      exact ⟨r.data, r, hr, BEq.rfl⟩
    · rintro ⟨d, r, hr, -⟩
      exact List.ne_nil_of_mem hr
  rw [exists_or, ← hsome, ← hsome, ← not_and_or, ← Bool.not_eq_true, isEmpty, hc]
  simp only [List.isEmpty_nil, Bool.and_true, Bool.and_eq_true, List.isEmpty_iff, and_comm]

namespace Deployment

open SignerView (staying)

variable {ω : Type} {n : Deployment ω} {Calm : ω → Prop} {s s' t t' u v w : Session ω} {m : Member}
  {a : Activity} {ps : List Plan} {r : Except Error Unit} {k : Dnskey}
  {name : DomainName}

/-! ## 1. Part of the way -/

/-- Part of the way from one session to another one: each signer holds what it held at the start or
what it holds at the end. -/
def PartWay (n : Deployment ω) (s w t : Session ω) : Prop :=
  ∀ m ∈ n.members, n.records t m = n.records s m ∨ n.records t m = n.records w m

theorem PartWay.shows (h : n.PartWay s w t) (hm : m ∈ n.members) :
    (∀ d, n.Shows t m d ↔ n.Shows s m d) ∨ ∀ d, n.Shows t m d ↔ n.Shows w m d := by
  rcases h m hm with hold | hnew
  · exact .inl fun d => by rw [Shows, hold, Shows]
  · exact .inr fun d => by rw [Shows, hnew, Shows]

/-- What an activity does not touch is the same all the way. -/
theorem PartWay.frame (h : n.PartWay s w t) (hn : n.Apart) (hw : n.Acted a ps s w)
    (hm : m ∈ n.members) {d : RecordData} (hd : d.kind ∉ touched a) :
    n.Shows t m d ↔ n.Shows s m d := by
  rcases h.shows hm with hold | hnew
  · exact hold d
  · exact (hnew d).trans (hw.frame hn hm hd)

/-- Who gets nothing on the whole way and nothing after it holds the same in the end. -/
theorem PartWay.kept (h : n.PartWay s w t) (hm : m ∈ n.members)
    (hw : n.records w m = n.records s m) (hv : n.records v m = n.records t m) :
    n.records v m = n.records w m := by
  rcases h m hm with hold | hnew
  · rw [hv, hold, hw]
  · rw [hv, hnew]

/-- The document and the servers of the members, when all is calm.  Then servers take updates with
the credentials that members have. -/
structure Calmed (n : Deployment ω) (Calm : ω → Prop) (s s' : Session ω) : Prop where
  state : s'.state = s.state
  holds : ∀ m ∈ n.members, n.holds s'.world m.signer.address = n.holds s.world m.signer.address
  calm : Calm s'.world
  takes : ∀ m ∈ n.members, ∀ c, Push.credential s'.state m = .ok c → n.takes c

theorem Calmed.present (h : n.Calmed Calm s s') (hs : n.Present s) : n.Present s' := by
  refine ⟨h.state ▸ hs.members, fun m hm => ?_⟩
  rw [h.holds m hm]
  exact hs.serving m hm

theorem Calmed.records (h : n.Calmed Calm s s') (hm : m ∈ n.members) :
    n.records s' m = n.records s m := by
  rw [Deployment.records, h.holds m hm, Deployment.records]

theorem Calmed.views (h : n.Calmed Calm s s') (kinds : List RecordKind) :
    n.views kinds s' = n.views kinds s :=
  List.map_congr_left fun m hm => by rw [h.records hm]

/-- **Work that broke off came part of the way.** -/
theorem Interrupted.partWay (h : n.Interrupted a ps s t) (hs' : n.Calmed Calm s s')
    (ht' : n.Calmed Calm t t') (hw : n.Acted a ps s' w) : n.PartWay s' w t' := by
  intro m hm
  rw [ht'.records hm, hs'.records hm]
  rcases h.changed m hm with hold | ⟨p, hp, rfl, hnew⟩
  · exact .inl hold
  · rw [hnew, hw.records_of_mem (List.mem_filter.1 hp).1, hs'.records hm]
    exact .inr rfl

/-! ## 2. Keys -/

section Keys

/-- **The same keys are shared all the way**, of those that are to stay. -/
theorem PartWay.shared_iff (h : n.PartWay s w t) (hline : n.KeysInLine s w)
    (hk : ¬ n.Departed w.state.dnskeyOrigin k) :
    (∃ m, n.Stays m ∧ n.Shows t m (.dnskey k) ∧ m.shares k = true)
      ↔ ∃ m, n.Stays m ∧ n.Shows s m (.dnskey k) ∧ m.shares k = true := by
  constructor
  · rintro ⟨m, hm, hshow, hshares⟩
    rcases h.shows hm.1 with hold | hnew
    · exact ⟨m, hm, (hold _).1 hshow, hshares⟩
    · rcases ((hline.staying m hm k).1 ((hnew _).1 hshow)).2 with hshow | ⟨-, hshared⟩
      · exact ⟨m, hm, hshow, hshares⟩
      · exact hshared
  · rintro ⟨m, hm, hshow, hshares⟩
    rcases h.shows hm.1 with hold | hnew
    · exact ⟨m, hm, (hold _).2 hshow, hshares⟩
    · exact ⟨m, hm, (hnew _).2 ((hline.staying m hm k).2 ⟨hk, .inl hshow⟩), hshares⟩

/-- **The keys end up the same.** -/
theorem PartWay.keys_same (h : n.PartWay s w t) (hline : n.KeysInLine s w)
    (hone : n.OneAlgorithm s) (hv : n.KeysInLine t v)
    (horigins : v.state.dnskeyOrigin = w.state.dnskeyOrigin) (hm : m ∈ n.members) :
    n.Shows v m (.dnskey k) ↔ n.Shows w m (.dnskey k) := by
  cases hleaving : m.signer.leaving with
  | true =>
    have hm : n.Leaves m := ⟨hm, hleaving⟩
    rw [hv.leaving m hm]
    rcases h.shows hm.1 with hold | hnew
    · rw [hold, hline.leaving m hm]
    · exact hnew _
  | false =>
    have hm : n.Stays m := ⟨hm, hleaving⟩
    rw [hv.staying m hm, horigins]
    rcases h.shows hm.1 with hold | hnew
    · rw [hline.staying m hm]
      refine and_congr_right fun hk => ?_
      simp only [hold, h.shared_iff hline hk]
    · constructor
      · rintro ⟨hk, hshow | ⟨hlacks, hshared⟩⟩
        · exact (hnew _).1 hshow
        · -- what is shared and to stay is at all signers by the end, in the same bytes
          obtain ⟨x, hx, hshow, hshares⟩ := (h.shared_iff hline hk).1 hshared
          have hspread := (hline.staying x hx k).2 ⟨hk, .inl hshow⟩
          obtain ⟨l, hl, hbytes⟩ := (hline.shared hone).spread x hx k hspread hshares m hm
          exact absurd hbytes (hlacks l ((hnew _).2 hl))
      · intro hshow
        exact ⟨((hline.staying m hm k).1 hshow).1, .inl ((hnew _).2 hshow)⟩

/-- **It is known where the keys come from.** -/
theorem PartWay.originsKnown (h : n.PartWay s w t) (hline : n.KeysInLine s w)
    (horigins : t.state.dnskeyOrigin = w.state.dnskeyOrigin) : n.OriginsKnown t := by
  intro m hm k hshow hshares
  rw [horigins]
  rcases h.shows hm with hold | hnew
  · exact hline.known hm ((hold _).1 hshow) hshares
  · exact hline.originsKnown m hm k ((hnew _).1 hshow) hshares

/-- The tags of the keys can be computed again. -/
theorem PartWay.tagsTold (h : n.PartWay s w t) (hline : n.KeysInLine s w)
    (htags : n.TagsTold s w.state.dnskeyOrigin) : n.TagsTold t w.state.dnskeyOrigin := by
  intro m hm k hshow htold
  rcases h.shows hm.1 with hold | hnew
  · exact htags m hm k ((hold _).1 hshow) htold
  · obtain ⟨hk, hshow | ⟨-, x, hx, hshow, hshares⟩⟩ := (hline.staying m hm k).1 ((hnew _).1 hshow)
    · exact htags m hm k hshow htold
    · exact htags x hx k hshow (.inr hshares)

/-- What the plan of a signer changes are keys that have to go, and keys that it lacks. -/
theorem keyPlan_isEmpty {origins : OrderedMap String String}
    (hs : s.state.members n.zone = .ok n.members) (hm : n.Stays m) :
    (Sync.Dnskeys.plan (n.views [.dnskey] s) origins
        (.viewOf [.dnskey] (n.records s m) m)).changes.isEmpty = false ↔
      ∃ k, (n.Shows s m (.dnskey k) ∧ n.Departed origins k) ∨ ¬ n.Departed origins k ∧
        (∀ l, n.Shows s m (.dnskey l) → l.publicKey ≠ k.publicKey) ∧
          ∃ m', n.Stays m' ∧ n.Shows s m' (.dnskey k) ∧ m'.shares k = true := by
  have hwithin := within_dnskeys_plan (n.views [.dnskey] s) origins
    (.viewOf [.dnskey] (n.records s m) m)
  rw [ChangeSet.isEmpty_eq_false rfl]
  constructor
  · rintro ⟨d, hd⟩
    have hkind : d.kind = .dnskey := by
      rcases hd with ⟨r, hr, hrd⟩ | ⟨r, hr, hrd⟩
      · rw [← RecordData.kind_eq_of_same hrd]
        exact List.mem_singleton.1 (hwithin.removes r hr)
      · rw [← RecordData.kind_eq_of_same hrd]
        exact List.mem_singleton.1 (hwithin.inserts r hr)
    cases d with
    | dnskey k => exact ⟨k, hd.imp serves_withdrawn.1 (serves_missing hs hm).1⟩
    | cdnskey _ | ds _ | cds _ | ns _ | soa _ | csync _ => cases hkind
  · rintro ⟨k, hk⟩
    exact ⟨.dnskey k, hk.imp serves_withdrawn.2 (serves_missing hs hm).2⟩

/-- A signer that was not sent its plan gets one again only if it had one. -/
theorem PartWay.effective_keyPlans (h : n.PartWay s w t) (hline : n.KeysInLine s w)
    (hs : s.state.members n.zone = .ok n.members) (ht : t.state.members n.zone = .ok n.members)
    (hbefore : (n.keyOrigins s).dnskeyOrigin = w.state.dnskeyOrigin)
    (hafter : (n.keyOrigins t).dnskeyOrigin = w.state.dnskeyOrigin) {p : Plan}
    (hp : p ∈ Push.effective (n.keyPlans t))
    (hsame : n.records t p.member = n.records s p.member) :
    ∃ q ∈ Push.effective (n.keyPlans s), q.member = p.member := by
  obtain ⟨hp, heffective⟩ := List.mem_filter.1 hp
  obtain ⟨x, hx, rfl⟩ := List.mem_map.1 hp
  obtain ⟨m, hm, rfl⟩ := mem_staying_views.1 hx
  rw [Sync.Dnskeys.plan, SignerView.member_viewOf] at hsame
  rw [Bool.not_eq_true', keyPlan_isEmpty ht hm, hafter] at heffective
  refine ⟨_, List.mem_filter.2 ⟨List.mem_map_of_mem (mem_staying_views.2 ⟨m, hm, rfl⟩), ?_⟩, ?_⟩
  · rw [Bool.not_eq_true', keyPlan_isEmpty hs hm, hbefore]
    obtain ⟨k, ⟨hshow, hk⟩ | ⟨hk, hlacks, hshared⟩⟩ := heffective
    · refine ⟨k, .inl ⟨?_, hk⟩⟩
      rwa [Shows, ← hsame]
    · refine ⟨k, .inr ⟨hk, fun l hl => hlacks l ?_, (h.shared_iff hline hk).1 hshared⟩⟩
      rwa [Shows, hsame]
  · rw [Sync.Dnskeys.plan, Sync.Dnskeys.plan, SignerView.member_viewOf, SignerView.member_viewOf]

end Keys

/-! ## 3. Names -/

section Names

/-- **The same names are wanted all the way.** -/
theorem PartWay.wanted_iff (h : n.PartWay s w t) (hline : n.NamesInLine s w) :
    n.Wanted t name ↔ n.Wanted s name := by
  refine and_congr_left fun hstays => ?_
  constructor
  · rintro (⟨m, hm, hshow⟩ | hname)
    · rcases h.shows hm with hold | hnew
      · exact .inl ⟨m, hm, (hold _).1 hshow⟩
      · exact ((hline m hm name).1 ((hnew _).1 hshow)).1
    · exact .inr hname
  · rintro (⟨m, hm, hshow⟩ | hname)
    · rcases h.shows hm with hold | hnew
      · exact .inl ⟨m, hm, (hold _).2 hshow⟩
      · exact .inl ⟨m, hm, (hnew _).2 ((hline m hm name).2 ⟨.inl ⟨m, hm, hshow⟩, hstays⟩)⟩
    · exact .inr hname

/-- What the plan of a signer changes are names that have to go, and names that it lacks. -/
theorem namePlan_isEmpty {ttl : UInt32} :
    (Sync.Nameservers.plan (n.views [.ns] s) ttl
        (.viewOf [.ns] (n.records s m) m)).changes.isEmpty = false ↔
      ∃ name, (n.Shows s m (.ns name) ∧ ∃ x, n.Leaves x ∧ (x.signer.nameserver == name) = true) ∨
        n.Wanted s name ∧ ¬ n.Shows s m (.ns name) := by
  rw [ChangeSet.isEmpty_eq_false rfl]
  constructor
  · rintro ⟨d, hd⟩
    have hkind : d.kind = .ns := by
      rcases hd with ⟨r, hr, hrd⟩ | ⟨r, hr, hrd⟩
      all_goals
        obtain ⟨_, -, rfl⟩ := List.mem_map.1 hr
        exact (RecordData.kind_eq_of_same hrd).symm
    cases d with
    | ns name => exact ⟨name, hd.imp serves_withdrawnNames.1 serves_newNames.1⟩
    | dnskey _ | cdnskey _ | ds _ | cds _ | soa _ | csync _ => cases hkind
  · rintro ⟨name, hname⟩
    exact ⟨.ns name, hname.imp serves_withdrawnNames.2 serves_newNames.2⟩

theorem PartWay.effective_namePlans (h : n.PartWay s w t) (hline : n.NamesInLine s w)
    {ttl ttl' : UInt32} {p : Plan} (hp : p ∈ Push.effective (n.namePlans t ttl'))
    (hsame : n.records t p.member = n.records s p.member) :
    ∃ q ∈ Push.effective (n.namePlans s ttl), q.member = p.member := by
  obtain ⟨hp, heffective⟩ := List.mem_filter.1 hp
  obtain ⟨x, hx, rfl⟩ := List.mem_map.1 hp
  obtain ⟨m, hm, rfl⟩ := mem_views.1 hx
  rw [Sync.Nameservers.plan, SignerView.member_viewOf] at hsame
  rw [Bool.not_eq_true', namePlan_isEmpty] at heffective
  refine ⟨_, List.mem_filter.2 ⟨List.mem_map_of_mem (mem_views.2 ⟨m, hm, rfl⟩), ?_⟩, ?_⟩
  · rw [Bool.not_eq_true', namePlan_isEmpty]
    simpa only [h.wanted_iff hline, Shows, hsame] using heffective
  · rw [Sync.Nameservers.plan, Sync.Nameservers.plan, SignerView.member_viewOf,
      SignerView.member_viewOf]

end Names

/-! ## 4. References -/

section References

theorem PartWay.signsKeys_iff (h : n.PartWay s w t) (hn : n.Apart)
    (hw : n.Acted .syncCds ps s w) : n.SignsKeys t k ↔ n.SignsKeys s k :=
  exists_congr fun m => and_congr_right fun hm =>
    and_congr_left fun _ => h.frame hn hw hm.1 (show RecordKind.dnskey ∉ _ by decide)

theorem PartWay.delegable (h : n.PartWay s w t) (hn : n.Apart) (hw : n.Acted .syncCds ps s w)
    (hdel : n.Delegable s) : n.Delegable t := fun m hm k hshow hrole =>
  hdel m hm k ((h.frame hn hw hm.1 (show RecordKind.dnskey ∉ _ by decide)).1 hshow) hrole

/-- Every signer that stays gets a plan if there is something to ask for. -/
theorem effective_referencePlans (hdel : n.Delegable s) (hsome : ∃ k, n.SignsKeys s k)
    (hm : n.Stays m) : ∃ q ∈ Push.effective (n.referencePlans s), q.member = m := by
  obtain ⟨k, hk⟩ := hsome
  have hrequested : ¬ (n.requested s).isEmpty = true := fun hempty =>
    (requested_eq_nil hdel).1 (List.isEmpty_iff.1 hempty) k hk
  refine ⟨Sync.KeyReferences.plan (n.requested s)
    (.viewOf [.dnskey, .cds, .cdnskey] (n.records s m) m), List.mem_filter.2 ⟨?_, ?_⟩, ?_⟩
  · rw [referencePlans, if_neg hrequested]
    exact List.mem_map_of_mem (mem_staying_views.2 ⟨m, hm, rfl⟩)
  · simp only [Sync.KeyReferences.plan, ChangeSet.isEmpty, hrequested, Bool.false_and, Bool.not_false]
  · rw [Sync.KeyReferences.plan, SignerView.member_viewOf]

/-- **The references end up the same.** -/
theorem PartWay.references_same (h : n.PartWay s w t) (hn : n.Apart) (hdel : n.Delegable s)
    (hw : n.Acted .syncCds (n.referencePlans s) s w)
    (hv : n.Acted .syncCds (n.referencePlans t) t v) (hm : m ∈ n.members) {d : RecordData}
    (hd : d.kind ∈ Sync.KeyReferences.kinds) : n.Shows v m d ↔ n.Shows w m d := by
  have hsigns : ∀ k, n.SignsKeys t k ↔ n.SignsKeys s k := fun k => h.signsKeys_iff hn hw
  have hdel' := h.delegable hn hw hdel
  cases hleaving : m.signer.leaving with
  | true =>
    have hm' : n.Leaves m := ⟨hm, hleaving⟩
    rw [Shows, h.kept hm (hw.records_of_leaves hn hm') (hv.records_of_leaves hn hm'), Shows]
  | false =>
    by_cases hsome : ∃ k, n.SignsKeys s k
    · have hasked := hw.keysAsked hdel hsome
      have hasked' := hv.keysAsked hdel' (by simpa only [hsigns] using hsome)
      cases d with
      | cds d => simp only [hasked.cds m ⟨hm, hleaving⟩, hasked'.cds m ⟨hm, hleaving⟩, hsigns]
      | cdnskey k => rw [hasked.cdnskey m ⟨hm, hleaving⟩, hasked'.cdnskey m ⟨hm, hleaving⟩, hsigns]
      | dnskey _ | ds _ | ns _ | soa _ | csync _ =>
        simp only [RecordData.kind, Sync.KeyReferences.kinds, List.mem_cons, List.not_mem_nil,
          reduceCtorEq, or_self] at hd
    · have hnone : ∀ k, ¬ n.SignsKeys s k := not_exists.1 hsome
      have hnone' : ∀ k, ¬ n.SignsKeys t k := fun k => (hsigns k).not.2 (hnone k)
      rw [referencePlans_eq_nil hdel hnone] at hw
      rw [referencePlans_eq_nil hdel' hnone'] at hv
      -- there are no plans at all
      have hmissed : ∀ p ∈ ([] : List Plan), p.member ≠ m := fun p hp => absurd hp List.not_mem_nil
      rw [Shows, h.kept hm (hw.records_of_not_mem hn hm hmissed)
        (hv.records_of_not_mem hn hm hmissed), Shows]

end References

/-! ## 5. Recovery -/

/-- What brings the records of signers in line. -/
inductive Alignment
  | keys
  | names
  | references
  deriving Repr, DecidableEq

namespace Alignment

def operation (zone : DomainName) : Alignment → Operation ω Unit
  | keys => Sync.Dnskeys.run zone
  | names => Sync.Nameservers.run zone
  | references => Sync.KeyReferences.run zone

def activity : Alignment → Activity
  | keys => .syncDnskeys
  | names => .syncNs
  | references => .syncCds

/-- The time to live of the group. -/
def groupTtl (n : Deployment ω) (s : Session ω) : UInt32 :=
  ((s.state.groups.get? n.zone).map Group.ttl).getD 0

def plans (n : Deployment ω) (s : Session ω) : Alignment → List Plan
  | keys => n.keyPlans s
  | names => n.namePlans s (groupTtl n s)
  | references => n.referencePlans s

/-- Where keys come from, once that was noted. -/
def origins (n : Deployment ω) (s : Session ω) : Alignment → OrderedMap String String
  | keys => (n.keyOrigins s).dnskeyOrigin
  | names | references => s.state.dnskeyOrigin

/-- What it takes to plan besides answers. -/
def Told (n : Deployment ω) (s : Session ω) : Alignment → Prop
  | keys => n.TagsTold s (n.keyOrigins s).dnskeyOrigin
  | names => True
  | references => n.Delegable s

variable (x : Alignment)

theorem perform_operation : (x.operation n.zone).perform n.outside s
    = (planning n.zone x.activity >>= Push.push n.zone).perform n.outside s := by
  cases x with
  | keys => exact perform_syncDnskeys
  | names => exact perform_syncNs
  | references => exact perform_syncCds

theorem plans_members : ((x.plans n s).map Plan.member).Sublist n.members := by
  cases x with
  | keys => exact keyPlans_members
  | names => rw [plans, namePlans_members]
  | references => exact referencePlans_members

variable {x}

/-- **What planning makes of the answers**, if it succeeds. -/
theorem planned (hn : n.Answering) (hs : n.Present s)
    (h : (planning n.zone x.activity).perform n.outside s = (.ok ps, u)) :
    n.Askable ∧ x.Told n s ∧ ps = x.plans n s ∧ n.holds u.world = n.holds s.world ∧
      u.state.dnskeyOrigin = x.origins n s := by
  cases x with
  | keys =>
    obtain ⟨hps, hholds, hstate, htags⟩ := (hn.planned_syncDnskeys hs h).2 ps rfl
    obtain ⟨vs, t, hviews, -⟩ := perform_bind_eq_ok.1
      (show (observeGroup n.zone [.dnskey] >>= _).perform n.outside s = (.ok ps, u) from h)
    exact ⟨askable_of_observeGroup hs hviews, htags, hps, hholds, by rw [hstate]; rfl⟩
  | names =>
    obtain ⟨g, hg, -⟩ := State.members_eq_ok.1 hs.members
    obtain ⟨hps, hholds, hstate⟩ := hn.planned_syncNs hs hg h
    obtain ⟨vs, t, hviews, -⟩ := perform_bind_eq_ok.1
      (show (observeGroup n.zone [.ns] >>= _).perform n.outside s = (.ok ps, u) from h)
    refine ⟨askable_of_observeGroup hs hviews, trivial, ?_, hholds, hstate⟩
    rw [hps, plans, groupTtl, hg, Option.map_some, Option.getD_some]
  | references =>
    obtain ⟨hdel, hps, hholds⟩ := hn.planned_syncCds hs h
    obtain ⟨vs, t, hviews, -⟩ := perform_bind_eq_ok.1
      (show (observeGroup n.zone _ >>= _).perform n.outside s = (.ok ps, u) from h)
    refine ⟨askable_of_observeGroup hs hviews, hdel, hps, hholds, ?_⟩
    exact congrArg State.dnskeyOrigin ((quiet_planning n.zone (by decide) (by decide)).state_eq h)

/-- **Planning succeeds while it is calm.** -/
theorem achieves_planning (ho : n.Obliging Calm) (hn : n.Answering) (ha : n.Askable)
    (hs : n.Present s) (hc : Calm s.world) (htold : x.Told n s) :
    Achieves n.outside s (planning n.zone x.activity) fun ps u =>
      ps = x.plans n s ∧ n.holds u.world = n.holds s.world ∧ Calm u.world := by
  have hviews := ho.achieves_observeGroup hn ha hs hc
  cases x with
  | keys => exact (planning_syncDnskeys_of_views (hviews _) htold).imp fun _ _ h => h.1
  | names =>
    obtain ⟨g, hg, -⟩ := State.members_eq_ok.1 hs.members
    have hplans : names.plans n s = n.namePlans s g.ttl := by
      rw [plans, groupTtl, hg, Option.map_some, Option.getD_some]
    rw [hplans]
    exact (planning_syncNs_of_views (hviews _) hg).imp fun _ _ h => h.1
  | references => exact (planning_syncCds_of_views (hviews _) htold).imp fun _ _ h => h.1

/-- Origins are those noted when it was planned. -/
theorem origins_of_acted (hn : n.Answering) (hs : n.Present s) (h : n.Acted x.activity ps s w) :
    w.state.dnskeyOrigin = x.origins n s := by
  obtain ⟨u, hu, hstate, -⟩ := h.planned
  rw [hstate]
  exact (planned hn hs hu).2.2.2.2

end Alignment

/-! ## 6. Taking up again -/

section Resumable

variable {x : Alignment}

/-- Part of the way, the same can be taken up again: planning notes no other origins, none gets a
plan who had none, and what is planned then leads to the same end. -/
structure Resumable (n : Deployment ω) (x : Alignment) (s w t : Session ω) : Prop where
  told : x.Told n t
  origins : x.origins n t = x.origins n s
  effective : ∀ p ∈ Push.effective (x.plans n t), n.records t p.member = n.records s p.member →
    ∃ q ∈ Push.effective (x.plans n s), q.member = p.member
  same : ∀ v, n.Acted x.activity (x.plans n t) t v → ∀ m ∈ n.members, ∀ d,
    d.kind ∈ touched x.activity → (n.Shows v m d ↔ n.Shows w m d)

theorem keysInLine_of_acted (hn : n.Truthful) (hs : n.Present s)
    (h : n.Acted .syncDnskeys (n.keyPlans s) s w) : n.KeysInLine s w := by
  obtain ⟨u, hu, hstate, -⟩ := h.planned
  have hu := (hn.answering.planned_syncDnskeys hs hu).2 _ rfl
  exact h.keysInLine hn.apart hs.members (hstate.trans hu.2.2.1)

/-- **Work that came part of the way can be taken up again.** -/
theorem PartWay.resumable (h : n.PartWay s w t) (hn : n.Truthful) (hs : n.Present s)
    (ht : n.Present t) (hone : n.OneAlgorithm s) (htold : x.Told n s)
    (hw : n.Acted x.activity (x.plans n s) s w)
    (horigins : t.state.dnskeyOrigin = x.origins n s) : n.Resumable x s w t := by
  have hafter := Alignment.origins_of_acted hn.answering hs hw
  cases x with
  | keys =>
    have hline := keysInLine_of_acted hn hs hw
    have hkept : n.keyOrigins t = t.state :=
      (h.originsKnown hline (horigins.trans hafter.symm)).keyOrigins_eq
    have hsame : (n.keyOrigins t).dnskeyOrigin = w.state.dnskeyOrigin := by
      rw [hkept, horigins, hafter]
    refine ⟨?_, hsame.trans hafter, fun p hp hrecords => ?_, fun v hv m hm d hd => ?_⟩
    · have htags := h.tagsTold hline (hafter ▸ htold)
      rwa [← hsame] at htags
    · exact h.effective_keyPlans hline hs.members ht.members hafter.symm hsame hp hrecords
    · have hnow := Alignment.origins_of_acted (x := .keys) hn.answering ht hv
      cases d with
      | dnskey k => exact h.keys_same hline hone (keysInLine_of_acted hn ht hv) (hnow.trans hsame) hm
      | cdnskey _ | ds _ | cds _ | ns _ | soa _ | csync _ => cases List.mem_singleton.1 hd
  | names =>
    have hline : n.NamesInLine s w := hw.namesInLine
    refine ⟨trivial, horigins, fun p hp hrecords => ?_, fun v hv m hm d hd => ?_⟩
    · exact h.effective_namePlans hline hp hrecords
    · cases d with
      | ns name =>
        have hlater : n.NamesInLine t v := hv.namesInLine
        rw [hlater m hm, h.wanted_iff hline, hline m hm]
      | dnskey _ | cdnskey _ | ds _ | cds _ | soa _ | csync _ => cases List.mem_singleton.1 hd
  | references =>
    have hdel : n.Delegable t := h.delegable hn.apart hw htold
    refine ⟨hdel, horigins, fun p hp _ => ?_, fun v hv m hm d hd => ?_⟩
    · have hp := (List.mem_filter.1 hp).1
      refine effective_referencePlans htold ?_ (stays_of_referencePlans hp)
      by_contra hnone
      have hnone : ∀ k, ¬ n.SignsKeys t k := fun k hk =>
        hnone ⟨k, (h.signsKeys_iff hn.apart hw).1 hk⟩
      rw [Alignment.plans, referencePlans_eq_nil hdel hnone] at hp
      cases hp
    · exact h.references_same hn.apart htold hw hv hm hd

/-! ## 7. Recovery -/

theorem Calmed.shows (h : n.Calmed Calm s s') (hm : m ∈ n.members) (d : RecordData) :
    n.Shows s' m d ↔ n.Shows s m d := by
  rw [Shows, h.records hm, Shows]

theorem Calmed.keyOrigins (h : n.Calmed Calm s s') : n.keyOrigins s' = n.keyOrigins s := by
  rw [Deployment.keyOrigins, h.views, h.state, Deployment.keyOrigins]

theorem Calmed.plans (h : n.Calmed Calm s s') (x : Alignment) : x.plans n s' = x.plans n s := by
  cases x with
  | keys =>
    rw [Alignment.plans, keyPlans, h.views, h.keyOrigins]
    rfl
  | names =>
    rw [Alignment.plans, namePlans, h.views, Alignment.groupTtl, h.state]
    rfl
  | references =>
    rw [Alignment.plans, referencePlans, requested, referenceViews, h.views]
    rfl

theorem Calmed.origins (h : n.Calmed Calm s s') (x : Alignment) :
    x.origins n s' = x.origins n s := by
  cases x with
  | keys => rw [Alignment.origins, h.keyOrigins, Alignment.origins]
  | names | references => rw [Alignment.origins, h.state, Alignment.origins]

theorem Calmed.told (h : n.Calmed Calm s s') (htold : x.Told n s) : x.Told n s' := by
  cases x with
  | keys =>
    have hsound := sound_keyReport.2 htold
    rw [keyReport, ← h.views] at hsound
    have htags : n.TagsTold s' (n.keyOrigins s').dnskeyOrigin := by
      rw [h.keyOrigins]
      exact sound_keyReport.1 hsound
    exact htags
  | names => exact trivial
  | references => exact fun m hm k hshow => htold m hm k ((h.shows hm.1 _).1 hshow)

theorem Calmed.oneAlgorithm (h : n.Calmed Calm s s') (hone : n.OneAlgorithm s) :
    n.OneAlgorithm s' := fun m m' hm hm' k k' hk hk' =>
  hone m m' hm hm' k k' ((h.shows hm.1 _).1 hk) ((h.shows hm'.1 _).1 hk')

/-- **Syncing succeeds while it is calm**, as far as signers that get something can be sent it. -/
theorem Alignment.achieves_operation (ho : n.Obliging Calm) (hn : n.Truthful) (ha : n.Askable)
    (hs : n.Present s) (hc : Calm s.world) (htold : x.Told n s)
    (hsendable : ∀ p ∈ Push.effective (x.plans n s), n.Sendable s.state p.member)
    (htakes : ∀ m ∈ n.members, ∀ c, Push.credential s.state m = .ok c → n.takes c) :
    ∃ t, (x.operation n.zone).perform n.outside s = (.ok (), t) ∧
      n.Acted x.activity (x.plans n s) s t := by
  obtain ⟨_, t, hperform, ht⟩ := ho.achieves_acted hn hs x.plans_members hsendable htakes
    (Alignment.achieves_planning ho hn.answering ha hs hc htold)
  exact ⟨t, x.perform_operation.trans hperform, ht⟩

/-- Who gets something when it is taken up again can be sent it, since it was found that everybody
can who was to get something before. -/
theorem Interrupted.sendable_again (hint : n.Interrupted x.activity (x.plans n s) s t)
    (hs' : n.Calmed Calm s s') (ht' : n.Calmed Calm t t') (hres : n.Resumable x s' w t') :
    ∀ p ∈ Push.effective (x.plans n t'), n.Sendable t'.state p.member := by
  intro p hp
  have hm : p.member ∈ n.members :=
    x.plans_members.subset (List.mem_map_of_mem (List.mem_filter.1 hp).1)
  rw [ht'.state]
  rcases hint.changed p.member hm with hold | ⟨q, hq, hqm, -⟩
  · obtain ⟨q, hq, hqm⟩ := hres.effective p hp (by rw [ht'.records hm, hold, hs'.records hm])
    exact hqm ▸ hint.sendable q (hs'.plans x ▸ hq)
  · exact hqm ▸ hint.sendable q hq

/-- **Syncing recovers from updates that are refused.**  Keys, names or references are synced, and
something is sent; it may break off at any of the signers, which leaves that one and all later ones
as they were.  Then they are synced again while all is calm, with the document and the servers that
were left.  This succeeds, and so would have syncing them once while all is calm, with the document
and the servers of the beginning; both lead to the same: each signer serves the same, and keys are
known to come from where they came from. -/
theorem sync_recovers (x : Alignment) (hn : n.Truthful) (hh : n.Harmless) (ho : n.Obliging Calm)
    (hs : n.Present s) (hone : n.OneAlgorithm s)
    (hrun : (x.operation n.zone).perform n.outside s = (r, t))
    (hsent : t.deliveries ≠ s.deliveries)
    (hs' : n.Calmed Calm s s') (ht' : n.Calmed Calm t t') :
    ∃ v w, (x.operation n.zone).perform n.outside t' = (.ok (), v) ∧
      (x.operation n.zone).perform n.outside s' = (.ok (), w) ∧
      (∀ m ∈ n.members, ∀ d, n.Shows v m d ↔ n.Shows w m d) ∧
      v.state.dnskeyOrigin = w.state.dnskeyOrigin := by
  rw [x.perform_operation] at hrun
  obtain ⟨ps, hint⟩ := hn.interrupted hh hs (fun ps u hu => by
    obtain ⟨-, -, rfl, hholds, -⟩ := Alignment.planned hn.answering hs hu
    exact ⟨x.plans_members, hholds⟩) hrun hsent
  obtain ⟨u, hu, hstate, hholds⟩ := hint.planned
  obtain ⟨hask, htold, rfl, -, horigins⟩ := Alignment.planned hn.answering hs hu
  have hbefore : n.Present s' := hs'.present hs
  have hleft : n.Present t' := ht'.present hint.present
  -- nothing but origins changed in the document, so who could be sent updates still can
  have hdocument : s'.state.withoutOrigins = t.state.withoutOrigins := by
    rw [hs'.state, hstate]
    exact (congrArg Prod.fst ((leaves_planning n.zone x.activity).rel_of_perform hu)).symm
  obtain ⟨w, hperform, hw⟩ := Alignment.achieves_operation ho hn hask hbefore hs'.calm
    (hs'.told htold) (fun p hp => (hint.sendable p (hs'.plans x ▸ hp)).congr hdocument) hs'.takes
  have hway : n.PartWay s' w t' := hint.partWay hs' ht' (hs'.plans x ▸ hw)
  have hres : n.Resumable x s' w t' := by
    refine hway.resumable hn hbefore hleft (hs'.oneAlgorithm hone) (hs'.told htold) hw ?_
    rw [ht'.state, hstate, horigins, hs'.origins]
  obtain ⟨v, hperform', hv⟩ := Alignment.achieves_operation ho hn hask hleft ht'.calm hres.told
    (hint.sendable_again hs' ht' hres) ht'.takes
  refine ⟨v, w, hperform', hperform, fun m hm d => ?_, ?_⟩
  · by_cases hd : d.kind ∈ touched x.activity
    · exact hres.same v hv m hm d hd
    · rw [hv.frame hn.apart hm hd, hway.frame hn.apart hw hm hd, hw.frame hn.apart hm hd]
  · rw [Alignment.origins_of_acted hn.answering hleft hv, hres.origins,
      Alignment.origins_of_acted hn.answering hbefore hw]

end Resumable

end Deployment

namespace Sample

open Deployment Rehearsal

/-- The servers of the sample group, which may reject updates. -/
def waverers : Deployment World :=
  wavering [.nsupdate] zone walkers "p"

/-- A session in which some servers reject updates. -/
def rejecting (servers : List (String × String)) (s : Session World) : Session World :=
  { s with world := { s.world with
    network := { s.world.network with rejecting := .ofList servers } } }

/-- What syncing keys does to a session. -/
def syncingWaverers (s : Session World) : Except Error Unit × Session World :=
  (Alignment.keys.operation waverers.zone).perform waverers.outside s

/-- A session in which the second signer rejects updates. -/
def resisting : Session World :=
  rejecting [("b", "REFUSED")] unsyncedKeys

/-- What is left when syncing keys breaks off there. -/
def brokenOff : Session World :=
  (syncingWaverers resisting).2

theorem calmed_rejecting {s : Session World}
    (hopen : (rejecting [] s).world.network.isOpen = true) :
    waverers.Calmed (fun w => w.network.isOpen = true) s (rejecting [] s) :=
  ⟨rfl, fun _ _ => rfl, hopen, fun _ _ _ _ => trivial⟩

/-- Syncing the keys of the sample group recovers. -/
theorem sync_recovers_for_walkers :
    (syncingWaverers resisting).1 = .error (.updateRejected "b" "REFUSED") ∧
      brokenOff.deliveries.map Delivery.accepted = [true, false] ∧
      ∃ v w, syncingWaverers (rejecting [] brokenOff) = (.ok (), v) ∧
        syncingWaverers (rejecting [] resisting) = (.ok (), w) ∧
        (∀ m ∈ walkers, ∀ d, waverers.Shows v m d ↔ waverers.Shows w m d) ∧
        v.state.dnskeyOrigin = w.state.dnskeyOrigin := by
  have hserving : ∀ m ∈ walkers,
      (waverers.holds resisting.world m.signer.address).isSome = true := by decide +kernel
  have hs : waverers.Present resisting :=
    ⟨by decide +kernel, fun m hm => Option.isSome_iff_exists.1 (hserving m hm)⟩
  have hone : waverers.OneAlgorithm resisting :=
    (workable_of_views (by decide +kernel) (by decide +kernel)).algorithms
  have hsent : brokenOff.deliveries.map Delivery.accepted = [true, false] := by decide +kernel
  have hsome : brokenOff.deliveries ≠ resisting.deliveries := fun heq => by
    rw [heq] at hsent
    cases hsent
  have hrun : (Alignment.keys.operation waverers.zone).perform waverers.outside resisting
      = ((syncingWaverers resisting).1, brokenOff) := rfl
  exact ⟨by decide +kernel, hsent, sync_recovers .keys (truthful_wavering (by decide +kernel))
    harmless_wavering obliging_wavering hs hone hrun hsome (calmed_rejecting (by decide +kernel))
    (calmed_rejecting (by decide +kernel))⟩

end Sample
end MultiSigner
