/-
# Status and sync, side by side

A check of the status and the sync that goes with it look at the same answers, but not at the same
parts of them.  `sync_after_check` tells what a sync still sends when the status has just found
nothing to mend, on a network that answers as it did before:

* Of keys, those that have a leaving signer as their origin are taken out wherever they are, while
  the check looks at shared keys only, and at the origins that were known before the sync noted the
  others (`Overlooked`).
* Of names, those of signers that stay are put in even if nobody serves them yet, while the check
  compares served names only (`Unserved`).

Nothing else is sent, and a sync that succeeds leaves none of these out.
-/
import MultiSigner.Proofs.Convergence.Keys
import MultiSigner.Proofs.Convergence.Names

namespace MultiSigner

open Operation Automation

/-! ## 1. What a sync sends -/

/-- The changes take out some keys, each of them as told, and do nothing else. -/
structure ChangeSet.TakesOut (P : Dnskey → Prop) (c : ChangeSet) : Prop where
  inserts : c.inserts = []
  removeKinds : c.removeKinds = []
  some : c.removes ≠ []
  keys : ∀ r ∈ c.removes, ∃ k, r.data = .dnskey k ∧ P k

/-- The changes put in some names, each of them as told, and do nothing else. -/
structure ChangeSet.PutsIn (P : DomainName → Prop) (c : ChangeSet) : Prop where
  removes : c.removes = []
  removeKinds : c.removeKinds = []
  some : c.inserts ≠ []
  names : ∀ r ∈ c.inserts, ∃ name, r.data = .ns name ∧ P name

/-- An update that was sent has the changes of a plan, and is for its member. -/
structure Delivery.Matches (d : Delivery) (p : Plan) : Prop where
  target : d.IsFor p.member
  changes : d.update.changes = p.changes

theorem Push.matches_of_update {zone : DomainName} {σ : State} {p : Plan} {d : Delivery}
    (h : update zone σ p = .ok d.update) : d.Matches p := by
  obtain ⟨-, hsigner, haddress, hchanges⟩ := update_eq_ok h
  exact ⟨⟨hsigner, haddress⟩, hchanges⟩

/-- **What is sent when the plans are known**: some of the plans that change something, and all of
them if the push succeeds. -/
theorem Automation.sent_of_planning {ω : Type} {o : Outside ω} {s t : Session ω}
    {zone : DomainName} {a : Activity} {r : Except Error Unit} {plans : List Plan}
    (hplans : ∀ ps u, (planning zone a).perform o s = (.ok ps, u) → ps = plans)
    (h : (planning zone a >>= Push.push zone).perform o s = (r, t)) :
    ∃ ds, t.deliveries = s.deliveries ++ ds ∧
      (∀ d ∈ ds, ∃ p ∈ Push.effective plans, d.Matches p) ∧
      (r = .ok () → ∀ p ∈ Push.effective plans, ∃ d ∈ ds, d.Matches p) := by
  rw [perform_bind] at h
  rcases hu : (planning zone a).perform o s with ⟨e | ps, u⟩
  all_goals
    have hquiet : u.deliveries = s.deliveries :=
      congrArg (fun p => p.2.2.2) ((leaves_planning zone a).rel_of_perform hu)
    rw [hu] at h
  · cases h
    exact ⟨[], by rw [hquiet, List.append_nil], by simp, nofun⟩
  · obtain rfl := hplans ps u hu
    obtain ⟨ds, hds, hsent⟩ := Push.sent_of_push h
    refine ⟨ds, by rw [hds, hquiet], fun d hd => ?_, ?_⟩
    · obtain ⟨p, hp, hupdate⟩ := hsent d hd
      exact ⟨p, hp, Push.matches_of_update hupdate⟩
    · rintro rfl p hp
      obtain ⟨us, hus, hall⟩ := Push.push_eq_ok h
      rw [hds, List.append_cancel_left_eq] at hall
      subst hall
      obtain ⟨x, hx, hupdate⟩ := exists_mem_of_forall₂ hus.flip hp
      exact ⟨⟨x, .ok ()⟩, List.mem_map_of_mem hx, Push.matches_of_update hupdate⟩

namespace Deployment

open SignerView (leavingOrigin?)
open Evaluation (dnskeys nameservers isOneOf isOneOf_iff flags_eq_ok sound_of_flags)
open Sync.Dnskeys (withdrawn missing)

variable {ω : Type} {n : Deployment ω} {s t u : Session ω} {m x : Member} {k : Dnskey}
  {name : DomainName} {f : SyncFlags} {p : ParentView}

/-! ## 2. Keys -/

/-- **What it takes for the check of keys to be clear**: no shared key comes from a leaving signer,
and each is at all others that stay. -/
theorem kept_of_clear {origins : OrderedMap String String}
    (hs : s.state.members n.zone = .ok n.members)
    (hsound : Report.Sound (dnskeys (n.statusViews s) origins))
    (hclear : Finding.clear (dnskeys (n.statusViews s) origins).items = true)
    (hm : n.Stays m) (hk : n.Shows s m (.dnskey k)) (hshares : m.shares k = true) :
    ¬ n.Departed origins k ∧
      ∀ x, n.Stays x → ∃ l, n.Shows s x (.dnskey l) ∧ l.publicKey = k.publicKey := by
  have hsynced := (Evaluation.fine_dnskeys hsound).1 ((Finding.clear_items_iff hsound).1 hclear)
  have hview : SignerView.viewOf Status.signerKinds (n.records s m) m ∈ n.statusViews s :=
    mem_views.2 ⟨m, hm.1, rfl⟩
  have hsynced_key : k ∈ (SignerView.viewOf Status.signerKinds (n.records s m) m).syncedKeys :=
    (mem_syncedKeys_view (by decide)).2 ⟨hk, hshares⟩
  refine ⟨mt fromLeaving_views.2 (forall_staying_views.1 hsynced.kept m hm k hsynced_key),
    fun x hx => ?_⟩
  by_cases hname : x.name = m.name
  · rw [State.eq_of_name hs hx.1 hm.1 hname]
    exact ⟨k, hk, rfl⟩
  · refine shows_of_foundAt (forall_staying_views.1
      (forall_staying_views.1 hsynced.found m hm k hsynced_key) x hx ?_)
    simp only [SignerView.name, SignerView.member_viewOf]
    exact hname

/-- A key that a sync takes out of a signer although the check of keys may be clear: it comes from a
leaving signer, and either it is no shared key or its origin was not known before the sync. -/
structure Overlooked (n : Deployment ω) (s : Session ω) (m : Member) (k : Dnskey) : Prop where
  shown : n.Shows s m (.dnskey k)
  departed : n.Departed (n.keyOrigins s).dnskeyOrigin k
  unchecked : m.shares k = false ∨ s.state.dnskeyOrigin.get? k.fingerprint = none

/-- The origins that a sync notes are those known before, and new ones. -/
theorem unchecked_of_departed (hkept : m.shares k = true → ¬ n.Departed s.state.dnskeyOrigin k)
    (h : n.Departed (n.keyOrigins s).dnskeyOrigin k) :
    m.shares k = false ∨ s.state.dnskeyOrigin.get? k.fingerprint = none := by
  by_contra hnot
  rw [not_or, Bool.not_eq_false, ← ne_eq, Option.ne_none_iff_exists'] at hnot
  obtain ⟨hshares, origin, horigin⟩ := hnot
  obtain ⟨x, hx, hname⟩ := h
  rw [keyOrigins, get?_origins_of_sync, originAfter, horigin, Option.some_or] at hname
  exact hkept hshares ⟨x, hx, horigin.trans hname⟩

/-- **What syncing keys sends after a check that found them synced**: removals of overlooked keys,
and if it succeeds, all of them. -/
theorem Answering.syncDnskeys_of_kept (hn : n.Answering) (hs : n.Present s)
    (hkept : ∀ m, n.Stays m → ∀ k, n.Shows s m (.dnskey k) → m.shares k = true →
      ¬ n.Departed s.state.dnskeyOrigin k ∧
        ∀ x, n.Stays x → ∃ l, n.Shows s x (.dnskey l) ∧ l.publicKey = k.publicKey)
    {r : Except Error Unit} (h : (Sync.Dnskeys.run n.zone).perform n.outside s = (r, t)) :
    ∃ ds, t.deliveries = s.deliveries ++ ds ∧
      (∀ d ∈ ds, ∃ m, n.Stays m ∧ d.IsFor m ∧ d.update.changes.TakesOut (n.Overlooked s m)) ∧
      (r = .ok () → ∀ m, n.Stays m → ∀ k, n.Overlooked s m k →
        ∃ d ∈ ds, d.IsFor m ∧ RemovesKey d.update.changes k) := by
  rw [perform_syncDnskeys] at h
  obtain ⟨ds, hds, hsent, hall⟩ := sent_of_planning
    (fun ps u hps => ((hn.planned_syncDnskeys hs hps).2 ps rfl).1) h
  refine ⟨ds, hds, fun d hd => ?_, fun hok m hm k hk => ?_⟩
  · obtain ⟨p, hp, hmatches⟩ := hsent d hd
    obtain ⟨hp, hsome⟩ := List.mem_filter.1 hp
    obtain ⟨v, hv, rfl⟩ := List.mem_map.1 hp
    obtain ⟨m, hm, rfl⟩ := mem_staying_views.1 hv
    have hmember := hmatches.target
    rw [Sync.Dnskeys.plan, SignerView.member_viewOf] at hmember
    refine ⟨m, hm, hmember, ?_⟩
    have hnone : missing (n.views [.dnskey] s) (n.keyOrigins s).dnskeyOrigin
        (.viewOf [.dnskey] (n.records s m) m) = [] :=
      missing_eq_nil hs.members hm fun x hx k hk hshares => (hkept x hx k hk hshares).2 m hm
    rw [hmatches.changes]
    refine ⟨hnone, rfl, fun hremoves => ?_, fun r hr => ?_⟩
    · simp only [Sync.Dnskeys.plan] at hremoves
      simp only [Sync.Dnskeys.plan, ChangeSet.isEmpty, hnone, hremoves, List.isEmpty_nil,
        Bool.and_self, Bool.not_true, Bool.false_eq_true] at hsome
    · obtain ⟨k, hk, rfl⟩ := List.mem_map.1 hr
      obtain ⟨hshow, hdeparted⟩ := mem_withdrawn.1 hk
      exact ⟨k, rfl, hshow, hdeparted,
        unchecked_of_departed (fun hshares => (hkept m hm k hshow hshares).1) hdeparted⟩
  · have hk : k ∈ withdrawn (n.views [.dnskey] s) (n.keyOrigins s).dnskeyOrigin
        (.viewOf [.dnskey] (n.records s m) m) := mem_withdrawn.2 ⟨hk.shown, hk.departed⟩
    have hremoves : ⟨(SignerView.viewOf [.dnskey] (n.records s m) m).dnskeyTtl, .dnskey k⟩
        ∈ (Sync.Dnskeys.plan (n.views [.dnskey] s) (n.keyOrigins s).dnskeyOrigin
          (.viewOf [.dnskey] (n.records s m) m)).changes.removes := List.mem_map.2 ⟨k, hk, rfl⟩
    have hplan : Sync.Dnskeys.plan (n.views [.dnskey] s) (n.keyOrigins s).dnskeyOrigin
        (.viewOf [.dnskey] (n.records s m) m) ∈ Push.effective (n.keyPlans s) := by
      refine List.mem_filter.2 ⟨List.mem_map_of_mem (mem_staying_views.2 ⟨m, hm, rfl⟩), ?_⟩
      rw [ChangeSet.isEmpty, List.isEmpty_eq_false_iff.2 (List.ne_nil_of_mem hremoves),
        Bool.and_false, Bool.false_and, Bool.not_false]
    obtain ⟨d, hd, hmatches⟩ := hall hok _ hplan
    have hmember := hmatches.target
    rw [Sync.Dnskeys.plan, SignerView.member_viewOf] at hmember
    refine ⟨d, hd, hmember, .inl ?_⟩
    rw [hmatches.changes]
    exact ⟨_, hremoves, rfl⟩

/-! ## 3. Names -/

/-- **What it takes for the check of names to be clear.** -/
theorem shared_of_clear (hclear : Finding.clear (nameservers (n.statusViews s)) = true) :
    n.NamesShared s :=
  namesAgree_views.1 (Evaluation.clear_nameservers.1 hclear)

/-- A name that a sync puts in although the check of names may be clear: signers that stay have it,
no leaving one does, and nobody serves it yet. -/
structure Unserved (n : Deployment ω) (s : Session ω) (name : DomainName) : Prop where
  advertised : ∃ x, n.Stays x ∧ (x.signer.nameserver == name) = true
  kept : ¬ ∃ x, n.Leaves x ∧ (x.signer.nameserver == name) = true
  new : ∀ m ∈ n.members, ¬ n.Shows s m (.ns name)

/-- If names are shared, those that are wanted and that a signer lacks are unserved. -/
theorem NamesShared.unserved_iff (h : n.NamesShared s) (hm : m ∈ n.members) :
    n.Wanted s name ∧ ¬ n.Shows s m (.ns name) ↔ n.Unserved s name := by
  constructor
  · rintro ⟨⟨hwanted, hkept⟩, hlacks⟩
    have hnew : ∀ m' ∈ n.members, ¬ n.Shows s m' (.ns name) := fun m' hm' hshow =>
      hlacks (h.same m' hm' m hm name hshow)
    refine ⟨hwanted.resolve_left ?_, hkept, hnew⟩
    rintro ⟨m', hm', hshow⟩
    exact hnew m' hm' hshow
  · rintro ⟨hadvertised, hkept, hnew⟩
    exact ⟨⟨.inr hadvertised, hkept⟩, hnew m hm⟩

/-- **What syncing names sends after a check that found them synced**: insertions of unserved names,
and if it succeeds, all of them to all signers. -/
theorem Answering.syncNs_of_shared (hn : n.Answering) (hs : n.Present s) (hshared : n.NamesShared s)
    {r : Except Error Unit} (h : (Sync.Nameservers.run n.zone).perform n.outside s = (r, t)) :
    ∃ ds, t.deliveries = s.deliveries ++ ds ∧
      (∀ d ∈ ds, ∃ m ∈ n.members, d.IsFor m ∧ d.update.changes.PutsIn (n.Unserved s)) ∧
      (r = .ok () → ∀ m ∈ n.members, ∀ name, n.Unserved s name →
        ∃ d ∈ ds, d.IsFor m ∧ Serves d.update.changes.inserts (.ns name)) := by
  rw [perform_syncNs] at h
  obtain ⟨g, hg, -⟩ := State.members_eq_ok.1 hs.members
  obtain ⟨ds, hds, hsent, hall⟩ := sent_of_planning
    (fun ps u hps => (hn.planned_syncNs hs hg hps).1) h
  refine ⟨ds, hds, fun d hd => ?_, fun hok m hm name hname => ?_⟩
  · obtain ⟨p, hp, hmatches⟩ := hsent d hd
    obtain ⟨hp, hsome⟩ := List.mem_filter.1 hp
    obtain ⟨v, hv, rfl⟩ := List.mem_map.1 hp
    obtain ⟨m, hm, rfl⟩ := mem_views.1 hv
    have hmember := hmatches.target
    rw [Sync.Nameservers.plan, SignerView.member_viewOf] at hmember
    refine ⟨m, hm, hmember, ?_⟩
    have hnone : (Sync.Nameservers.plan (n.views [.ns] s) g.ttl
        (.viewOf [.ns] (n.records s m) m)).changes.removes = [] := by
      rw [List.eq_nil_iff_forall_not_mem]
      intro r hr
      obtain ⟨l, -, hrl⟩ := List.mem_map.1 hr
      obtain ⟨hshow, x, hx, hxl⟩ := serves_withdrawnNames.1 ⟨r, hr, by rw [← hrl]; exact BEq.rfl⟩
      exact hshared.staying m hm x hx (Serves.congr hshow (BEq.symm hxl))
    rw [hmatches.changes]
    refine ⟨hnone, rfl, fun hinserts => ?_, fun r hr => ?_⟩
    · rw [ChangeSet.isEmpty, hnone, hinserts] at hsome
      cases hsome
    · obtain ⟨e, -, hre⟩ := List.mem_map.1 hr
      have hnew := serves_newNames.1 ⟨r, hr, by rw [← hre]; exact BEq.rfl⟩
      exact ⟨e.1, by rw [← hre], (hshared.unserved_iff hm).1 hnew⟩
  · have hnew : Serves (Sync.Nameservers.plan (n.views [.ns] s) g.ttl
        (.viewOf [.ns] (n.records s m) m)).changes.inserts (.ns name) :=
      serves_newNames.2 ((hshared.unserved_iff hm).2 hname)
    have hplan : Sync.Nameservers.plan (n.views [.ns] s) g.ttl (.viewOf [.ns] (n.records s m) m)
        ∈ Push.effective (n.namePlans s g.ttl) := by
      refine List.mem_filter.2 ⟨List.mem_map_of_mem (mem_views.2 ⟨m, hm, rfl⟩), ?_⟩
      obtain ⟨r, hr, -⟩ := hnew
      rw [ChangeSet.isEmpty, List.isEmpty_eq_false_iff.2 (List.ne_nil_of_mem hr)]
      rfl
    obtain ⟨d, hd, hmatches⟩ := hall hok _ hplan
    have hmember := hmatches.target
    rw [Sync.Nameservers.plan, SignerView.member_viewOf] at hmember
    refine ⟨d, hd, hmember, ?_⟩
    rw [hmatches.changes]
    exact hnew

/-! ## 4. Both -/

/-- **What a sync sends after a check that found nothing to mend**, whatever else happened in
between, as long as the document lists the same members and origins and the servers hold what they
held.  If keys were found synced, syncing them takes out overlooked keys and sends nothing else; if
names were, syncing them puts in unserved names and sends nothing else.  So nothing at all is sent
if there are none of these, and if there are some, a sync that succeeds sends all of them. -/
theorem sync_after_check (hn : n.Answering) (hs : n.Present s)
    (hcheck : (Status.check n.zone).perform n.outside s = (.ok f, t)) (hu : n.Resumes s u) :
    (f.dnskeys = true → ∀ r v, (Sync.Dnskeys.run n.zone).perform n.outside u = (r, v) →
      ∃ ds, v.deliveries = u.deliveries ++ ds ∧
        (∀ d ∈ ds, ∃ m, n.Stays m ∧ d.IsFor m ∧ d.update.changes.TakesOut (n.Overlooked u m)) ∧
        (r = .ok () → ∀ m, n.Stays m → ∀ k, n.Overlooked u m k →
          ∃ d ∈ ds, d.IsFor m ∧ RemovesKey d.update.changes k)) ∧
    (f.ns = true → ∀ r v, (Sync.Nameservers.run n.zone).perform n.outside u = (r, v) →
      ∃ ds, v.deliveries = u.deliveries ++ ds ∧
        (∀ d ∈ ds, ∃ m ∈ n.members, d.IsFor m ∧ d.update.changes.PutsIn (n.Unserved u)) ∧
        (r = .ok () → ∀ m ∈ n.members, ∀ name, n.Unserved u name →
          ∃ d ∈ ds, d.IsFor m ∧ Serves d.update.changes.inserts (.ns name))) := by
  obtain ⟨p, hflags, -⟩ := hn.checked hs hcheck
  have hf := flags_eq_ok hflags
  have hpresent := hu.present hs
  constructor
  · intro hkeys r v hv
    rw [hf] at hkeys
    refine hn.syncDnskeys_of_kept hpresent (fun m hm k hk hshares => ?_) hv
    obtain ⟨hkept, hspread⟩ := kept_of_clear hs.members (sound_of_flags hflags) hkeys hm
      ((hu.shows hm.1 _).1 hk) hshares
    refine ⟨by rwa [hu.origins], fun x hx => ?_⟩
    obtain ⟨l, hl, hbytes⟩ := hspread x hx
    exact ⟨l, (hu.shows hx.1 _).2 hl, hbytes⟩
  · intro hnames r v hv
    rw [hf] at hnames
    have hshared := shared_of_clear hnames
    refine hn.syncNs_of_shared hpresent ⟨fun m hm m' hm' name hshow => ?_, fun m hm x hx hshow => ?_⟩ hv
    · exact (hu.shows hm' _).2 (hshared.same m hm m' hm' name ((hu.shows hm _).1 hshow))
    · exact hshared.staying m hm x hx ((hu.shows hm _).1 hshow)

end Deployment

namespace Sample

open Deployment

/-- A signer that is leaving, and one that stays. -/
def sharers : List Member :=
  [member 'c' true, member 'a' false]

/-- Both serve one key, of which it is not known where it comes from, and no names. -/
def shared : Session Rehearsal.World :=
  departure sharers [("c", [⟨60, .soa 7⟩, ⟨60, .dnskey (walkKey false [2])⟩]),
    ("a", [⟨60, .soa 7⟩, ⟨60, .dnskey (walkKey false [2])⟩]), ("p", [])]

/-- What a check of the status does to a session. -/
def checking (s : Session Rehearsal.World) : Except Error SyncFlags × Session Rehearsal.World :=
  (Status.check (deployment sharers).zone).perform (deployment sharers).outside s

theorem flags_checking : ∃ f, (checking shared).1 = .ok f ∧ f.dnskeys = true ∧ f.ns = true := by
  have hflags : (checking shared).1.toOption.map (fun f => f.dnskeys && f.ns) = some true := by
    decide +kernel
  cases hf : (checking shared).1 with
  | error e =>
    rw [hf] at hflags
    cases hflags
  | ok f =>
    rw [hf] at hflags
    exact ⟨f, rfl, Bool.and_eq_true_iff.1 (Option.some.inj hflags)⟩

/-- The check leaves everything as it was. -/
theorem resumes_checking : (deployment sharers).Resumes shared (checking shared).2 := by
  have hn : (deployment sharers).Faithful :=
    Rehearsal.faithful (by decide +kernel) (by decide +kernel)
  have ha : (deployment sharers).Addressed := ⟨by decide +kernel, by decide +kernel⟩
  have hworkable : (deployment sharers).Workable shared :=
    workable_of_views (by decide +kernel) (by decide +kernel)
  have hs : (deployment sharers).Found shared := by
    refine (departs ?_ ?_ ?_ ?_ ?_ ?_ hworkable).found <;> decide +kernel
  have hshared : (deployment sharers).NamesShared shared := shared_of_clear (by decide +kernel)
  have hmeets : (deployment sharers).Meets shared .ns := hshared
  obtain ⟨f, t, ht, -, hunmoved⟩ := achieves_check hn ha hs hworkable.tags hmeets
  have hsession : (checking shared).2 = t := congrArg Prod.snd ht
  rw [hsession]
  refine ⟨?_, hunmoved.origins, fun m _ => by rw [hunmoved.holds]⟩
  rw [(hunmoved.found hs).documented.members, hs.documented.members]

theorem overlooked_shared : (deployment sharers).Overlooked (checking shared).2
    (member 'a' false) (walkKey false [2]) where
  shown := (resumes_checking.shows (List.mem_cons_of_mem _ List.mem_cons_self) _).2
    (List.any_eq_true.1 (by decide +kernel))
  departed := ⟨member 'c' true, ⟨List.mem_cons_self, rfl⟩, by decide +kernel⟩
  unchecked := .inr (by decide +kernel)

theorem unserved_shared :
    (deployment sharers).Unserved (checking shared).2 (name 97) where
  advertised := ⟨member 'a' false, ⟨List.mem_cons_of_mem _ List.mem_cons_self, rfl⟩,
    by decide +kernel⟩
  kept := by
    rintro ⟨x, ⟨hx, hleaves⟩, hname⟩
    have hnone : ∀ x ∈ sharers, x.signer.leaving = true → (x.signer.nameserver == name 97) = false :=
      by decide +kernel
    rw [hnone x hx hleaves] at hname
    cases hname
  new m hm hshow := by
    have hnone : ∀ m ∈ sharers, (((deployment sharers).records shared m).any fun r =>
        r.data == .ns (name 97)) = false := by decide +kernel
    have hany := List.any_eq_true.2 ((resumes_checking.shows hm _).1 hshow)
    rw [hnone m hm] at hany
    cases hany

/-- The key is found synced and taken out of the signer that stays, and the name of that signer is
put in although no name was missing. -/
theorem sync_after_check_of_shared :
    (∃ f, (checking shared).1 = .ok f ∧ f.dnskeys = true ∧ f.ns = true) ∧
    (∃ ds, ((Sync.Dnskeys.run (deployment sharers).zone).perform (deployment sharers).outside
        (checking shared).2).2.deliveries = (checking shared).2.deliveries ++ ds ∧
      ∃ d ∈ ds, RemovesKey d.update.changes (walkKey false [2])) ∧
    ∃ ds, ((Sync.Nameservers.run (deployment sharers).zone).perform (deployment sharers).outside
        (checking shared).2).2.deliveries = (checking shared).2.deliveries ++ ds ∧
      ∃ d ∈ ds, Serves d.update.changes.inserts (.ns (name 97)) := by
  have hn : (deployment sharers).Answering :=
    (truthful (by decide +kernel) (by decide +kernel)).answering
  have hs : (deployment sharers).Present shared :=
    present (by decide +kernel) (by decide +kernel)
  have hstays : (deployment sharers).Stays (member 'a' false) :=
    ⟨List.mem_cons_of_mem _ List.mem_cons_self, rfl⟩
  obtain ⟨f, hf, hkeys, hnames⟩ := flags_checking
  obtain ⟨hdnskeys, hns⟩ := sync_after_check hn hs (perform_of_fst hf) resumes_checking
  obtain ⟨hsyncKeys, hsyncNames⟩ :
      ((Sync.Dnskeys.run (deployment sharers).zone).perform (deployment sharers).outside
        (checking shared).2).1 = .ok () ∧
      ((Sync.Nameservers.run (deployment sharers).zone).perform (deployment sharers).outside
        (checking shared).2).1 = .ok () := by decide +kernel
  obtain ⟨ds, hds, -, hall⟩ := hdnskeys hkeys _ _ (perform_of_fst hsyncKeys)
  obtain ⟨es, hes, -, hall'⟩ := hns hnames _ _ (perform_of_fst hsyncNames)
  obtain ⟨d, hd, -, hremoves⟩ := hall rfl _ hstays _ overlooked_shared
  obtain ⟨e, he, -, hinserts⟩ := hall' rfl _ hstays.1 _ unserved_shared
  exact ⟨⟨f, hf, hkeys, hnames⟩, ⟨ds, hds, d, hd, hremoves⟩, es, hes, e, he, hinserts⟩

end Sample
end MultiSigner
