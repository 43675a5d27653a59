/-
# Syncing names once is enough

`names_converge`: when syncing the names of a group succeeds on a truthful network, all signers serve
the same names, those that leave included.  A name that was put in has the time to live of the first
signer that served it, a check that follows finds the names synced, and syncing them again sends
nothing.

If the name of a signer that is leaving is all that the signers serve too much, then each of them is
sent just its removal (`Withdraws`).
-/
import MultiSigner.Proofs.Completion
import MultiSigner.Proofs.Truthful

namespace MultiSigner

open Operation Automation

/-- Names of which no two are the same, while all of them are the same, are one. -/
theorem eq_singleton_of_pairwise {name : DomainName} : ∀ {names : List DomainName},
    names.Pairwise (fun a b => (a == b) = false) → (∀ l ∈ names, (l == name) = true) →
      names ≠ [] → ∃ l, names = [l] ∧ (l == name) = true
  | [], _, _, hsome => absurd rfl hsome
  | [l], _, hall, _ => ⟨l, rfl, hall l List.mem_cons_self⟩
  | l :: k :: names, hdistinct, hall, _ => by
    have hl := hall l List.mem_cons_self
    have hk := hall k (List.mem_cons_of_mem _ List.mem_cons_self)
    have hdiffer := (List.pairwise_cons.1 hdistinct).1 k List.mem_cons_self
    rw [BEq.trans hl (BEq.symm hk)] at hdiffer
    cases hdiffer

namespace Deployment

open Evaluation (isOneOf leavingNames isOneOf_iff)
open Sync.Nameservers (withdrawn desired)

variable {ω : Type} {n : Deployment ω} {start s t u : Session ω} {m x : Member} {g : Group}
  {name : DomainName} {ttl : UInt32}

/-! ## 1. Times to live -/

/-- The time to live at which a name is put in: the largest one of the names that the first signer
serving it answered with, and that of the group if no signer serves it. -/
inductive NameTtl (n : Deployment ω) (s : Session ω) (g : Group) (name : DomainName) :
    UInt32 → Prop
  | served {before later : List Member} {m : Member} {ttl : UInt32}
      (hsplit : n.members = before ++ m :: later)
      (hbefore : ∀ x ∈ before, ¬ n.Shows s x (.ns name)) (hm : n.Shows s m (.ns name))
      (httl : Hold.IsLargest ttl [⟨(n.records s m).filter fun r => r.kind == .ns⟩]) :
      NameTtl n s g name ttl
  | unserved (hnone : ∀ m ∈ n.members, ¬ n.Shows s m (.ns name)) : NameTtl n s g name g.ttl

theorem isLargest_maxTtl (a : Answer) : Hold.IsLargest a.maxTtl [a] := by
  have hlargest : Hold.largest [a] = a.maxTtl := by
    rcases Hold.max_cases 0 a.maxTtl with ⟨-, h⟩ | ⟨hle, h⟩
    · exact h
    · exact h.trans (UInt32.le_antisymm UInt32.zero_le hle)
  rw [← hlargest]
  exact Hold.isLargest [a]

/-- The first view that shows a name is that of the first member that serves it. -/
theorem find?_views {v : SignerView}
    (h : (n.views [.ns] s).find? (fun v => isOneOf v.ns name) = some v) :
    ∃ before m later, n.members = before ++ m :: later ∧
      (∀ x ∈ before, ¬ n.Shows s x (.ns name)) ∧ n.Shows s m (.ns name) ∧
        v = .viewOf [.ns] (n.records s m) m := by
  rw [views, List.find?_map, Option.map_eq_some_iff] at h
  obtain ⟨m, hfind, rfl⟩ := h
  obtain ⟨hm, before, later, hsplit, hbefore⟩ := List.find?_eq_some_iff_append.1 hfind
  refine ⟨before, m, later, hsplit, fun x hx hshow => ?_, (isOneOf_ns_view (by decide)).1 hm, rfl⟩
  have hlacks := hbefore x hx
  rw [Function.comp_apply, (isOneOf_ns_view (by decide)).2 hshow] at hlacks
  cases hlacks

/-- **A name to serve has the time to live of the first signer that serves it.** -/
theorem nameTtl_of_desired (h : (desired (n.views [.ns] s) g.ttl).get? name = some ttl) :
    n.NameTtl s g name ttl := by
  rw [get?_desired] at h
  split at h
  · cases h
  · cases hfind : (n.views [.ns] s).find? fun v => isOneOf v.ns name with
    | some v =>
      obtain ⟨before, m, later, hsplit, hbefore, hm, rfl⟩ := find?_views hfind
      rw [hfind, Option.map_some, Option.some_or, Option.some.injEq] at h
      refine .served hsplit hbefore hm ?_
      rw [← h, SignerView.nsTtl_viewOf hm]
      exact isLargest_maxTtl _
    | none =>
      have hnone : ∀ m ∈ n.members, ¬ n.Shows s m (.ns name) := fun m hm hshow =>
        List.find?_eq_none.1 hfind _ (mem_views.2 ⟨m, hm, rfl⟩)
          ((isOneOf_ns_view (by decide)).2 hshow)
      rw [hfind, Option.map_none, Option.none_or] at h
      split at h
      · cases h
        exact .unserved hnone
      · cases h

/-- What the plans put in are names at their times to live. -/
theorem nameTtl_of_namePlans {p : Plan} (hp : p ∈ n.namePlans s g.ttl) {r : Record}
    (hr : r ∈ p.changes.inserts) :
    ∃ name ttl, r = ⟨ttl, .ns name⟩ ∧ n.NameTtl s g name ttl := by
  obtain ⟨v, -, rfl⟩ := List.mem_map.1 hp
  obtain ⟨⟨name, ttl⟩, he, rfl⟩ := List.mem_map.1 hr
  exact ⟨name, ttl, rfl, nameTtl_of_desired (OrderedMap.get?_of_mem (List.mem_filter.1 he).1)⟩

/-! ## 2. Names in line -/

/-- Names in line are those still wanted. -/
theorem NamesInLine.wanted (h : n.NamesInLine start s) (hname : n.Wanted s name) :
    n.Wanted start name := by
  obtain ⟨⟨m, hm, hshow⟩ | hstays, hnone⟩ := hname
  · exact (h m hm name).1 hshow
  · exact ⟨.inr hstays, hnone⟩

/-- Names that are in line need no change. -/
theorem NamesInLine.idle (h : n.NamesInLine start s) :
    ∀ p ∈ n.namePlans s ttl, p.changes.isEmpty = true := by
  intro p hp
  obtain ⟨v, hv, rfl⟩ := List.mem_map.1 hp
  obtain ⟨m, hm, rfl⟩ := mem_views.1 hv
  have hremoves : (Sync.Nameservers.plan (n.views [.ns] s) ttl
      (.viewOf [.ns] (n.records s m) m)).changes.removes = [] := by
    rw [List.eq_nil_iff_forall_not_mem]
    intro r hr
    obtain ⟨l, -, rfl⟩ := List.mem_map.1 hr
    obtain ⟨hshow, hleaves⟩ := serves_withdrawnNames.1 ⟨_, hr, BEq.rfl⟩
    exact ((h m hm l).1 hshow).2 hleaves
  have hinserts : (Sync.Nameservers.plan (n.views [.ns] s) ttl
      (.viewOf [.ns] (n.records s m) m)).changes.inserts = [] := by
    rw [List.eq_nil_iff_forall_not_mem]
    intro r hr
    obtain ⟨⟨l, keep⟩, -, rfl⟩ := List.mem_map.1 hr
    obtain ⟨hwanted, hlacks⟩ := serves_newNames.1 ⟨_, hr, BEq.rfl⟩
    exact hlacks ((h m hm l).2 (h.wanted hwanted))
  simp only [ChangeSet.isEmpty, hremoves, hinserts]
  rfl

/-! ## 3. One name too much -/

/-- The name of a leaving signer is all that the signers serve too much. -/
def Superfluous (n : Deployment ω) (s : Session ω) (x : Member) : Prop :=
  n.Leaves x ∧ ∀ m ∈ n.members, ∀ name, n.Shows s m (.ns name) ↔
    n.Wanted s name ∨ (x.signer.nameserver == name) = true

/-- An update takes out the name of a signer and does nothing else. -/
def Withdraws (x m : Member) (d : Delivery) : Prop :=
  d.IsFor m ∧ d.outcome = .ok () ∧
    ∃ ttl l, (l == x.signer.nameserver) = true ∧ d.update.changes = { removes := [⟨ttl, .ns l⟩] }

/-- **The plans take out that name**, and do nothing else. -/
theorem Superfluous.changes (h : n.Superfluous s x) (hm : m ∈ n.members) (ttl : UInt32) :
    ∃ l, (l == x.signer.nameserver) = true ∧
      (Sync.Nameservers.plan (n.views [.ns] s) ttl (.viewOf [.ns] (n.records s m) m)).changes
        = { removes := [⟨(SignerView.viewOf [.ns] (n.records s m) m).nsTtl, .ns l⟩] } := by
  obtain ⟨hleaves, hshows⟩ := h
  have hwithdrawn : ∀ l ∈ withdrawn (n.views [.ns] s) (.viewOf [.ns] (n.records s m) m),
      (l == x.signer.nameserver) = true := fun l hl => by
    obtain ⟨hl, hleaving⟩ := List.mem_filter.1 hl
    have hshow : n.Shows s m (.ns l) :=
      (isOneOf_ns_view (by decide)).1 (isOneOf_iff.2 ⟨l, hl, BEq.rfl⟩)
    rcases (hshows m hm l).1 hshow with hwanted | hsame
    · exact absurd (isOneOf_leavingNames.1 hleaving) hwanted.2
    · exact BEq.symm hsame
  have hsome : withdrawn (n.views [.ns] s) (.viewOf [.ns] (n.records s m) m) ≠ [] := by
    intro hnone
    have hserved : Serves ((Sync.Nameservers.plan (n.views [.ns] s) ttl
        (.viewOf [.ns] (n.records s m) m)).changes.removes) (.ns x.signer.nameserver) :=
      serves_withdrawnNames.2 ⟨(hshows m hm _).2 (.inr BEq.rfl), x, hleaves, BEq.rfl⟩
    obtain ⟨r, hr, -⟩ := hserved
    obtain ⟨l, hl, -⟩ := List.mem_map.1 hr
    rw [hnone] at hl
    cases hl
  have hinserts : (Sync.Nameservers.plan (n.views [.ns] s) ttl
      (.viewOf [.ns] (n.records s m) m)).changes.inserts = [] := by
    rw [List.eq_nil_iff_forall_not_mem]
    intro r hr
    obtain ⟨⟨l, keep⟩, -, rfl⟩ := List.mem_map.1 hr
    obtain ⟨hwanted, hlacks⟩ := serves_newNames.1 ⟨_, hr, BEq.rfl⟩
    exact hlacks ((hshows m hm l).2 (.inl hwanted))
  obtain ⟨l, hl, hsame⟩ : ∃ l, withdrawn (n.views [.ns] s) (.viewOf [.ns] (n.records s m) m) = [l]
      ∧ (l == x.signer.nameserver) = true :=
    eq_singleton_of_pairwise (SignerView.pairwise_ns_viewOf.filter _) hwithdrawn hsome
  refine ⟨l, hsame, ?_⟩
  simp only [Sync.Nameservers.plan] at hinserts ⊢
  rw [hinserts, hl, List.map_singleton]

/-- Names that are shared, but for one signer that leaves. -/
theorem superfluous_of_shared (hx : n.Leaves x) (honly : ∀ y, n.Leaves y → y = x)
    (hshared : ∀ m ∈ n.members, ∀ m' ∈ n.members, ∀ name,
      n.Shows s m (.ns name) → n.Shows s m' (.ns name))
    (hall : ∀ m ∈ n.members, n.Shows s m (.ns m.signer.nameserver)) : n.Superfluous s x := by
  refine ⟨hx, fun m hm name => ⟨fun hshow => ?_, ?_⟩⟩
  · by_cases hsame : (x.signer.nameserver == name) = true
    · exact .inr hsame
    · refine .inl ⟨.inl ⟨m, hm, hshow⟩, ?_⟩
      rintro ⟨y, hy, hyname⟩
      exact hsame (honly y hy ▸ hyname)
  · rintro (⟨⟨m', hm', hshow⟩ | ⟨y, hy, hyname⟩, -⟩ | hsame)
    · exact hshared m' hm' m hm name hshow
    · exact hshared y hy.1 m hm name (Serves.congr (hall y hy.1) hyname)
    · exact hshared x hx.1 m hm name (Serves.congr (hall x hx.1) hsame)

/-- What carries these plans out takes out that name at every signer. -/
theorem Superfluous.withdraws (h : n.Superfluous s x) {ds : List Delivery}
    (hmade : List.Forall₂ (fun p (d : Delivery) => d.Makes p)
      (Push.effective (n.namePlans s ttl)) ds) :
    List.Forall₂ (Withdraws x) n.members ds := by
  have hall : Push.effective (n.namePlans s ttl) = n.namePlans s ttl := by
    refine List.filter_eq_self.2 fun p hp => ?_
    obtain ⟨v, hv, rfl⟩ := List.mem_map.1 hp
    obtain ⟨m, hm, rfl⟩ := mem_views.1 hv
    obtain ⟨l, -, hchanges⟩ := h.changes hm ttl
    rw [hchanges]
    rfl
  rw [hall, namePlans, views, List.map_map, List.forall₂_map_left_iff] at hmade
  refine ((List.forall₂_and_left _ _).2 ⟨fun m hm => hm, hmade⟩).imp fun m d hmd => ?_
  obtain ⟨hm, htarget, hchanges, haccepted⟩ := hmd
  obtain ⟨l, hsame, hl⟩ := h.changes hm ttl
  rw [Function.comp_apply, Sync.Nameservers.plan, SignerView.member_viewOf] at htarget
  exact ⟨htarget, haccepted, _, l, hsame, hchanges.trans hl⟩

/-! ## 4. Syncing -/

/-- **What syncing names plans.** -/
theorem Answering.planned_syncNs (hn : n.Answering) (hs : n.Present s)
    (hg : s.state.groups.get? n.zone = some g) {plans : List Plan}
    (h : (planning n.zone .syncNs).perform n.outside s = (.ok plans, u)) :
    plans = n.namePlans s g.ttl ∧ n.holds u.world = n.holds s.world ∧
      u.state.dnskeyOrigin = s.state.dnskeyOrigin := by
  rw [planning, perform_bind_eq_ok] at h
  obtain ⟨vs, v, hviews, h⟩ := h
  obtain ⟨rfl, hv⟩ := hn.views hs hviews
  have hgroup : v.state.group n.zone = .ok g := State.group_eq_ok.2 (by rw [hv.state]; exact hg)
  simp only [perform_bind, perform_state, perform_lift, hgroup, perform_modifyState, perform_lines,
    perform_pure] at h
  cases h
  refine ⟨rfl, hv.holds, ?_⟩
  rw [← hv.state]
  exact dnskeyOrigin_nsOrigins _ _

theorem perform_syncNs : (Sync.Nameservers.run n.zone).perform n.outside s
    = (planning n.zone .syncNs >>= Push.push n.zone).perform n.outside s :=
  (perform_of_act (d := .joining) rfl).2

/-- **Syncing names that succeeds brings them in line**, and sends what was planned. -/
theorem Truthful.syncNs (hn : n.Truthful) (hs : n.Present s)
    (hg : s.state.groups.get? n.zone = some g)
    (h : (Sync.Nameservers.run n.zone).perform n.outside s = (.ok (), t)) :
    n.Present t ∧ n.NamesInLine s t ∧ Session.Carried (n.namePlans s g.ttl) s t := by
  rw [perform_syncNs, perform_bind_eq_ok] at h
  obtain ⟨plans, u, hplan, hpush⟩ := h
  obtain ⟨rfl, hholds, -⟩ := hn.answering.planned_syncNs hs hg hplan
  have hmembers : ((n.namePlans s g.ttl).map Plan.member).Sublist n.members := by
    rw [namePlans_members]
  obtain ⟨hacted, hcarried⟩ := hn.acted hs hplan hholds hmembers hpush
  exact ⟨hacted.present hs, hacted.namesInLine, hcarried⟩

/-- **Names that are in line are found synced.** -/
theorem NamesInLine.checked (h : n.NamesInLine start s) (hn : n.Truthful) (hs : n.Present s)
    {f : SyncFlags} (hcheck : (Status.check n.zone).perform n.outside s = (.ok f, t)) :
    f.ns = true := by
  obtain ⟨p, hflags, -⟩ := hn.answering.checked hs hcheck
  exact (Evaluation.get_iff hflags .ns).2 (namesAgree_views.2 h.shared)

/-- **Syncing names that are in line sends nothing**, whether it succeeds or not. -/
theorem NamesInLine.resynced (h : n.NamesInLine start s) (hn : n.Truthful) (hs : n.Present s)
    {r : Except Error Unit}
    (hsync : (Sync.Nameservers.run n.zone).perform n.outside s = (r, t)) :
    t.deliveries = s.deliveries := by
  rw [perform_syncNs] at hsync
  refine (idle_of_planning (fun plans u hplan => ?_) hsync).1
  obtain ⟨g, hg, -⟩ := State.members_eq_ok.1 hs.members
  obtain ⟨rfl, -⟩ := hn.answering.planned_syncNs hs hg hplan
  exact h.idle

/-- **Syncing names converges.**  If it succeeds, all signers serve the names that were wanted, and
each name that was put in has its time to live.  If the name of a signer that is leaving was all
that they served too much, each of them was sent its removal.  A check that succeeds later on finds
the names synced, and another sync sends nothing. -/
theorem names_converge (hn : n.Truthful) (hs : n.Present s)
    (hg : s.state.groups.get? n.zone = some g)
    (h : (Sync.Nameservers.run n.zone).perform n.outside s = (.ok (), t)) :
    n.NamesInLine s t ∧
    (∃ ds, t.deliveries = s.deliveries ++ ds ∧
      (∀ d ∈ ds, ∀ r ∈ d.update.changes.inserts,
        ∃ name ttl, r = ⟨ttl, .ns name⟩ ∧ n.NameTtl s g name ttl) ∧
      ∀ x, n.Superfluous s x → List.Forall₂ (Withdraws x) n.members ds) ∧
    ∀ u, n.Resumes t u →
      (∀ f v, (Status.check n.zone).perform n.outside u = (.ok f, v) → f.ns = true) ∧
      ∀ r v, (Sync.Nameservers.run n.zone).perform n.outside u = (r, v) →
        v.deliveries = u.deliveries := by
  obtain ⟨hpresent, hline, ds, hds, hmade⟩ := hn.syncNs hs hg h
  refine ⟨hline, ⟨ds, hds, fun d hd r hr => ?_, fun x hx => hx.withdraws hmade⟩, fun u hu => ?_⟩
  · obtain ⟨p, hp, hmakes⟩ := exists_mem_of_forall₂ hmade hd
    rw [hmakes.changes] at hr
    exact nameTtl_of_namePlans (List.mem_filter.1 hp).1 hr
  · have hlater : n.NamesInLine s u := hline.congr (hu.agree .ns)
    exact ⟨fun f v hcheck => hlater.checked hn (hu.present hpresent) hcheck,
      fun r v hsync => hlater.resynced hn (hu.present hpresent) hsync⟩

end Deployment

namespace Sample

open Deployment

/-- The first signer serves the name of the third one, which is leaving, and the second one a name
that is nobody's. -/
def unsyncedNames : Session Rehearsal.World :=
  departure walkers [("a", [⟨60, .ns (name 97)⟩, ⟨90, .ns (name 99)⟩]),
    ("b", [⟨30, .ns (name 120)⟩]), ("c", []), ("p", [])]

def allNames : List Record :=
  [⟨60, .ns (name 97)⟩, ⟨60, .ns (name 98)⟩, ⟨60, .ns (name 99)⟩]

/-- Every signer serves the names of all three. -/
def leavingName : Session Rehearsal.World :=
  departure walkers [("a", allNames), ("b", allNames), ("c", allNames), ("p", [])]

/-- What syncing names does to a session. -/
def syncingNames (s : Session Rehearsal.World) : Except Error Unit × Session Rehearsal.World :=
  (Sync.Nameservers.run (deployment walkers).zone).perform (deployment walkers).outside s

theorem superfluous_walker :
    (deployment walkers).Superfluous leavingName (member 'c' true) := by
  have hrecords : ∀ m ∈ (deployment walkers).members,
      (deployment walkers).records leavingName m = allNames := by
    intro m hm
    rcases List.mem_cons.1 hm with rfl | hm
    · rfl
    rcases List.mem_cons.1 hm with rfl | hm
    · rfl
    · rw [List.mem_singleton.1 hm]
      rfl
  have hleaves : ∀ m ∈ walkers, m.signer.leaving = true → m = member 'c' true := by decide +kernel
  have hserved : ∀ m ∈ walkers, ∃ r ∈ allNames,
      (r.data == .ns m.signer.nameserver) = true := by decide +kernel
  refine superfluous_of_shared ⟨?_, rfl⟩ (fun y hy => hleaves y hy.1 hy.2)
    (fun m hm m' hm' name hshow => ?_) fun m hm => ?_
  · exact List.mem_cons_of_mem _ (List.mem_cons_of_mem _ List.mem_cons_self)
  · rw [Shows, hrecords m hm] at hshow
    rwa [Shows, hrecords m' hm']
  · rw [Shows, hrecords m hm]
    exact hserved m hm

/-- The names of the sample group converge, and a name that leaves is taken out. -/
theorem names_converge_for_walkers :
    ((syncingNames unsyncedNames).1 = .ok () ∧
      (deployment walkers).NamesInLine unsyncedNames (syncingNames unsyncedNames).2 ∧
      ∀ r v, syncingNames (syncingNames unsyncedNames).2 = (r, v) →
        v.deliveries = (syncingNames unsyncedNames).2.deliveries) ∧
    (syncingNames leavingName).1 = .ok () ∧
      ∃ ds, (syncingNames leavingName).2.deliveries = leavingName.deliveries ++ ds ∧
        List.Forall₂ (Withdraws (member 'c' true)) walkers ds := by
  have hn : (deployment walkers).Truthful := truthful (by decide +kernel) (by decide +kernel)
  constructor
  · have hs : (deployment walkers).Present unsyncedNames :=
      present (by decide +kernel) (by decide +kernel)
    have hok : (syncingNames unsyncedNames).1 = .ok () := by decide +kernel
    unfold syncingNames at hok ⊢
    obtain ⟨hline, -, hlater⟩ := names_converge hn hs rfl (perform_of_fst hok)
    exact ⟨hok, hline, (hlater _ (.refl _)).2⟩
  · have hs : (deployment walkers).Present leavingName :=
      present (by decide +kernel) (by decide +kernel)
    have hok : (syncingNames leavingName).1 = .ok () := by decide +kernel
    unfold syncingNames at hok ⊢
    obtain ⟨-, ⟨ds, hds, -, hremoved⟩, -⟩ := names_converge hn hs rfl (perform_of_fst hok)
    exact ⟨hok, ds, hds, hremoved _ superfluous_walker⟩

end Sample
end MultiSigner
