/-
# Requests that stay behind

Asking the parent to take over name servers adds a record to what each signer serves: the request,
which holds the serial number that the signer has just answered.  It is only ever added.  Requests
of earlier runs, which hold other serial numbers, are still there then, also those of runs that
failed at a later signer.  Only taking requests out removes them.

* `Truthful.records_of_push`: whatever becomes of a push that adds records, a member serves what it
  served, and the records of the updates that it accepted.
* `requests_of_rounds`: so over any number of runs a member gathers one request for each of those
  runs that reached it, by induction along the runs.
* `requests_of_run`: after a run that succeeds, a member serves its request alone just if it served
  no request before, or this one alone.

All of this is about networks on which anything may fail but without effect.
-/
import MultiSigner.Proofs.Convergence.Interruption
import MultiSigner.Proofs.Sending

namespace MultiSigner

open Operation Automation
open ChangeSet (addRecord)

/-! ## 1. Records that are added -/

namespace ChangeSet

variable {rs : List Record} {r : Record} {kind : RecordKind}

/-- Adding a record of some kind adds it to those of this kind. -/
theorem filter_addRecord (rs : List Record) (h : r.kind = kind) :
    (addRecord rs r).filter (fun q => q.kind == kind)
      = addRecord (rs.filter fun q => q.kind == kind) r := by
  have hany : ((rs.filter fun q => q.kind == kind).any fun q => q.data == r.data)
      = rs.any fun q => q.data == r.data := by
    rw [List.any_filter]
    refine congrArg (List.any rs) (funext fun q => ?_)
    by_cases hq : (q.data == r.data) = true
    · rw [hq, Bool.and_true, beq_iff_eq, ← h]
      exact RecordData.kind_eq_of_same hq
    · rw [Bool.eq_false_iff.2 hq, Bool.and_false]
  unfold addRecord
  rw [hany]
  split
  · rfl
  · rw [List.filter_append, List.filter_cons_of_pos (by rw [h, beq_self_eq_true]), List.filter_nil]

theorem filter_foldl_addRecord : ∀ {added : List Record} (rs : List Record),
    (∀ r ∈ added, r.kind = kind) → (added.foldl addRecord rs).filter (fun q => q.kind == kind)
      = added.foldl addRecord (rs.filter fun q => q.kind == kind)
  | [], _, _ => rfl
  | r :: added, rs, h => by
    obtain ⟨hr, hadded⟩ := List.forall_mem_cons.1 h
    rw [List.foldl_cons, filter_foldl_addRecord _ hadded, filter_addRecord rs hr, List.foldl_cons]

/-- A record is alone after it was added just if there was nothing else. -/
theorem addRecord_eq_singleton : addRecord rs r = [r] ↔ rs = [] ∨ rs = [r] := by
  unfold addRecord
  split
  · rename_i hany
    exact ⟨.inr, fun h => h.resolve_left fun hnil => by simp [hnil] at hany⟩
  · rename_i hany
    rw [List.append_eq_singleton_iff]
    constructor
    · rintro (⟨h, -⟩ | ⟨-, h⟩)
      · exact .inl h
      · cases h
    · rintro (h | h)
      · exact .inl ⟨h, rfl⟩
      · exact absurd (by rw [h, List.any_cons, BEq.rfl, Bool.true_or]) hany

/-- The changes add records, and do nothing else. -/
def Adding (c : ChangeSet) : Prop :=
  c.removes = [] ∧ c.removeKinds = []

theorem Adding.applyTo {c : ChangeSet} (h : c.Adding) (rs : List Record) :
    c.applyTo rs = c.inserts.foldl addRecord rs := by
  obtain ⟨hremoves, hkinds⟩ := h
  simp [ChangeSet.applyTo, hremoves, hkinds]

theorem foldl_applyTo {α : Type} {c : α → ChangeSet} : ∀ {l : List α} (rs : List Record),
    (∀ a ∈ l, (c a).Adding) → l.foldl (fun rs a => (c a).applyTo rs) rs
      = (l.flatMap fun a => (c a).inserts).foldl addRecord rs
  | [], _, _ => rfl
  | a :: l, rs, h => by
    obtain ⟨ha, hl⟩ := List.forall_mem_cons.1 h
    rw [List.foldl_cons, foldl_applyTo _ hl, List.flatMap_cons, List.foldl_append, ha.applyTo]

end ChangeSet

/-! ## 2. What is accepted -/

variable {ω : Type}

/-- The records that the updates accepted on the way put in at an address. -/
def Session.acceptedAt (address : String) (s t : Session ω) : List Record :=
  ((t.deliveries.drop s.deliveries.length).filter fun d =>
    d.accepted && d.update.target.address == address).flatMap fun d => d.update.changes.inserts

theorem Session.acceptedAt_of_unsent {s t : Session ω} {address : String}
    (h : t.deliveries = s.deliveries) : s.acceptedAt address t = [] := by
  rw [acceptedAt, h, List.drop_length]
  rfl

theorem acceptedAt_of_delivered {s t : Session ω} {qs : List (Plan × Update)}
    {refused : List Delivery} (address : String)
    (hrefused : ∀ d ∈ refused, d.accepted = false)
    (h : t.deliveries = s.deliveries ++ qs.map Push.delivered ++ refused) :
    s.acceptedAt address t = (qs.filter fun q => q.2.target.address == address).flatMap
      fun q => q.2.changes.inserts := by
  have hnone : refused.filter (fun d => d.accepted && d.update.target.address == address) = [] := by
    refine List.filter_eq_nil_iff.2 fun d hd => ?_
    rw [hrefused d hd, Bool.false_and]
    exact Bool.false_ne_true
  rw [Session.acceptedAt, h, List.append_assoc, List.drop_left, List.filter_append, hnone,
    List.append_nil, List.filter_map, List.flatMap_map]
  rfl

/-- What is accepted of a push, by what it sent. -/
theorem Push.Part.acceptedAt {o : Outside ω} {zone : DomainName} {s t : Session ω}
    {plans done : List Plan} {r : Except Error Unit} {qs : List (Plan × Update)} {w : ω}
    (h : Push.Part o zone plans s t r done qs w) (address : String) :
    s.acceptedAt address t = (qs.filter fun q => q.2.target.address == address).flatMap
      fun q => q.2.changes.inserts := by
  obtain ⟨-, hsent⟩ | ⟨p, -, u, e, -, -, -, hsent⟩ := h.ends
  · exact acceptedAt_of_delivered address (fun d hd => absurd hd List.not_mem_nil)
      (hsent.trans (List.append_nil _).symm)
  · exact acceptedAt_of_delivered address (fun d hd => by rw [List.mem_singleton.1 hd]; rfl) hsent

/-- Updates put in what their plans say, at the address of their own signer. -/
theorem flatMap_of_own {zone : DomainName} {σ : State} {done : List Plan}
    {qs : List (Plan × Update)} (address : String)
    (h : List.Forall₂ (fun p q => q.1 = p ∧ Push.Own zone σ p q.2) done qs) :
    ((qs.filter fun q => q.2.target.address == address).flatMap fun q => q.2.changes.inserts)
      = (done.filter fun p => p.member.signer.address == address).flatMap
        fun p => p.changes.inserts := by
  induction h with
  | nil => rfl
  | cons hq _ ih =>
    simp only [List.filter_cons, hq.2.address]
    split
    · rw [List.flatMap_cons, List.flatMap_cons, ih, hq.2.changes]
    · exact ih

/-- **What is accepted of a push**: what a first part of its plans puts in, and what all of them put
in if it succeeds. -/
theorem accepted_of_push {zone : DomainName} {o : Outside ω} {s t : Session ω} {plans : List Plan}
    {r : Except Error Unit} (hp : (Push.push zone plans).perform o s = (r, t)) :
    ∃ done, done <+: Push.effective plans ∧ (r = .ok () → done = Push.effective plans) ∧
      ∀ address, s.acceptedAt address t
        = (done.filter fun p => p.member.signer.address == address).flatMap
          fun p => p.changes.inserts := by
  obtain ⟨done, qs, w, hpart⟩ := Push.part_of_push hp
  exact ⟨done, hpart.first, hpart.whole, fun address =>
    (hpart.acceptedAt address).trans (flatMap_of_own address hpart.owns)⟩

namespace Deployment

variable {n : Deployment ω} {s t u : Session ω} {m : Member} {w w' : ω} {x : Update}
  {rs : List Record} {server : String} {plans : List Plan} {r : Except Error Unit}

/-- An accepted update does what its changes say. -/
theorem Truthful.holds_of_reply (hn : n.Truthful) (hzone : x.zone = n.zone)
    (hrs : n.holds w x.target.address = some rs)
    (hok : (Push.reply n.outside x w).outcome = .ok ()) :
    n.holds (Push.reply n.outside x w).world
      = Function.update (n.holds w) x.target.address (some (x.changes.applyTo rs)) := by
  rw [Push.reply] at hok ⊢
  cases hu : n.outside.updaterFor x.target.kind with
  | error e =>
    rw [hu] at hok
    cases hok
  | ok u =>
    rw [hu] at hok
    exact hn.accept hu hzone rfl hrs hok

/-- A refused update does nothing. -/
theorem Harmless.holds_of_reply (hh : n.Harmless) {e : Error} (hzone : x.zone = n.zone)
    (hrs : n.holds w x.target.address = some rs)
    (herror : (Push.reply n.outside x w).outcome = .error e) :
    n.holds (Push.reply n.outside x w).world = n.holds w := by
  rw [Push.reply] at herror ⊢
  cases hu : n.outside.updaterFor x.target.kind with
  | error e' => rfl
  | ok u =>
    rw [hu] at herror
    exact hh.refuse hu hzone rfl hrs herror

/-- **Each server holds what the updates for it make of what it held**, in their order. -/
theorem Truthful.holds_of_applied (hn : n.Truthful) {qs : List (Plan × Update)}
    {said : List String} (h : Push.Applied n.outside qs w said w') :
    (∀ q ∈ qs, q.2.zone = n.zone ∧ ∃ rs, n.holds w q.2.target.address = some rs) →
      ∀ {rs}, n.holds w server = some rs →
        n.holds w' server = some ((qs.filter fun q => q.2.target.address == server).foldl
          (fun rs q => q.2.changes.applyTo rs) rs) := by
  induction h with
  | none w => exact fun _ _ hrs => hrs
  | @next p x rest w w' said accepted _ ih =>
    intro hqs rs hrs
    obtain ⟨⟨hzone, rs', hrs'⟩, hrest⟩ := List.forall_mem_cons.1 hqs
    have hupdated := hn.holds_of_reply hzone hrs' accepted
    have hheld : ∀ q ∈ rest, q.2.zone = n.zone ∧
        ∃ rs, n.holds (Push.reply n.outside x w).world q.2.target.address = some rs := by
      intro q hq
      obtain ⟨hzone, hq⟩ := hrest q hq
      refine ⟨hzone, ?_⟩
      rw [hupdated]
      by_cases hsame : q.2.target.address = x.target.address
      · rw [hsame, Function.update_self]
        exact ⟨_, rfl⟩
      · rwa [Function.update_of_ne hsame]
    by_cases hserver : x.target.address = server
    · subst hserver
      cases hrs.symm.trans hrs'
      simp only [List.filter_cons, beq_self_eq_true, if_true, List.foldl_cons]
      exact ih hheld (by rw [hupdated, Function.update_self])
    · simp only [List.filter_cons, beq_eq_false_iff_ne.2 hserver, Bool.false_eq_true, if_false]
      exact ih hheld (by rw [hupdated, Function.update_of_ne (Ne.symm hserver), hrs])

/-- **What a push that adds records leaves**, whatever becomes of it: a member serves what it
served, and the records that it accepted. -/
theorem Truthful.records_of_push (hn : n.Truthful) (hh : n.Harmless) (hs : n.Present s)
    (hmembers : ∀ p ∈ plans, p.member ∈ n.members) (hadding : ∀ p ∈ plans, p.changes.Adding)
    (hp : (Push.push n.zone plans).perform n.outside s = (r, t)) (hm : m ∈ n.members) :
    n.holds t.world m.signer.address
      = some ((s.acceptedAt m.signer.address t).foldl addRecord (n.records s m)) := by
  obtain ⟨done, qs, w, hpart⟩ := Push.part_of_push hp
  have hplan : ∀ p ∈ Push.effective plans, ∀ x, Push.Own n.zone s.state p x →
      x.zone = n.zone ∧ (∃ rs, n.holds s.world x.target.address = some rs) ∧ x.changes.Adding := by
    intro p hp x hown
    have hmem := (List.mem_filter.1 hp).1
    rw [hown.zone, hown.address, hown.changes]
    exact ⟨rfl, hs.serving _ (hmembers p hmem), hadding p hmem⟩
  have hqs : ∀ q ∈ qs, q.2.zone = n.zone ∧
      (∃ rs, n.holds s.world q.2.target.address = some rs) ∧ q.2.changes.Adding := by
    intro q hq
    obtain ⟨p, hp, -, hown⟩ := exists_mem_of_forall₂ hpart.owns hq
    exact hplan p (hpart.first.subset hp) q.2 hown
  have hheld : ∀ server rs, n.holds s.world server = some rs → n.holds w server
      = some ((qs.filter fun q => q.2.target.address == server).foldl
          (fun rs q => q.2.changes.applyTo rs) rs) := by
    obtain ⟨said, happlied⟩ := hpart.applied
    exact fun server rs hrs =>
      hn.holds_of_applied happlied (fun q hq => ⟨(hqs q hq).1, (hqs q hq).2.1⟩) hrs
  have hafter : n.holds t.world = n.holds w := by
    obtain ⟨hworld, -⟩ | ⟨p, hp, x, e, hown, herror, hworld, -⟩ := hpart.ends
    · rw [hworld]
    · obtain ⟨hzone, ⟨rs, hrs⟩, -⟩ := hplan p hp x hown
      rw [hworld]
      exact hh.holds_of_reply hzone (hheld _ rs hrs) herror
  rw [hafter, hheld _ _ (hs.holds_eq hm), hpart.acceptedAt]
  exact congrArg some (ChangeSet.foldl_applyTo _ fun q hq =>
    (hqs q (List.mem_filter.1 hq).1).2.2)

/-! ## 3. Planning requests -/

/-- **Asking is inert**: it changes no server, also if there is no answer. -/
structure Inert (n : Deployment ω) : Prop where
  query : ∀ (kind : RecordKind) {w : ω} {server : String} {rs : List Record},
    n.holds w server = some rs → n.holds (n.outside.query server n.zone kind w).2 = n.holds w

/-- The serial number that a member answers: that of the first of its SOA records. -/
def serialAt (n : Deployment ω) (s : Session ω) (m : Member) : Option UInt32 :=
  Sync.DelegationRequest.serial? ⟨(n.records s m).filter fun r => r.kind == .soa⟩

/-- Asking a member for its serial number. -/
theorem Answering.serial (hn : n.Answering) (hs : n.Present s) (hm : m ∈ n.members)
    {serial : UInt32}
    (h : (Sync.DelegationRequest.serial n.zone m).perform n.outside s = (.ok serial, t)) :
    n.serialAt s m = some serial ∧ n.Still s t := by
  rw [Sync.DelegationRequest.serial, perform_bind_eq_ok] at h
  obtain ⟨_, u, hu, h⟩ := h
  rw [perform_lift] at hu
  obtain ⟨-, rfl⟩ := Prod.mk.inj hu
  obtain ⟨a, v, ha, h⟩ := perform_bind_eq_ok.1 h
  obtain ⟨rfl, hstill⟩ := hn.asked (hs.holds_eq hm) ha
  cases hserial : Sync.DelegationRequest.serial?
    ⟨(n.records s m).filter fun r => r.kind == .soa⟩ with
  | none =>
    rw [hserial] at h
    cases h
  | some k =>
    rw [hserial] at h
    cases h
    exact ⟨hserial, hstill⟩

theorem Inert.serial (hi : n.Inert) (hs : n.Present s) (hm : m ∈ n.members) :
    n.Still s ((Sync.DelegationRequest.serial n.zone m).perform n.outside s).2 := by
  rw [Sync.DelegationRequest.serial]
  refine kept_of_bind (I := n.Still s) ?_ fun _ t _ ht => kept_of_bind ?_ fun a u _ hu => ?_
  · rw [perform_lift]
    exact .refl s
  · rw [perform_query]
    exact ht.trans ⟨rfl, hi.query .soa ((hs.of_still ht).holds_eq hm)⟩
  · cases Sync.DelegationRequest.serial? a <;> exact hu

/-- The request that a member is to serve: the parent is not to wait for a confirmation but for the
zone of this serial number, and is to take over name servers and their addresses. -/
def request (ttl serial : UInt32) : Record :=
  ⟨ttl, .csync ⟨serial, true, true, [.a, .ns, .aaaa]⟩⟩

/-- The plan for a member: to serve the request for the serial number that it answers. -/
def Requested (n : Deployment ω) (s : Session ω) (ttl : UInt32) (m : Member) (p : Plan) : Prop :=
  ∃ serial, n.serialAt s m = some serial ∧ p = Sync.DelegationRequest.plan ttl m serial

/-- **Requests are planned for all members**, each with the serial number that it answers. -/
theorem Answering.planned_addCsync (hn : n.Answering) (hs : n.Present s)
    (h : (planning n.zone .addCsync).perform n.outside s = (.ok plans, t)) :
    n.Still s t ∧ ∃ g, s.state.groups.get? n.zone = some g ∧
      List.Forall₂ (n.Requested s g.ttl) n.members plans := by
  rw [planning, perform_bind_eq_ok] at h
  obtain ⟨members, u, hu, h⟩ := h
  obtain ⟨hlisted, -, rfl⟩ := groupMembers_eq_ok.1 hu
  obtain rfl : n.members = members := Except.ok.inj (hs.members.symm.trans hlisted)
  obtain ⟨σ, v, hv, h⟩ := perform_bind_eq_ok.1 h
  cases hv
  rw [perform_bind_eq_ok] at h
  obtain ⟨g, w, hw, h⟩ := h
  rw [perform_lift] at hw
  obtain ⟨hg, rfl⟩ := Prod.mk.inj hw
  have hall := invariant_of_mapM (I := n.Still u) (P := n.Requested u g.ttl)
    (fun m hm p x y hx hy => by
      obtain ⟨serial, z, hz, hy⟩ := perform_bind_eq_ok.1 hy
      obtain ⟨hserial, hstill⟩ := hn.serial (hs.of_still hx) hm hz
      rw [serialAt, hx.records] at hserial
      cases hy
      exact ⟨⟨serial, hserial, rfl⟩, hx.trans (hstill.trans ⟨rfl, rfl⟩)⟩) h (.refl u)
  exact ⟨hall.2, g, State.group_eq_ok.1 hg, hall.1⟩

/-- Planning changes no server, also if it fails. -/
theorem Inert.planning_addCsync (hi : n.Inert) (hs : n.Present s) :
    n.Still s ((planning n.zone .addCsync).perform n.outside s).2 := by
  rw [planning]
  refine kept_of_bind (I := n.Still s) ?_ fun members t hmembers ht => ?_
  · have hsame : ((groupMembers n.zone).perform n.outside s).2 = s :=
      leaves_groupMembers (F := .keeping id) n.zone n.outside s
    rw [hsame]
    exact .refl s
  · obtain ⟨hlisted, -, rfl⟩ := groupMembers_eq_ok.1 hmembers
    obtain rfl : n.members = members := Except.ok.inj (hs.members.symm.trans hlisted)
    refine kept_of_bind ht fun σ u _ hu => kept_of_bind ?_ fun g v _ hv => ?_
    · rw [perform_lift]
      exact hu
    · refine kept_of_mapM (fun m hm w hw => ?_) hv
      refine kept_of_bind (hw.trans (hi.serial (hs.of_still hw) hm)) fun serial x _ hx => ?_
      exact kept_of_bind (hx.trans ⟨rfl, rfl⟩) fun _ _ _ hy => hy

/-! ## 4. One run -/

/-- The requests that a member serves. -/
def requests (n : Deployment ω) (s : Session ω) (m : Member) : List Record :=
  (n.records s m).filter fun r => r.kind == .csync

/-- Requests were asked for.  A member that was reached serves the one for the serial number that it
answered, next to those that it served before; and if all went well, all members were reached. -/
structure Asked (n : Deployment ω) (s t : Session ω) (r : Except Error Unit) : Prop where
  present : n.Present t
  requests : ∀ m ∈ n.members, n.requests t m
    = (s.acceptedAt m.signer.address t).foldl addRecord (n.requests s m)
  accepted : ∀ m ∈ n.members, (s.acceptedAt m.signer.address t = [] ∧ r ≠ .ok ()) ∨
    ∃ g serial, s.state.groups.get? n.zone = some g ∧ n.serialAt s m = some serial ∧
      s.acceptedAt m.signer.address t = [request g.ttl serial]

theorem members_of_requested {ms : List Member} {ttl : UInt32}
    (h : List.Forall₂ (n.Requested s ttl) ms plans) : plans.map Plan.member = ms := by
  induction h with
  | nil => rfl
  | cons hp _ ih =>
    obtain ⟨serial, -, rfl⟩ := hp
    rw [List.map_cons, ih]
    rfl

/-- Of some elements that a function tells apart, one has a value. -/
theorem filter_eq_singleton {α : Type} {f : α → String} {a : α} : ∀ {l : List α},
    (l.map f).Nodup → a ∈ l → (l.filter fun b => f b == f a) = [a]
  | b :: l, hnodup, ha => by
    obtain ⟨hb, hl⟩ := List.nodup_cons.1 hnodup
    rcases List.mem_cons.1 ha with rfl | ha
    · have hnone : (l.filter fun b => f b == f a) = [] := by
        refine List.filter_eq_nil_iff.2 fun c hc hca => hb ?_
        rw [← beq_iff_eq.1 hca]
        exact List.mem_map_of_mem hc
      simp only [List.filter_cons, beq_self_eq_true, if_true, hnone]
    · have hne : f b ≠ f a := fun heq => hb (heq ▸ List.mem_map_of_mem ha)
      simp only [List.filter_cons, beq_eq_false_iff_ne.2 hne, Bool.false_eq_true, if_false]
      exact filter_eq_singleton hl ha

/-- What is accepted of plans for requests: the request for each member that is reached. -/
theorem Apart.accepted (hn : n.Apart) {g : Group} (hg : s.state.groups.get? n.zone = some g)
    (hplans : List.Forall₂ (n.Requested s g.ttl) n.members plans)
    (h : (Push.push n.zone plans).perform n.outside u = (r, t)) (hm : m ∈ n.members) :
    (u.acceptedAt m.signer.address t = [] ∧ r ≠ .ok ()) ∨
      ∃ g serial, s.state.groups.get? n.zone = some g ∧ n.serialAt s m = some serial ∧
        u.acceptedAt m.signer.address t = [request g.ttl serial] := by
  have hsublist : (plans.map Plan.member).Sublist n.members := by
    rw [members_of_requested hplans]
  have heffective : Push.effective plans = plans := List.filter_eq_self.2 fun p hp => by
    obtain ⟨m, -, serial, -, rfl⟩ := exists_mem_of_forall₂ hplans hp
    rfl
  obtain ⟨done, hdone, hall, haccepted⟩ := accepted_of_push h
  rw [heffective] at hdone hall
  obtain ⟨p, hp, serial, hserial, rfl⟩ := exists_mem_of_forall₂ hplans.flip hm
  have hone : plans.filter (fun p => p.member.signer.address == m.signer.address)
    = [Sync.DelegationRequest.plan g.ttl m serial] :=
      filter_eq_singleton (hn.nodup_plans hsublist) hp
  rw [haccepted]
  by_cases hreached : done.filter (fun p => p.member.signer.address == m.signer.address) = []
  · refine .inl ⟨by rw [hreached, List.flatMap_nil], fun hok => ?_⟩
    rw [hall hok] at hreached
    exact List.cons_ne_nil _ _ (hone.symm.trans hreached)
  · have hsome := hdone.sublist.filter fun p => p.member.signer.address == m.signer.address
    refine .inr ⟨g, serial, hg, hserial, ?_⟩
    rw [hone, List.sublist_singleton] at hsome
    rw [hsome.resolve_left hreached]
    rfl

/-- **One run**, whatever becomes of it. -/
theorem Truthful.asked (hn : n.Truthful) (hh : n.Harmless) (hi : n.Inert) (hs : n.Present s)
    (h : (Sync.DelegationRequest.run n.zone).perform n.outside s = (r, t)) : n.Asked s t r := by
  have hop : work n.zone .joining .addCsync
    = .act (Sync.DelegationRequest.run n.zone : Operation ω Unit) := rfl
  rw [(perform_of_act hop).2, perform_bind] at h
  rcases hu : (planning n.zone .addCsync).perform n.outside s with ⟨e | plans, u⟩
  all_goals rw [hu] at h
  · cases h
    have hstill := hi.planning_addCsync hs
    rw [hu] at hstill
    have hnone : ∀ address, s.acceptedAt address t = [] := fun _ =>
      Session.acceptedAt_of_unsent (Session.lasting_eq_iff.1 hstill.lasting).2.2.2
    refine ⟨hs.of_still hstill, fun m hm => ?_, fun m _ => .inl ⟨hnone _, nofun⟩⟩
    rw [hnone, List.foldl_nil, requests, hstill.records, requests]
  · obtain ⟨hstill, g, hg, hplans⟩ := hn.answering.planned_addCsync hs hu
    have hpresent := hs.of_still hstill
    have hsent : ∀ address, s.acceptedAt address t = u.acceptedAt address t := fun _ => by
      rw [Session.acceptedAt, Session.acceptedAt,
        (Session.lasting_eq_iff.1 hstill.lasting).2.2.2]
    have haccepted := fun m hm => hn.apart.accepted (m := m) hg hplans h hm
    have hheld : ∀ m ∈ n.members, n.holds t.world m.signer.address
        = some ((u.acceptedAt m.signer.address t).foldl addRecord (n.records s m)) := by
      intro m hm
      rw [← hstill.records]
      refine hn.records_of_push hh hpresent (fun p hp => ?_) (fun p hp => ?_) h hm
      · exact members_of_requested hplans ▸ List.mem_map_of_mem hp
      · obtain ⟨m, -, serial, -, rfl⟩ := exists_mem_of_forall₂ hplans hp
        exact ⟨rfl, rfl⟩
    refine ⟨⟨?_, fun m hm => ⟨_, hheld m hm⟩⟩, fun m hm => ?_, fun m hm => ?_⟩
    · rw [Push.state_of_push h]
      exact hpresent.members
    · rw [requests, records, hheld m hm, Option.getD_some, hsent]
      refine ChangeSet.filter_foldl_addRecord _ fun r hr => ?_
      rcases haccepted m hm with ⟨hnone, -⟩ | ⟨g, serial, -, -, hone⟩
      · rw [hnone] at hr
        cases hr
      · rw [hone] at hr
        rw [List.mem_singleton.1 hr]
        rfl
    · rw [hsent]
      exact haccepted m hm

/-! ## 5. Many runs -/

/-- **Requests are asked for over and over.**  The sessions in which runs began and ended are
listed, whatever became of these runs; between them anything may happen but to the members and to
the requests that they serve, so zones get other serial numbers, servers recover and documents
change. -/
inductive Rounds (n : Deployment ω) (s : Session ω) :
    List (Session ω × Session ω) → Session ω → Prop
  | none : Rounds n s [] s
  | run {past : List (Session ω × Session ω)} {t u : Session ω} {r : Except Error Unit}
      (before : Rounds n s past t)
      (ran : (Sync.DelegationRequest.run n.zone).perform n.outside t = (r, u)) :
      Rounds n s (past ++ [(t, u)]) u
  | meanwhile {past : List (Session ω × Session ω)} {t u : Session ω} (before : Rounds n s past t)
      (present : n.Present u) (same : ∀ m ∈ n.members, n.requests u m = n.requests t m) :
      Rounds n s past u

/-- The requests that a member accepted in these runs. -/
def gathered (past : List (Session ω × Session ω)) (m : Member) : List Record :=
  past.flatMap fun x => x.1.acceptedAt m.signer.address x.2

/-- A request comes from one of these runs, in which the member answered its serial number. -/
def AskedIn (n : Deployment ω) (past : List (Session ω × Session ω)) (m : Member) (r : Record) :
    Prop :=
  ∃ x ∈ past, ∃ g serial, x.1.state.groups.get? n.zone = some g ∧
    n.serialAt x.1 m = some serial ∧ r = request g.ttl serial

theorem gathered_append (past : List (Session ω × Session ω)) (s t : Session ω) (m : Member) :
    gathered (past ++ [(s, t)]) m = gathered past m ++ s.acceptedAt m.signer.address t := by
  rw [gathered, List.flatMap_append, List.flatMap_singleton, gathered]

variable {past : List (Session ω × Session ω)}

theorem Rounds.present (hn : n.Truthful) (hh : n.Harmless) (hi : n.Inert) (hs : n.Present s)
    (h : n.Rounds s past t) : n.Present t := by
  induction h with
  | none => exact hs
  | run _ ran ih => exact (hn.asked hh hi ih ran).present
  | meanwhile _ present _ _ => exact present

/-- **Requests pile up**: a member serves those that it served at first, and one for each run that
reached it, but for those that it served already. -/
theorem requests_of_rounds (hn : n.Truthful) (hh : n.Harmless) (hi : n.Inert) (hs : n.Present s)
    (hm : m ∈ n.members) (h : n.Rounds s past t) :
    n.requests t m = (gathered past m).foldl addRecord (n.requests s m) ∧
      ∀ r ∈ gathered past m, n.AskedIn past m r := by
  induction h with
  | none => exact ⟨rfl, nofun⟩
  | @run past t u r before ran ih =>
    obtain ⟨hrequests, hasked⟩ := ih
    have hrun := hn.asked hh hi (before.present hn hh hi hs) ran
    rw [gathered_append]
    refine ⟨by rw [hrun.requests m hm, hrequests, List.foldl_append], fun q hq => ?_⟩
    rcases List.mem_append.1 hq with hq | hq
    · obtain ⟨x, hx, hxq⟩ := hasked q hq
      exact ⟨x, List.mem_append_left _ hx, hxq⟩
    · rcases hrun.accepted m hm with ⟨hnone, -⟩ | ⟨g, serial, hg, hserial, hone⟩
      · rw [hnone] at hq
        cases hq
      · rw [hone] at hq
        exact ⟨_, List.mem_append_right _ List.mem_cons_self, g, serial, hg, hserial,
          List.mem_singleton.1 hq⟩
  | meanwhile _ _ same ih => exact ⟨(same m hm).trans ih.1, ih.2⟩

/-- **Taking requests out leaves none.** -/
theorem Truthful.requests_of_remove (hn : n.Truthful) (hs : n.Present s) (hm : m ∈ n.members)
    (h : (Sync.DelegationRequest.remove n.zone).perform n.outside s = (.ok (), t)) :
    n.requests t m = [] := by
  rw [Sync.DelegationRequest.remove, perform_bind_eq_ok] at h
  obtain ⟨members, u, hu, h⟩ := h
  obtain ⟨hlisted, -, rfl⟩ := groupMembers_eq_ok.1 hu
  obtain rfl : n.members = members := Except.ok.inj (hs.members.symm.trans hlisted)
  have hmembers : ∀ ms : List Member, (ms.map fun m => (⟨m, { removeKinds := [.csync] },
      [s!"  Removed CSYNC from {m.name}"]⟩ : Plan)).map Plan.member = ms := fun ms => by
    rw [List.map_map]
    exact List.map_id ms
  have hpushed := hn.pushed hs (by rw [hmembers]) h
  rw [requests, records, hpushed.changed _ (List.mem_map_of_mem hm), Option.getD_some]
  refine List.filter_eq_nil_iff.2 fun r hr hkind => ?_
  have hkept := (List.mem_filter.1 (List.mem_filter.1 hr).1).2
  rw [beq_iff_eq.1 hkind] at hkept
  cases hkept

/-- **Requests that stay behind.**  Requests were asked for any number of times, with any outcome,
and are asked for once more with success.  Then each member serves what it served at first, one
request for each earlier run that reached it, with the serial number that it answered then, and the
one for the serial number that it answers now.  So it serves this one alone, with the time to live
of its group, just if it served no request right before, or this very one alone.  Taking requests
out with success leaves none. -/
theorem requests_of_run (hn : n.Truthful) (hh : n.Harmless) (hi : n.Inert)
    (hs : n.Present s) (hrounds : n.Rounds s past t) :
    ((Sync.DelegationRequest.run n.zone).perform n.outside t = (.ok (), u) → ∀ m ∈ n.members,
      ∃ g serial, t.state.groups.get? n.zone = some g ∧ n.serialAt t m = some serial ∧
        n.requests u m = addRecord ((gathered past m).foldl addRecord (n.requests s m))
          (request g.ttl serial) ∧
        (∀ r ∈ gathered past m, n.AskedIn past m r) ∧
        (n.requests u m = [request g.ttl serial]
          ↔ n.requests t m = [] ∨ n.requests t m = [request g.ttl serial])) ∧
    ((Sync.DelegationRequest.remove n.zone).perform n.outside t = (.ok (), u) →
      ∀ m ∈ n.members, n.requests u m = []) := by
  have hpresent := hrounds.present hn hh hi hs
  refine ⟨fun hrun m hm => ?_, fun hremove m hm => hn.requests_of_remove hpresent hm hremove⟩
  obtain ⟨hrequests, hasked⟩ := requests_of_rounds hn hh hi hs hm hrounds
  have hlast := hn.asked hh hi hpresent hrun
  obtain ⟨-, hne⟩ | ⟨g, serial, hg, hserial, hone⟩ := hlast.accepted m hm
  · exact absurd rfl hne
  · have hafter : n.requests u m = addRecord (n.requests t m) (request g.ttl serial) := by
      rw [hlast.requests m hm, hone, List.foldl_cons, List.foldl_nil]
    refine ⟨g, serial, hg, hserial, by rw [hafter, hrequests], hasked, ?_⟩
    rw [hafter]
    exact ChangeSet.addRecord_eq_singleton

end Deployment
/-! ## 6. Small groups -/

namespace Sample

open Deployment Rehearsal

/-- A group of two. -/
def askers : List Member :=
  [member 'a' false, member 'b' false]

/-- Its servers, which may reject updates. -/
def wary : Deployment World :=
  wavering [.nsupdate] zone askers "p"

/-- What asking for requests does to a session. -/
def asking (s : Session World) : Except Error Unit × Session World :=
  (Sync.DelegationRequest.run zone).perform wary.outside s

/-- At first the second signer rejects updates. -/
def unasked : Session World where
  state := departing askers
  world := {
    network := {
      servers := .ofList [("a", [⟨60, .soa 1⟩]), ("b", [⟨60, .soa 1⟩])]
      rejecting := .ofList [("b", "REFUSED")] }
    clock := default
    saved := .empty }
  scheduler := { interval := 1 }

/-- What is left then. -/
def halfAsked : Session World :=
  (asking unasked).2

/-- Later all updates are accepted, and the zones have other serial numbers. -/
def askedLater : Session World :=
  { halfAsked with world := { halfAsked.world with network := {
    servers := .ofList [("a", [⟨60, .soa 2⟩, request 300 1]), ("b", [⟨60, .soa 2⟩])] } } }

/-- The first signer is reached twice and serves two requests. -/
theorem requests_of_askers :
    (asking unasked).1 = .error (.updateRejected "b" "REFUSED") ∧
    (asking askedLater).1 = .ok () ∧
    (wary.requests (asking askedLater).2 (member 'a' false)
      == [request 300 1, request 300 2]) = true ∧
    ∀ m ∈ askers, ∃ g serial, askedLater.state.groups.get? zone = some g ∧
      wary.serialAt askedLater m = some serial ∧
      wary.requests (asking askedLater).2 m
        = addRecord ((gathered [(unasked, halfAsked)] m).foldl addRecord (wary.requests unasked m))
          (request g.ttl serial) ∧
      (∀ r ∈ gathered [(unasked, halfAsked)] m, wary.AskedIn [(unasked, halfAsked)] m r) ∧
      (wary.requests (asking askedLater).2 m = [request g.ttl serial]
        ↔ wary.requests askedLater m = [] ∨
          wary.requests askedLater m = [request g.ttl serial]) := by
  have hlast : (asking askedLater).1 = .ok () := by decide +kernel
  have hserving : ∀ s, s = unasked ∨ s = askedLater → ∀ m ∈ askers,
      (wary.holds s.world m.signer.address).isSome = true := by
    rintro s (rfl | rfl) <;> decide +kernel
  have hpresent : ∀ s, s = unasked ∨ s = askedLater → wary.Present s := fun s hs =>
    ⟨by rcases hs with rfl | rfl <;> decide +kernel,
      fun m hm => Option.isSome_iff_exists.1 (hserving s hs m hm)⟩
  have hsame : ∀ m ∈ askers, wary.requests askedLater m = wary.requests halfAsked m := by
    rintro _ (_ | ⟨_, _ | ⟨_, ⟨⟩⟩⟩) <;> rfl
  have hrounds : wary.Rounds unasked ([] ++ [(unasked, halfAsked)]) askedLater :=
    .meanwhile (.run .none (perform_of_fst rfl)) (hpresent _ (.inr rfl)) hsame
  refine ⟨by decide +kernel, hlast, by decide +kernel, ?_⟩
  exact (requests_of_run (truthful_wavering (by decide +kernel)) harmless_wavering
    ⟨fun _ _ _ _ _ => rfl⟩ (hpresent _ (.inl rfl)) hrounds).1 (perform_of_fst hlast)

/-- A group of one, whose signer serves the request of an earlier run. -/
def stale : Session World :=
  departure [member 'a' false] [("a", [⟨60, .soa 2⟩, request 300 1]), ("p", [])]

/-- What asking for requests does to it. -/
def staleAsked : Except Error Unit × Session World :=
  (Sync.DelegationRequest.run zone).perform (deployment [member 'a' false]).outside stale

/-- **On a faithful network, a run that succeeds may leave a signer with two requests.** -/
theorem requests_of_stale :
    (deployment [member 'a' false]).Faithful ∧
    (deployment [member 'a' false]).Found stale ∧
    staleAsked.1 = .ok () ∧
    (deployment [member 'a' false]).serialAt stale (member 'a' false) = some 2 ∧
    ((deployment [member 'a' false]).requests staleAsked.2 (member 'a' false)
      == [request 300 1, request 300 2]) = true := by
  have hsome : ∀ server ∈ ["a", "p"],
      ((deployment [member 'a' false]).holds stale.world server).isSome = true := by decide +kernel
  have hserving : ∀ server ∈ ["a", "p"],
      ∃ rs, (deployment [member 'a' false]).holds stale.world server = some rs :=
    fun server h => Option.isSome_iff_exists.1 (hsome server h)
  have hcredential : Push.credential stale.state (member 'a' false)
    = .ok (.tsig "k" [1, 2, 3]) := by decide +kernel
  have hdocumented : (deployment [member 'a' false]).Documented stale.state := by
    refine ⟨by decide +kernel, List.cons_ne_nil _ _, ⟨_, rfl, rfl⟩, fun m hm => ?_⟩
    rw [List.mem_singleton.1 hm]
    exact ⟨_, hcredential, trivial⟩
  refine ⟨faithful (by decide +kernel) (by decide +kernel), ⟨hdocumented, fun m hm => ?_, ?_⟩,
    by decide +kernel, by decide +kernel, by decide +kernel⟩
  · rw [List.mem_singleton.1 hm]
    exact hserving _ List.mem_cons_self
  · exact hserving _ (List.mem_cons_of_mem _ List.mem_cons_self)

end Sample
end MultiSigner
