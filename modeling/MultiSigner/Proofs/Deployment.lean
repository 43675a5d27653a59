/-
# Groups on a faithful network

A deployment is a group together with the servers of its members and of its parent.  `holds` says
which records a server has in each state of the outside, and `takes` with which credentials it can be
updated.  The network is faithful if a query returns the records of its kind, an update that a push
sends with such a credential does what its change set says, and nothing else happens to any server
meanwhile.

On such a network the operations that ask and the operations that push succeed, and what they give
and leave behind is known exactly:

* `achieves_observeGroup` and `achieves_observeParent`: the views are those of the records held.
* `achieves_push`: each server that a plan is for holds what the plan makes of its records, and all
  other servers hold what they held.
-/
import MultiSigner.Proofs.Messages
import MultiSigner.Proofs.Push
import MultiSigner.Proofs.Records
import MultiSigner.Proofs.Serving
import Mathlib.Logic.Function.Basic
import Mathlib.Data.List.Nodup

namespace MultiSigner

open Operation

/-! ## 1. Deployments -/

/-- A group, and the network that its members and its parent are on. -/
structure Deployment (ω : Type) where
  outside : Outside ω
  zone : DomainName
  members : List Member
  /-- The address of the parent. -/
  parent : String
  /-- The records of a server, none if there is no such server. -/
  holds : ω → String → Option (List Record)
  /-- The credentials with which servers take updates. -/
  takes : Credential → Prop

namespace Deployment

variable {ω : Type}

/-- The records of a member's server. -/
def records (n : Deployment ω) (s : Session ω) (m : Member) : List Record :=
  (n.holds s.world m.signer.address).getD []

/-- The records of the parent's server. -/
def parentRecords (n : Deployment ω) (s : Session ω) : List Record :=
  (n.holds s.world n.parent).getD []

/-- An update as a push sends it: it changes something, but not the start of the zone, and it has a
credential with which servers take updates. -/
structure Acceptable (n : Deployment ω) (x : Update) : Prop where
  zone : x.zone = n.zone
  changes : x.changes.isEmpty = false
  start : ¬ x.changes.TouchesStart
  credential : n.takes x.target.credential

/-- **A faithful network.**  The servers of the members are all different and none of them is the
parent's, a query returns the records of its kind, and an update that is accepted does to its server
what its changes say.  Nothing else happens to any server.  Updates that a push sends are accepted;
of others, such as one that changes nothing, this is not asked. -/
structure Faithful (n : Deployment ω) : Prop where
  apart : (n.parent :: n.members.map fun m => m.signer.address).Nodup
  query : ∀ (kind : RecordKind) {w : ω} {server : String} {rs : List Record},
    n.holds w server = some rs →
      (n.outside.query server n.zone kind w).1 = .ok ⟨rs.filter fun r => r.kind == kind⟩ ∧
        n.holds (n.outside.query server n.zone kind w).2 = n.holds w
  updater : ∀ m ∈ n.members, ∃ u, n.outside.updaterFor m.signer.kind = .ok u
  update : ∀ {kind : UpdaterKind} {u : Updater ω}, n.outside.updaterFor kind = .ok u →
    ∀ {w : ω} {x : Update} {rs : List Record}, x.zone = n.zone → x.target.kind = kind →
      n.holds w x.target.address = some rs → (u.apply x w).outcome = .ok () →
        n.holds (u.apply x w).world
          = Function.update (n.holds w) x.target.address (some (x.changes.applyTo rs))
  accept : ∀ {kind : UpdaterKind} {u : Updater ω}, n.outside.updaterFor kind = .ok u →
    ∀ {w : ω} {x : Update} {rs : List Record}, n.Acceptable x → x.target.kind = kind →
      n.holds w x.target.address = some rs → (u.apply x w).outcome = .ok ()

/-- The servers of the members are all different. -/
def Apart (n : Deployment ω) : Prop :=
  (n.members.map fun m => m.signer.address).Nodup

/-- Every server has an address. -/
structure Addressed (n : Deployment ω) : Prop where
  members : ∀ m ∈ n.members, m.signer.address.isEmpty = false
  parent : n.parent.isEmpty = false

/-- The document is about this group, which has members, and has a credential for each of them with
which it can be updated. -/
structure Documented (n : Deployment ω) (s : State) : Prop where
  members : s.members n.zone = .ok n.members
  populated : n.members ≠ []
  parent : ∃ g, s.groups.get? n.zone = some g ∧ g.parent = n.parent
  credentials : ∀ m ∈ n.members, ∃ c, Push.credential s m = .ok c ∧ n.takes c

/-- Every server is there. -/
structure Serving (n : Deployment ω) (s : Session ω) : Prop where
  members : ∀ m ∈ n.members, ∃ rs, n.holds s.world m.signer.address = some rs
  parent : ∃ rs, n.holds s.world n.parent = some rs

/-- A session in which the group can be worked on. -/
structure Found (n : Deployment ω) (s : Session ω) : Prop where
  documented : n.Documented s.state
  serving : n.Serving s

/-- Nothing happened but that servers were asked and lines were reported. -/
structure Still (n : Deployment ω) (s t : Session ω) : Prop where
  lasting : t.lasting = s.lasting
  holds : n.holds t.world = n.holds s.world

variable {n : Deployment ω} {s t u : Session ω}

theorem Faithful.members_apart (hn : n.Faithful) : n.Apart :=
  (List.nodup_cons.1 hn.apart).2

/-- Addresses of members are different. -/
theorem Apart.nodup (h : n.Apart) {ms : List Member} (hms : ms.Sublist n.members) :
    (ms.map fun m => m.signer.address).Nodup :=
  List.Nodup.sublist (hms.map _) h

/-- Plans for different members are for different addresses. -/
theorem Apart.nodup_plans (h : n.Apart) {plans : List Plan}
    (hplans : (plans.map Plan.member).Sublist n.members) :
    (plans.map fun p => p.member.signer.address).Nodup := by
  have hnodup := h.nodup hplans
  rwa [List.map_map] at hnodup

/-- Members at one address are one member. -/
theorem Apart.eq_of_address (h : n.Apart) {m m' : Member} (hm : m ∈ n.members)
    (hm' : m' ∈ n.members) (haddress : m.signer.address = m'.signer.address) : m = m' :=
  List.inj_on_of_nodup_map h hm hm' haddress

theorem Still.refl (s : Session ω) : n.Still s s := ⟨rfl, rfl⟩

theorem Still.trans (h : n.Still s t) (k : n.Still t u) : n.Still s u :=
  ⟨k.lasting.trans h.lasting, k.holds.trans h.holds⟩

theorem Still.state (h : n.Still s t) : t.state = s.state :=
  (Session.lasting_eq_iff.1 h.lasting).1

theorem records_congr (h : n.holds t.world = n.holds s.world) (m : Member) :
    n.records t m = n.records s m := by
  rw [records, h, records]

theorem Serving.congr (hs : n.Serving s) (h : n.holds t.world = n.holds s.world) :
    n.Serving t := by
  constructor
  · rw [h]
    exact hs.members
  · rw [h]
    exact hs.parent

theorem Still.records (h : n.Still s t) (m : Member) : n.records t m = n.records s m :=
  records_congr h.holds m

theorem Still.found (h : n.Still s t) (hs : n.Found s) : n.Found t := by
  refine ⟨?_, hs.serving.congr h.holds⟩
  rw [h.state]
  exact hs.documented

theorem Serving.holds_eq (h : n.Serving s) {m : Member} (hm : m ∈ n.members) :
    n.holds s.world m.signer.address = some (n.records s m) := by
  obtain ⟨rs, hrs⟩ := h.members m hm
  rw [records, hrs, Option.getD_some]

theorem Serving.holds_parent (h : n.Serving s) :
    n.holds s.world n.parent = some (n.parentRecords s) := by
  obtain ⟨rs, hrs⟩ := h.parent
  rw [parentRecords, hrs, Option.getD_some]

/-! ## 2. Asking -/

theorem still_line (text : String) :
    Achieves n.outside s (line text) fun _ t => n.Still s t :=
  ⟨(), _, perform_line text, rfl, rfl⟩

theorem still_lines (texts : List String) :
    Achieves n.outside s (lines texts) fun _ t => n.Still s t :=
  ⟨(), _, perform_lines texts, rfl, rfl⟩

theorem perform_groupMembers (hs : n.Found s) :
    (groupMembers n.zone).perform n.outside s = (.ok n.members, s) :=
  groupMembers_eq_ok.2 ⟨hs.documented.members, hs.documented.populated, rfl⟩

theorem perform_group {σ : State} {g : Group} (h : σ.groups.get? n.zone = some g) :
    (liftM (σ.group n.zone) : Operation ω Group).perform n.outside s = (.ok g, s) := by
  rw [perform_lift, State.group_eq_ok.2 h]

theorem perform_checkAddress {m : Member} (h : m.signer.address.isEmpty = false) :
    (liftM (checkAddress m) : Operation ω Unit).perform n.outside s = (.ok (), s) := by
  rw [perform_lift, checkAddress, if_neg (by rw [h]; exact Bool.false_ne_true)]

theorem achieves_query (hn : n.Faithful) {server : String} {rs : List Record}
    (h : n.holds s.world server = some rs) (kind : RecordKind) :
    Achieves n.outside s (query server n.zone kind) fun a t =>
      a = ⟨rs.filter fun r => r.kind == kind⟩ ∧ n.Still s t := by
  obtain ⟨hanswer, hholds⟩ := hn.query kind h
  refine ⟨_, { s with world := (n.outside.query server n.zone kind s.world).2 }, ?_, rfl, rfl,
    hholds⟩
  rw [perform_query, hanswer]

/-- Asking a server for records of some kinds, one after the other. -/
theorem achieves_foldlM_absorb (hn : n.Faithful) {server : String} {rs : List Record} {β : Type}
    (absorb : β → Answer → β) : ∀ {kinds : List RecordKind} {b : β} {s : Session ω},
      n.holds s.world server = some rs →
        Achieves n.outside s
          (kinds.foldlM (fun b kind => return absorb b (← query server n.zone kind)) b)
          fun c t => n.Still s t ∧
            c = kinds.foldl (fun b kind => absorb b ⟨rs.filter fun r => r.kind == kind⟩) b
  | [], b, s, _ => achieves_pure ⟨.refl s, rfl⟩
  | kind :: kinds, b, s, h => by
    rw [List.foldlM_cons]
    have hfirst : Achieves n.outside s
        (do return absorb b (← query server n.zone kind) : Operation ω β) fun c t =>
          n.Still s t ∧ c = absorb b ⟨rs.filter fun r => r.kind == kind⟩ := by
      refine (achieves_query hn h kind).bind fun a t ⟨ha, ht⟩ => ?_
      exact achieves_pure ⟨ht, by rw [ha]⟩
    refine hfirst.bind fun c t ⟨ht, hc⟩ => ?_
    refine (achieves_foldlM_absorb hn absorb (ht.holds ▸ h)).imp fun e u ⟨hu, he⟩ => ?_
    exact ⟨ht.trans hu, by rw [he, hc, List.foldl_cons]⟩

theorem achieves_observeSigner (hn : n.Faithful) (ha : n.Addressed) (hs : n.Found s) {m : Member}
    (hm : m ∈ n.members) (kinds : List RecordKind) :
    Achieves n.outside s (observeSigner n.zone kinds m) fun v t =>
      v = .viewOf kinds (n.records s m) m ∧ n.Still s t := by
  refine Achieves.after (perform_checkAddress (ha.members m hm)) ?_
  refine (achieves_foldlM_absorb hn SignerView.absorb (hs.serving.holds_eq hm)).imp
    fun v t ⟨ht, hv⟩ => ⟨hv, ht⟩

/-- What asking all members for some kinds of records gives. -/
def views (n : Deployment ω) (kinds : List RecordKind) (s : Session ω) : List SignerView :=
  n.members.map fun m => .viewOf kinds (n.records s m) m

/-- A pass over the members, each of which is dealt with quietly. -/
theorem achieves_mapM_members {α : Type} {f : Member → Operation ω α} {g : Member → α}
    (h : ∀ m ∈ n.members, ∀ t, n.Still s t →
      Achieves n.outside t (f m) fun a u => a = g m ∧ n.Still t u) :
    Achieves n.outside s (n.members.mapM f) fun as t => as = n.members.map g ∧ n.Still s t := by
  refine (achieves_mapM (I := n.Still s) (P := fun m a => g m = a)
    (fun m hm t ht => ?_) (.refl s)).imp fun as t ⟨has, ht⟩ => ⟨?_, ht⟩
  · exact (h m hm t ht).imp fun a u ⟨ha, hu⟩ => ⟨ha.symm, ht.trans hu⟩
  · rw [← List.forall₂_map_left_iff, List.forall₂_eq_eq_eq] at has
    exact has.symm

/-- **What the members are found to serve.** -/
theorem achieves_observeGroup (hn : n.Faithful) (ha : n.Addressed) (hs : n.Found s)
    (kinds : List RecordKind) :
    Achieves n.outside s (observeGroup n.zone kinds) fun vs t =>
      vs = n.views kinds s ∧ n.Still s t := by
  refine Achieves.after (perform_groupMembers hs) (achieves_mapM_members fun m hm t ht => ?_)
  refine (achieves_observeSigner hn ha (ht.found hs) hm kinds).imp fun v u ⟨hv, hu⟩ => ⟨?_, hu⟩
  rw [hv, ht.records]

theorem perform_parentAddress (ha : n.Addressed) (hs : n.Found s) :
    (parentAddress n.zone).perform n.outside s = (.ok n.parent, s) := by
  obtain ⟨g, hg, hp⟩ := hs.documented.parent
  simp only [parentAddress, perform_bind, perform_state, perform_lift, State.group_eq_ok.2 hg, hp,
    ha.parent, Bool.false_eq_true, if_false, perform_pure]

/-- **What the parent is found to serve.** -/
theorem achieves_observeParent (hn : n.Faithful) (ha : n.Addressed) (hs : n.Found s)
    (kinds : List RecordKind) :
    Achieves n.outside s (observeParent n.zone kinds) fun p t =>
      p = .viewOf kinds (n.parentRecords s) ∧ n.Still s t := by
  refine Achieves.after (perform_parentAddress ha hs) ?_
  exact (achieves_foldlM_absorb hn ParentView.absorb hs.serving.holds_parent).imp
    fun p t ⟨ht, hp⟩ => ⟨hp, ht⟩

/-! ## 3. Pushing -/

/-- The plans were pushed: each server that one is for holds what it makes of the records, and
nothing else happened to any server or to the document. -/
structure Pushed (n : Deployment ω) (plans : List Plan) (s t : Session ω) : Prop where
  settled : t.settled = s.settled
  changed : ∀ p ∈ plans, n.holds t.world p.member.signer.address
    = some (p.changes.applyTo (n.records s p.member))
  rest : ∀ server, (∀ p ∈ plans, p.member.signer.address ≠ server) →
    n.holds t.world server = n.holds s.world server

/-- A member can be sent updates. -/
structure Sendable (n : Deployment ω) (σ : State) (m : Member) : Prop where
  address : m.signer.address.isEmpty = false
  updater : ∃ u, n.outside.updaterFor m.signer.kind = .ok u
  credential : ∃ c, Push.credential σ m = .ok c

theorem Found.sendable (hs : n.Found s) (hn : n.Faithful) (ha : n.Addressed) {m : Member}
    (hm : m ∈ n.members) : n.Sendable s.state m :=
  ⟨ha.members m hm, hn.updater m hm, (hs.documented.credentials m hm).imp fun _ hc => hc.1⟩

/-- The credential of a member, if there is only this one, is one that servers take. -/
theorem Documented.takes {σ : State} (h : n.Documented σ) {m : Member} (hm : m ∈ n.members)
    {c : Credential} (hc : Push.credential σ m = .ok c) : n.takes c := by
  obtain ⟨c', hc', htakes⟩ := h.credentials m hm
  rwa [Except.ok.inj (hc.symm.trans hc')]

/-- **What a push sends** is acceptable: plans that change nothing are left out, and the others have
the credentials of their members. -/
theorem acceptable_of_resolved {σ : State} {plans : List Plan} {qs : List (Plan × UpdateTarget)}
    (h : List.Forall₂ (Push.Resolved σ) (Push.effective plans) qs)
    (hstart : ∀ p ∈ plans, ¬ p.changes.TouchesStart)
    (htakes : ∀ p ∈ plans, ∀ c, Push.credential σ p.member = .ok c → n.takes c) :
    List.Forall₂ (fun p q => Push.Resolved σ p q ∧ n.Acceptable (Push.updateOf n.zone q))
      (Push.effective plans) qs := by
  refine ((List.forall₂_and_left _ _).2 ⟨fun p hp => hp, h⟩).imp fun p q ⟨hp, hq⟩ => ⟨hq, ?_⟩
  obtain ⟨hp, heffective⟩ := List.mem_filter.1 hp
  have hchanges : p.changes.isEmpty = false := by simpa using heffective
  obtain ⟨c, hc, rfl⟩ := hq
  exact ⟨rfl, hchanges, hstart p hp, htakes p hp c hc⟩

theorem achieves_resolve {p : Plan} (hp : n.Sendable s.state p.member) :
    Achieves n.outside s (Push.resolve p) fun r t =>
      t = s ∧ ∃ q, some q = r ∧ Push.Resolved s.state p q := by
  obtain ⟨u, hu⟩ := hp.updater
  obtain ⟨c, hc⟩ := hp.credential
  have hcheck : (Push.checkMember p.member).perform n.outside s = (.ok (), s) := by
    simp only [Push.checkMember, perform_bind, perform_checkAddress hp.address, perform_read,
      perform_lift, hu, perform_pure]
  refine Achieves.after hcheck (Achieves.after perform_state ?_)
  simp only [hc]
  exact achieves_pure ⟨rfl, _, rfl, c, hc, rfl⟩

theorem exists_map_some {α β : Type} {R : α → β → Prop} {l : List α} {rs : List (Option β)}
    (h : List.Forall₂ (fun a r => ∃ b, some b = r ∧ R a b) l rs) :
    ∃ bs, rs = bs.map some ∧ List.Forall₂ R l bs := by
  induction h with
  | nil => exact ⟨[], rfl, .nil⟩
  | cons h _ ih =>
    obtain ⟨b, rfl, hb⟩ := h
    obtain ⟨bs, rfl, hbs⟩ := ih
    exact ⟨b :: bs, rfl, .cons hb hbs⟩

theorem achieves_resolveAll {plans : List Plan}
    (hplans : ∀ p ∈ plans, n.Sendable s.state p.member) :
    Achieves n.outside s (Push.resolveAll plans) fun qs t =>
      t = s ∧ List.Forall₂ (Push.Resolved s.state) plans qs := by
  have hall : Achieves n.outside s (plans.mapM Push.resolve) fun rs t =>
      List.Forall₂ (fun p r => ∃ q, some q = r ∧ Push.Resolved s.state p q) plans rs ∧ t = s := by
    refine achieves_mapM (I := (· = s)) (fun p hp t ht => ?_) rfl
    subst ht
    exact (achieves_resolve (hplans p hp)).imp fun r t ⟨ht, hr⟩ => ⟨hr, ht⟩
  refine hall.bind fun rs t ⟨hrs, ht⟩ => ?_
  -- every plan has a target, so the list of those that have one is all of them
  obtain ⟨qs, rfl, hqs⟩ := exists_map_some hrs
  have hfound : (qs.map some).filterMap id = qs := by
    rw [List.filterMap_map, Function.id_comp, List.filterMap_some]
  simp only [hfound, hqs.length_eq, Nat.lt_irrefl, if_false]
  exact achieves_pure ⟨ht, hqs⟩

theorem achieves_send (hn : n.Faithful) {q : Plan × UpdateTarget} {u : Updater ω}
    {rs : List Record} (hu : n.outside.updaterFor q.2.kind = .ok u)
    (hq : n.Acceptable (Push.updateOf n.zone q)) (hrs : n.holds s.world q.2.address = some rs) :
    Achieves n.outside s (Push.send n.zone q) fun _ t => t.settled = s.settled ∧
      n.holds t.world = Function.update (n.holds s.world) q.2.address
        (some (q.1.changes.applyTo rs)) := by
  have hok := hn.accept hu hq rfl hrs
  refine (Push.achieves_send hu hok).imp fun _ t ⟨hsettled, hworld⟩ => ⟨hsettled, ?_⟩
  rw [hworld]
  exact hn.update hu (x := Push.updateOf n.zone q) rfl rfl hrs hok

theorem Pushed.refl (s : Session ω) : n.Pushed [] s s :=
  ⟨rfl, fun p hp => (by cases hp), fun _ _ => rfl⟩

/-- One plan after the other. -/
theorem Pushed.cons {p : Plan} {plans : List Plan}
    (hp : ∀ p' ∈ plans, p'.member.signer.address ≠ p.member.signer.address)
    (hsettled : t.settled = s.settled)
    (hholds : n.holds t.world = Function.update (n.holds s.world) p.member.signer.address
      (some (p.changes.applyTo (n.records s p.member))))
    (h : n.Pushed plans t u) : n.Pushed (p :: plans) s u where
  settled := h.settled.trans hsettled
  changed p' hp' := by
    rcases List.mem_cons.1 hp' with rfl | hp'
    · rw [h.rest _ hp, hholds, Function.update_self]
    · have hrecords : n.records t p'.member = n.records s p'.member := by
        rw [records, hholds, Function.update_of_ne (hp p' hp'), records]
      rw [h.changed p' hp', hrecords]
  rest server hserver := by
    rw [h.rest server fun p' hp' => hserver p' (List.mem_cons_of_mem _ hp'), hholds,
      Function.update_of_ne (hserver p List.mem_cons_self).symm]

theorem achieves_sendAll (hn : n.Faithful) {st : State} : ∀ {plans : List Plan}
    {qs : List (Plan × UpdateTarget)} {s : Session ω},
      List.Forall₂ (fun p q => Push.Resolved st p q ∧ n.Acceptable (Push.updateOf n.zone q)) plans qs →
      (∀ p ∈ plans, p.member ∈ n.members ∧
        n.holds s.world p.member.signer.address = some (n.records s p.member)) →
      (plans.map fun p => p.member.signer.address).Nodup →
        Achieves n.outside s (qs.forM (Push.send n.zone)) fun _ t => n.Pushed plans s t
  | [], _, s, .nil, _, _ => achieves_pure (.refl s)
  | p :: plans, _ :: qs, s, .cons ⟨⟨c, _, rfl⟩, hq⟩ hqs, hmem, hnodup => by
    obtain ⟨hp, hnodup⟩ := List.nodup_cons.1 hnodup
    have hother : ∀ p' ∈ plans, p'.member.signer.address ≠ p.member.signer.address :=
      fun p' hp' heq => hp (List.mem_map.2 ⟨p', hp', heq⟩)
    obtain ⟨hpmem, hpholds⟩ := hmem p List.mem_cons_self
    obtain ⟨u, hu⟩ := hn.updater p.member hpmem
    show Achieves n.outside s (Push.send n.zone _ >>= fun _ => qs.forM (Push.send n.zone)) _
    refine (achieves_send hn (q := (p, Push.target st p.member c)) hu hq hpholds).bind
      fun _ t ⟨hsettled, hholds⟩ => ?_
    refine (achieves_sendAll hn hqs (fun p' hp' => ?_) hnodup).imp
      fun _ v hv => .cons hother hsettled hholds hv
    obtain ⟨hp'mem, hp'holds⟩ := hmem p' (List.mem_cons_of_mem _ hp')
    refine ⟨hp'mem, ?_⟩
    have hsame : n.holds t.world p'.member.signer.address
        = n.holds s.world p'.member.signer.address := by
      rw [hholds]
      exact Function.update_of_ne (hother p' hp') _ _
    rw [records, hsame, hp'holds, Option.getD_some]

/-- Plans that change nothing may be left out: leaving them out is as good as pushing them. -/
theorem Pushed.of_effective {plans : List Plan}
    (hnodup : (plans.map fun p => p.member.signer.address).Nodup)
    (hholds : ∀ p ∈ plans, n.holds s.world p.member.signer.address
      = some (n.records s p.member)) (h : n.Pushed (Push.effective plans) s t) :
    n.Pushed plans s t := by
  have heff : ∀ p ∈ Push.effective plans, p ∈ plans := fun p hp => (List.mem_filter.1 hp).1
  refine ⟨h.settled, fun p hp => ?_, fun server hserver =>
    h.rest server fun p hp => hserver p (heff p hp)⟩
  cases hempty : p.changes.isEmpty with
  | false => exact h.changed p (List.mem_filter.2 ⟨hp, by rw [hempty]; rfl⟩)
  | true =>
    rw [ChangeSet.applyTo_of_isEmpty hempty, ← hholds p hp]
    refine h.rest _ fun p' hp' heq => ?_
    have hsame : p' = p := List.inj_on_of_nodup_map hnodup (heff p' hp') hp heq
    have hchanges := (List.mem_filter.1 hp').2
    rw [hsame, hempty] at hchanges
    cases hchanges

/-- **A push succeeds**, and each server holds what its plan makes of its records. -/
theorem achieves_push (hn : n.Faithful) (ha : n.Addressed) (hs : n.Found s) {plans : List Plan}
    (hplans : (plans.map Plan.member).Sublist n.members)
    (hstart : ∀ p ∈ plans, ¬ p.changes.TouchesStart) :
    Achieves n.outside s (Push.push n.zone plans) fun _ t => n.Pushed plans s t := by
  have hmem : ∀ p ∈ plans, p.member ∈ n.members := fun p hp =>
    hplans.subset (List.mem_map_of_mem hp)
  have hholds : ∀ p ∈ plans, n.holds s.world p.member.signer.address
      = some (n.records s p.member) := fun p hp => hs.serving.holds_eq (hmem p hp)
  have hnodup := hn.members_apart.nodup_plans hplans
  have heff : ∀ p ∈ Push.effective plans, p ∈ plans := fun p hp => (List.mem_filter.1 hp).1
  have hresolve := achieves_resolveAll fun p hp => hs.sendable hn ha (hmem p (heff p hp))
  refine hresolve.bind fun qs t ⟨ht, hqs⟩ => ?_
  subst ht
  have hacceptable := acceptable_of_resolved hqs hstart fun p hp _ hc =>
    hs.documented.takes (hmem p hp) hc
  refine (achieves_sendAll hn hacceptable (fun p hp => ⟨hmem p (heff p hp), hholds p (heff p hp)⟩)
    (hnodup.sublist (List.filter_sublist.map _))).imp fun _ u hu => ?_
  exact hu.of_effective hnodup hholds

end Deployment
end MultiSigner
