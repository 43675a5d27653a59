/-
# What pushing sends

`Push.push` resolves the targets of all plans that change something and then sends one update for
each.  `Push.update` is the update that a plan stands for; the statements below tie the deliveries
of a push to it.

* `reply_of_send`: the outcome of sending an update is the reply of the updater.
* `sent_of_push`: however a push goes, what it sends are updates of its plans.
* `push_eq_ok`: a push that succeeds has sent the update of every plan that changes something, in
  order, and each was accepted.
-/
import MultiSigner.Proofs.Observation
import MultiSigner.Operation.Push

namespace MultiSigner

open Operation

variable {ω : Type} {o : Outside ω} {s t : Session ω} {zone : DomainName}

/-- The document, the tasks and the events: what a push leaves as it is. -/
def Session.settled (s : Session ω) : State × Scheduler × List Event :=
  (s.state, s.scheduler, s.events)

theorem Session.settled_of_lasting {s t : Session ω} (h : t.lasting = s.lasting) :
    t.settled = s.settled := by
  obtain ⟨h₁, h₂, h₃, -⟩ := Session.lasting_eq_iff.1 h
  simp only [Session.settled, h₁, h₂, h₃]

theorem updater_of_updaterFor {kind : UpdaterKind} {u : Updater ω}
    (h : o.updaterFor kind = .ok u) : o.updater kind = some u := by
  unfold Outside.updaterFor at h
  split at h
  · cases h
  · rename_i v hv
    cases hcheck : v.check with
    | error e =>
      rw [hcheck] at h
      cases h
    | ok _ =>
      rw [hcheck] at h
      cases h
      exact hv

namespace Push

/-! ## 1. The update of a plan -/

/-- The update that a plan stands for, as far as its signer has a usable credential. -/
def update (zone : DomainName) (s : State) (p : Plan) : Except Error Update :=
  (credential s p.member).map fun c => ⟨zone, target s p.member c, p.changes⟩

/-- The plans that change something. -/
def effective (plans : List Plan) : List Plan :=
  plans.filter fun p => !p.changes.isEmpty

theorem update_eq_ok {p : Plan} {s : State} {u : Update} (h : update zone s p = .ok u) :
    u.zone = zone ∧ u.target.signer = p.member.name ∧ u.target.address = p.member.signer.address
      ∧ u.changes = p.changes := by
  unfold update at h
  cases hc : credential s p.member with
  | error e =>
    rw [hc] at h
    cases h
  | ok c =>
    rw [hc] at h
    cases h
    exact ⟨rfl, rfl, rfl, rfl⟩

/-! ## 2. Resolving -/

section Resolve

variable {F : Footprint ω}

theorem leaves_checkMember (m : Member) : Leaves F (checkMember m : Operation ω Unit) :=
  leaves_bind (leaves_lift _) fun _ => leaves_bind leaves_read fun _ =>
    leaves_bind (leaves_lift _) fun _ => leaves_pure _

theorem leaves_resolve (hline : ∀ (name : String) (e : Error),
      Leaves F (line s!"Skipping signer {name}: {e.message}" : Operation ω Unit)) (p : Plan) :
    Leaves F (resolve p : Operation ω (Option (Plan × UpdateTarget))) := by
  refine leaves_bind (leaves_checkMember _) fun _ => leaves_bind leaves_state fun s => ?_
  split
  · exact leaves_pure _
  · exact leaves_bind (hline _ _) fun _ => leaves_pure _

/-- Resolving reports signers that are skipped, and does nothing else. -/
theorem leaves_resolveAll (hline : ∀ (name : String) (e : Error),
      Leaves F (line s!"Skipping signer {name}: {e.message}" : Operation ω Unit))
    (plans : List Plan) :
    Leaves F (resolveAll plans : Operation ω (List (Plan × UpdateTarget))) :=
  leaves_bind (leaves_mapM (leaves_resolve hline) plans) fun _ =>
    leaves_ite (leaves_bind (leaves_throw _) fun _ => leaves_pure _) (leaves_pure _)

end Resolve

theorem quiet_resolveAll (plans : List Plan) :
    Quiet (resolveAll plans : Operation ω (List (Plan × UpdateTarget))) :=
  leaves_resolveAll (fun _ _ => quiet_line _) plans

/-- A plan with its target, as `resolve` finds it in a document. -/
def Resolved (s : State) (p : Plan) (q : Plan × UpdateTarget) : Prop :=
  ∃ c, credential s p.member = .ok c ∧ q = (p, target s p.member c)

theorem resolved_of_resolve {p : Plan} {q : Plan × UpdateTarget}
    (h : (resolve p).perform o s = (.ok (some q), t)) : Resolved s.state p q := by
  rw [resolve, perform_bind_eq_ok] at h
  obtain ⟨_, u, hu, h⟩ := h
  rw [← Quiet.state_eq (leaves_checkMember p.member) hu]
  simp only [perform_bind, perform_state] at h
  cases hc : credential u.state p.member with
  | error e =>
    simp only [hc, perform_bind, perform_line, perform_pure, Prod.mk.injEq, Except.ok.injEq,
      reduceCtorEq, false_and] at h
  | ok c =>
    simp only [hc, perform_pure, Prod.mk.injEq, Except.ok.injEq, Option.some.injEq] at h
    exact ⟨c, hc, h.1.symm⟩

/-- Nothing is left out of a list whose length stays. -/
theorem eq_map_some_of_length_le {α : Type} : ∀ {l : List (Option α)},
    l.length ≤ (l.filterMap id).length → l = (l.filterMap id).map some
  | [], _ => rfl
  | none :: l, h => by
    have hle := List.length_filterMap_le id l
    rw [List.filterMap_cons_none rfl, List.length_cons] at h
    omega
  | some a :: l, h => by
    rw [List.filterMap_cons_some (f := id) rfl, List.length_cons, List.length_cons] at h
    rw [List.filterMap_cons_some (f := id) rfl, List.map_cons,
      ← eq_map_some_of_length_le (Nat.le_of_succ_le_succ h)]

/-- **All or nothing**: plans are resolved only if every one of them is. -/
theorem resolve_of_resolveAll {plans : List Plan} {found : List (Plan × UpdateTarget)}
    (h : (resolveAll plans).perform o s = (.ok found, t)) :
    List.Forall₂ (fun p q => ∃ u v, u.state = s.state ∧ (resolve p).perform o u = (.ok (some q), v))
      plans found := by
  rw [resolveAll, perform_bind_eq_ok] at h
  obtain ⟨resolved, u, hr, h⟩ := h
  have hall := perform_mapM_eq_ok (leaves_resolve fun _ _ => quiet_line _) hr
  simp only [perform_ite, perform_bind, perform_throw, perform_pure] at h
  split at h
  · cases h
  · rename_i hlen
    simp only [Prod.mk.injEq, Except.ok.injEq] at h
    obtain ⟨rfl, rfl⟩ := h
    rw [Nat.not_lt, hall.length_eq] at hlen
    rw [eq_map_some_of_length_le hlen, List.forall₂_map_right_iff] at hall
    exact hall.imp fun p q ⟨v, w, hsv, hq, _⟩ => ⟨v, w, (Session.lasting_eq_iff.1 hsv).1, hq⟩

theorem resolved_of_resolveAll {plans : List Plan} {found : List (Plan × UpdateTarget)}
    (h : (resolveAll plans).perform o s = (.ok found, t)) :
    List.Forall₂ (Resolved s.state) plans found := by
  refine (resolve_of_resolveAll h).imp fun p q ⟨u, v, hu, hq⟩ => ?_
  rw [← hu]
  exact resolved_of_resolve hq

/-! ## 3. Sending -/

/-- The update of a resolved plan. -/
def updateOf (zone : DomainName) (q : Plan × UpdateTarget) : Update :=
  ⟨zone, q.2, q.1.changes⟩

theorem update_of_resolved {s : State} {p : Plan} {q : Plan × UpdateTarget}
    (h : Resolved s p q) : update zone s p = .ok (updateOf zone q) := by
  obtain ⟨c, hc, rfl⟩ := h
  rw [update, hc]
  rfl

/-- One update is sent, and the reply to it is the outcome; or there is no way to send it. -/
theorem perform_send (zone : DomainName) (q : Plan × UpdateTarget) (o : Outside ω)
    (s : Session ω) :
    let r := (send zone q).perform o s
    r.2.settled = s.settled ∧
      ((r.2.deliveries = s.deliveries ∧ r.2.world = s.world ∧
          ∃ e, o.updaterFor q.2.kind = .error e ∧ r.1 = .error e) ∨
        (r.2.deliveries = s.deliveries ++ [⟨updateOf zone q, r.1⟩] ∧
          ∃ u, o.updaterFor q.2.kind = .ok u ∧
            r.1 = (u.apply (updateOf zone q) s.world).outcome ∧
            r.2.world = (u.apply (updateOf zone q) s.world).world)) := by
  simp only [send, deliver, perform_bind, perform_read, perform_lift, perform_get, perform_set,
    perform_lines]
  rcases o.updaterFor q.2.kind with e | u
  · exact ⟨rfl, .inl ⟨rfl, rfl, e, rfl, rfl⟩⟩
  · simp only [updateOf]
    rcases hreply : (u.apply ⟨zone, q.2, q.1.changes⟩ s.world).outcome with e | _
    · exact ⟨rfl, .inr ⟨rfl, u, rfl, hreply.symm, rfl⟩⟩
    · exact ⟨rfl, .inr ⟨rfl, u, rfl, hreply.symm, rfl⟩⟩

/-- **The outcome of sending is the reply** of the updater, if there is one. -/
theorem reply_of_send {q : Plan × UpdateTarget} {r : Except Error Unit}
    (h : (send zone q).perform o s = (r, t)) :
    (t.world = s.world ∧ ∃ e, o.updaterFor q.2.kind = .error e ∧ r = .error e) ∨
      ∃ u, o.updaterFor q.2.kind = .ok u ∧ (u.apply (updateOf zone q) s.world).outcome = r ∧
        t.world = (u.apply (updateOf zone q) s.world).world := by
  have hsend := perform_send zone q o s
  rw [h] at hsend
  rcases hsend.2 with ⟨-, hworld, hnone⟩ | ⟨-, u, hu, hreply, hworld⟩
  · exact .inl ⟨hworld, hnone⟩
  · exact .inr ⟨u, hu, hreply.symm, hworld⟩

/-- Sending succeeds if the update is accepted. -/
theorem achieves_send {q : Plan × UpdateTarget} {u : Updater ω}
    (hu : o.updaterFor q.2.kind = .ok u)
    (hok : (u.apply (updateOf zone q) s.world).outcome = .ok ()) :
    Achieves o s (send zone q) fun _ t =>
      t.settled = s.settled ∧ t.world = (u.apply (updateOf zone q) s.world).world := by
  obtain ⟨hsettled, ⟨-, -, e, he, -⟩ | ⟨-, u', hu', hreply, hworld⟩⟩ := perform_send zone q o s
  · cases hu.symm.trans he
  · cases hu.symm.trans hu'
    exact ⟨(), _, Prod.ext (hreply.trans hok) rfl, hsettled, hworld⟩

theorem leaves_send_settled (zone : DomainName) (q : Plan × UpdateTarget) :
    Leaves (.keeping Session.settled) (send zone q : Operation ω Unit) :=
  fun o s => (perform_send zone q o s).1

theorem leaves_send_sending (zone : DomainName) (q : Plan × UpdateTarget) :
    Leaves (.sending fun d => d.update = updateOf zone q) (send zone q : Operation ω Unit) := by
  intro o s
  obtain ⟨-, ⟨h, -⟩ | ⟨h, -⟩⟩ := perform_send zone q o s
  · exact ⟨[], by rw [h, List.append_nil], by simp⟩
  · exact ⟨_, h, by simp⟩

/-- Sending that succeeds has sent everything, and everything was accepted. -/
theorem deliveries_of_send_all : ∀ {l : List (Plan × UpdateTarget)} {s t : Session ω},
    (l.forM (send zone)).perform o s = (.ok (), t) →
      t.deliveries = s.deliveries ++ l.map fun q => ⟨updateOf zone q, .ok ()⟩
  | [], s, t, h => by
    cases h
    simp
  | q :: l, s, t, h => by
    obtain ⟨_, u, hu, ht⟩ := perform_bind_eq_ok.1
      (show (send zone q >>= fun _ => l.forM (send zone)).perform o s = (.ok (), t) from h)
    have hs := perform_send zone q o s
    rw [hu] at hs
    obtain ⟨-, ⟨-, -, e, -, he⟩ | ⟨hs, -⟩⟩ := hs
    · cases he
    · rw [deliveries_of_send_all ht, hs, List.append_assoc]
      rfl

/-! ## 4. Pushing -/

theorem leaves_push_settled (zone : DomainName) (plans : List Plan) :
    Leaves (.keeping Session.settled) (push zone plans : Operation ω Unit) :=
  leaves_bind ((quiet_resolveAll _).mono fun _ _ => Session.settled_of_lasting)
    fun _ => leaves_forM fun q _ => leaves_send_settled zone q

/-- A push leaves the document as it is. -/
theorem state_of_push {plans : List Plan} {r : Except Error Unit}
    (h : (push zone plans).perform o s = (r, t)) : t.state = s.state :=
  congrArg Prod.fst ((leaves_push_settled zone plans).rel_of_perform h)

/-- **What a push sends are updates of its plans**, whatever becomes of it. -/
theorem sent_of_push {plans : List Plan} {r : Except Error Unit}
    (h : (push zone plans).perform o s = (r, t)) :
    ∃ ds, t.deliveries = s.deliveries ++ ds ∧
      ∀ d ∈ ds, ∃ p ∈ effective plans, update zone s.state p = .ok d.update := by
  rw [push, perform_bind] at h
  rcases hres : (resolveAll (plans.filter fun p => !p.changes.isEmpty)).perform o s
    with ⟨e | found, u⟩
  · rw [hres] at h
    cases h
    have := (Session.lasting_eq_iff.1 ((quiet_resolveAll _).rel_of_perform hres)).2.2.2
    exact ⟨[], by rw [this, List.append_nil], by simp⟩
  · rw [hres] at h
    have hfound := resolved_of_resolveAll hres
    have hsend : Leaves (.sending fun d => ∃ q ∈ found, d.update = updateOf zone q)
        (found.forM (send zone) : Operation ω Unit) := leaves_forM fun q hq =>
      (leaves_send_sending zone q).mono fun _ _ ⟨ds, hds, hd⟩ =>
        ⟨ds, hds, fun d hmem => ⟨q, hq, hd d hmem⟩⟩
    obtain ⟨ds, hds, hd⟩ := hsend.rel_of_perform h
    rw [(Session.lasting_eq_iff.1 ((quiet_resolveAll _).rel_of_perform hres)).2.2.2] at hds
    refine ⟨ds, hds, fun d hmem => ?_⟩
    obtain ⟨q, hq, hdq⟩ := hd d hmem
    obtain ⟨p, hp, hpq⟩ := exists_mem_of_forall₂ hfound hq
    exact ⟨p, hp, by rw [hdq, update_of_resolved hpq]⟩

/-- **A push that succeeds has sent every change**, once and in order, and all were accepted. -/
theorem push_eq_ok {plans : List Plan} (h : (push zone plans).perform o s = (.ok (), t)) :
    ∃ us, List.Forall₂ (fun p u => update zone s.state p = .ok u) (effective plans) us ∧
      t.deliveries = s.deliveries ++ us.map fun u => ⟨u, .ok ()⟩ := by
  rw [push, perform_bind_eq_ok] at h
  obtain ⟨found, u, hres, h⟩ := h
  refine ⟨found.map (updateOf zone), ?_, ?_⟩
  · rw [List.forall₂_map_right_iff]
    exact (resolved_of_resolveAll hres).imp fun p q => update_of_resolved
  · rw [deliveries_of_send_all h, List.map_map,
      (Session.lasting_eq_iff.1 ((quiet_resolveAll _).rel_of_perform hres)).2.2.2]
    rfl

/-- Plans that change nothing are not sent. -/
theorem perform_push_of_idle {plans : List Plan} (h : ∀ p ∈ plans, p.changes.isEmpty = true) :
    (push zone plans).perform o s = (.ok (), s) := by
  have hnone : (plans.filter fun p => !p.changes.isEmpty) = [] := by
    rw [List.filter_eq_nil_iff]
    intro p hp
    rw [h p hp]
    exact Bool.false_ne_true
  simp only [push, hnone, resolveAll, List.mapM_nil, List.filterMap_nil, perform_bind, perform_pure,
    List.length_nil, Nat.lt_irrefl, if_false]
  rfl

end Push
end MultiSigner
