/-
# What observing does

Observing asks servers and changes nothing but the outside: each operation of `Operation.Observe` is
quiet.  What it gives is tied to the document by the members: the views of a group are those of its
members, in group order (`members_of_observeGroup`).
-/
import MultiSigner.Operation.Status
import MultiSigner.Proofs.Operation

namespace MultiSigner.Operation

variable {ω : Type} {o : Outside ω} {s t : Session ω} {zone : DomainName}

/-! ## 1. The members of a group -/

/-- Looking up the members leaves no trace at all. -/
theorem leaves_groupMembers {F : Footprint ω} (zone : DomainName) :
    Leaves F (groupMembers zone : Operation ω (List Member)) := by
  refine leaves_bind leaves_state fun s => leaves_bind (leaves_lift _) fun members => ?_
  exact leaves_ite (leaves_bind (leaves_throw _) fun _ => leaves_pure _) (leaves_pure _)

theorem quiet_groupMembers (zone : DomainName) :
    Quiet (groupMembers zone : Operation ω (List Member)) :=
  leaves_groupMembers zone

/-- The members are looked up in the document, and a group without any is refused. -/
theorem groupMembers_eq_ok {members : List Member} :
    (groupMembers zone).perform o s = (.ok members, t)
      ↔ s.state.members zone = .ok members ∧ members ≠ [] ∧ t = s := by
  simp only [groupMembers, perform_bind, perform_state, perform_lift]
  cases hm : s.state.members zone with
  | error e => simp
  | ok ms =>
    cases ms with
    | nil =>
      simp only [List.isEmpty_nil, if_true, perform_bind, perform_throw, Prod.mk.injEq,
        reduceCtorEq, false_and, Except.ok.injEq, false_iff, not_and]
      rintro rfl
      simp
    | cons m ms =>
      simp only [List.isEmpty_cons, Bool.false_eq_true, if_false, perform_pure, Prod.mk.injEq,
        Except.ok.injEq]
      constructor
      · rintro ⟨rfl, rfl⟩
        exact ⟨rfl, List.cons_ne_nil _ _, rfl⟩
      · rintro ⟨rfl, -, rfl⟩
        exact ⟨rfl, rfl⟩

/-! ## 2. Signers -/

theorem quiet_observeSigner (zone : DomainName) (kinds : List RecordKind) (m : Member) :
    Quiet (observeSigner zone kinds m : Operation ω SignerView) :=
  leaves_bind (leaves_lift _) fun _ => leaves_foldlM
    (fun _ _ => leaves_bind (quiet_query _ _ _) fun _ => leaves_pure _) kinds _

theorem foldlM_absorb_member {kinds : List RecordKind} {server : String} :
    ∀ {v w : SignerView} {s t : Session ω},
      (kinds.foldlM (fun v kind => return v.absorb (← query server zone kind)) v :
        Operation ω SignerView).perform o s = (.ok w, t) → w.member = v.member := by
  induction kinds with
  | nil =>
    intro v w s t h
    cases h
    rfl
  | cons kind kinds ih =>
    intro v w s t h
    rw [List.foldlM_cons, perform_bind_eq_ok] at h
    obtain ⟨u, m, hu, hw⟩ := h
    rw [perform_bind_eq_ok] at hu
    obtain ⟨a, n, -, hu⟩ := hu
    cases hu
    rw [ih hw, SignerView.absorb_member]

/-- A view is of the signer that was asked. -/
theorem member_of_observeSigner {kinds : List RecordKind} {m : Member} {v : SignerView}
    (h : (observeSigner zone kinds m).perform o s = (.ok v, t)) : v.member = m := by
  rw [observeSigner, perform_bind_eq_ok] at h
  obtain ⟨-, u, -, h⟩ := h
  exact foldlM_absorb_member h

theorem quiet_observeGroup (zone : DomainName) (kinds : List RecordKind) :
    Quiet (observeGroup zone kinds : Operation ω (List SignerView)) :=
  leaves_bind (quiet_groupMembers zone) fun _ => leaves_mapM (quiet_observeSigner zone kinds) _

/-- **The views of a group are those of its members**, in group order. -/
theorem members_of_observeGroup {kinds : List RecordKind} {views : List SignerView}
    (h : (observeGroup zone kinds).perform o s = (.ok views, t)) :
    s.state.members zone = .ok (views.map SignerView.member) := by
  rw [observeGroup, perform_bind_eq_ok] at h
  obtain ⟨members, u, hm, h⟩ := h
  obtain ⟨hm, -, rfl⟩ := groupMembers_eq_ok.1 hm
  have hall := (perform_mapM_eq_ok (quiet_observeSigner zone kinds) h).imp
    fun m v ⟨_, _, _, hv, _⟩ => (member_of_observeSigner hv).symm
  have : members = views.map SignerView.member := by
    rw [← List.forall₂_eq_eq_eq, List.forall₂_map_right_iff]
    exact hall
  rw [hm, this]

/-! ## 3. The parent -/

theorem quiet_parentAddress (zone : DomainName) :
    Quiet (parentAddress zone : Operation ω String) := by
  refine leaves_bind leaves_state fun s => leaves_bind (leaves_lift _) fun g => ?_
  exact leaves_ite (leaves_bind (leaves_throw _) fun _ => leaves_pure _) (leaves_pure _)

theorem quiet_observeParent (zone : DomainName) (kinds : List RecordKind) :
    Quiet (observeParent zone kinds : Operation ω ParentView) :=
  leaves_bind (quiet_parentAddress zone) fun _ => leaves_foldlM
    (fun _ _ => leaves_bind (quiet_query _ _ _) fun _ => leaves_pure _) kinds _

end MultiSigner.Operation
