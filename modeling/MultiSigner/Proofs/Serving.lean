/-
# What a server serves

A server holds a list of records, but what is asked of it later is only whether it serves some data:
`Serves rs d`.  Two things are said about that here.

* `serves_applyTo`: after a change set, a server serves what it served before and was not taken out,
  and what was put in.
* `has_viewOf`: the view that comes of asking a server for some kinds of records shows what the
  server serves of these kinds, and nothing else.

So sync and status, which are written about views, can be compared through what is served.
-/
import MultiSigner.Evaluation
import MultiSigner.Operation.Status
import MultiSigner.Update.Change
import Mathlib.Data.List.Basic

namespace MultiSigner

/-! ## 1. Data that is the same -/

theorem RecordData.beq_def (d e : RecordData) : (d == e) = RecordData.same d e := rfl

instance : EquivBEq RecordData where
  rfl := RecordData.same_refl _
  symm {d e} h := by
    rw [RecordData.beq_def] at h ⊢
    cases d <;> cases e <;> simp only [RecordData.same, Bool.false_eq_true, beq_iff_eq] at h ⊢
    case ns.ns a b => exact BEq.symm h
    all_goals exact h.symm
  trans {d e f} h k := by
    rw [RecordData.beq_def] at h k ⊢
    cases d <;> cases e <;> simp only [RecordData.same, Bool.false_eq_true, beq_iff_eq] at h <;>
      cases f <;> simp only [RecordData.same, Bool.false_eq_true, beq_iff_eq] at k ⊢
    case ns.ns.ns a b c => exact BEq.trans h k
    all_goals exact h.trans k

/-- Only names have more than one spelling. -/
theorem RecordData.eq_of_beq {d e : RecordData} (h : (d == e) = true) (he : e.kind ≠ .ns) :
    d = e := by
  rw [RecordData.beq_def] at h
  cases d <;> cases e <;> simp only [RecordData.same, Bool.false_eq_true, beq_iff_eq] at h
  case ns.ns a b => exact absurd rfl he
  all_goals rw [h]

/-- A server that holds the given records serves some data. -/
def Serves (rs : List Record) (d : RecordData) : Prop :=
  ∃ r ∈ rs, (r.data == d) = true

theorem serves_nil {d : RecordData} : ¬ Serves [] d := by
  rintro ⟨r, hr, -⟩
  cases hr

/-- Names are served in any spelling. -/
theorem Serves.congr {rs : List Record} {d e : RecordData} (h : Serves rs d)
    (hde : (d == e) = true) : Serves rs e := by
  obtain ⟨r, hr, hrd⟩ := h
  exact ⟨r, hr, BEq.trans hrd hde⟩

/-- The records of one kind serve what all of them serve of that kind. -/
theorem serves_filter {rs : List Record} {kind : RecordKind} {d : RecordData} :
    Serves (rs.filter fun r => r.kind == kind) d ↔ d.kind = kind ∧ Serves rs d := by
  constructor
  · rintro ⟨r, hr, hd⟩
    obtain ⟨hr, hk⟩ := List.mem_filter.1 hr
    exact ⟨(RecordData.kind_eq_of_same hd).symm.trans (beq_iff_eq.1 hk), r, hr, hd⟩
  · rintro ⟨rfl, r, hr, hd⟩
    exact ⟨r, List.mem_filter.2 ⟨hr, beq_iff_eq.2 (RecordData.kind_eq_of_same hd)⟩, hd⟩

/-! ## 2. Changes -/

namespace ChangeSet

variable {rs : List Record} {d : RecordData}

theorem serves_addRecord {r : Record} :
    Serves (addRecord rs r) d ↔ Serves rs d ∨ (r.data == d) = true := by
  unfold addRecord
  split
  · rename_i hany
    refine ⟨.inl, ?_⟩
    rintro (h | h)
    · exact h
    · obtain ⟨s, hs, hsr⟩ := List.any_eq_true.1 hany
      exact ⟨s, hs, BEq.trans hsr h⟩
  · constructor
    · rintro ⟨s, hs, hd⟩
      rcases List.mem_append.1 hs with hs | hs
      · exact .inl ⟨s, hs, hd⟩
      · rw [List.mem_singleton.1 hs] at hd
        exact .inr hd
    · rintro (⟨s, hs, hd⟩ | hd)
      · exact ⟨s, List.mem_append_left _ hs, hd⟩
      · exact ⟨r, List.mem_append_right _ (List.mem_singleton_self r), hd⟩

theorem serves_addRecords : ∀ {inserts rs : List Record},
    Serves (inserts.foldl addRecord rs) d ↔ Serves rs d ∨ Serves inserts d
  | [], rs => by
    rw [List.foldl_nil]
    exact ⟨.inl, fun h => h.resolve_right serves_nil⟩
  | r :: inserts, rs => by
    rw [List.foldl_cons, serves_addRecords, serves_addRecord, or_assoc]
    refine or_congr Iff.rfl ?_
    constructor
    · rintro (h | ⟨s, hs, hd⟩)
      · exact ⟨r, List.mem_cons_self, h⟩
      · exact ⟨s, List.mem_cons_of_mem _ hs, hd⟩
    · rintro ⟨s, hs, hd⟩
      rcases List.mem_cons.1 hs with rfl | hs
      · exact .inl hd
      · exact .inr ⟨s, hs, hd⟩

/-- **What a server serves after changes**: what was neither taken out by its kind nor by itself,
and what was put in. -/
theorem serves_applyTo {c : ChangeSet} :
    Serves (c.applyTo rs) d ↔
      (Serves rs d ∧ d.kind ∉ c.removeKinds ∧ ¬ Serves c.removes d) ∨ Serves c.inserts d := by
  rw [applyTo, serves_addRecords]
  refine or_congr ?_ Iff.rfl
  constructor
  · rintro ⟨r, hr, hd⟩
    obtain ⟨hr, hremoves⟩ := List.mem_filter.1 hr
    obtain ⟨hr, hkinds⟩ := List.mem_filter.1 hr
    simp only [Bool.not_eq_true', List.contains_eq_mem, decide_eq_false_iff_not,
      List.any_eq_false] at hremoves hkinds
    refine ⟨⟨r, hr, hd⟩, ?_, ?_⟩
    · rwa [← RecordData.kind_eq_of_same hd]
    · rintro ⟨s, hs, hsd⟩
      exact hremoves s hs (BEq.trans hsd (BEq.symm hd))
  · rintro ⟨⟨r, hr, hd⟩, hkinds, hremoves⟩
    refine ⟨r, List.mem_filter.2 ⟨List.mem_filter.2 ⟨hr, ?_⟩, ?_⟩, hd⟩
    · have hk : r.kind = d.kind := RecordData.kind_eq_of_same hd
      simp only [Bool.not_eq_true', List.contains_eq_mem, decide_eq_false_iff_not, hk]
      exact hkinds
    · simp only [Bool.not_eq_true', List.any_eq_false]
      intro s hs hsr
      exact hremoves ⟨s, hs, BEq.trans hsr hd⟩

/-- Changes of which there are none change nothing. -/
theorem applyTo_of_isEmpty {c : ChangeSet} (h : c.isEmpty = true) : c.applyTo rs = rs := by
  simp only [isEmpty, Bool.and_eq_true, List.isEmpty_iff] at h
  obtain ⟨⟨hi, hr⟩, hk⟩ := h
  simp [applyTo, hi, hr, hk]

theorem countP_addRecord_le {r : Record} (h : (rs.countP fun s => s.data == d) ≤ 1) :
    ((addRecord rs r).countP fun s => s.data == d) ≤ 1 := by
  unfold addRecord
  split
  · exact h
  · rename_i hnew
    rw [List.countP_append]
    cases hrd : r.data == d with
    | false => simpa [hrd] using h
    | true =>
      -- data that is new is not there yet
      have hnone : (rs.countP fun s => s.data == d) = 0 := List.countP_eq_zero.2 fun s hs hsd =>
        hnew (List.any_eq_true.2 ⟨s, hs, BEq.trans hsd (BEq.symm hrd)⟩)
      simp [hnone, hrd]

theorem countP_addRecords_le : ∀ {inserts rs : List Record},
    (rs.countP fun s => s.data == d) ≤ 1 →
      ((inserts.foldl addRecord rs).countP fun s => s.data == d) ≤ 1
  | [], _, h => h
  | r :: inserts, rs, h => by
    rw [List.foldl_cons]
    exact countP_addRecords_le (countP_addRecord_le h)

/-- **Record sets that are replaced have each of their records once.** -/
theorem countP_applyTo_le {c : ChangeSet} (h : d.kind ∈ c.removeKinds) :
    ((c.applyTo rs).countP fun s => s.data == d) ≤ 1 := by
  refine countP_addRecords_le (Nat.le_of_lt_succ (Nat.lt_add_left 1
    (Nat.lt_one_iff.2 (List.countP_eq_zero.2 fun s hs hsd => ?_))))
  obtain ⟨hs, -⟩ := List.mem_filter.1 hs
  have hkind : s.kind = d.kind := RecordData.kind_eq_of_same hsd
  have hkept := (List.mem_filter.1 hs).2
  rw [hkind, List.contains_iff_mem.2 h] at hkept
  cases hkept

end ChangeSet

/-! ## 3. Views -/

theorem isOneOf_addName {names : List DomainName} {n m : DomainName} :
    Evaluation.isOneOf (addName names m) n = true
      ↔ Evaluation.isOneOf names n = true ∨ (m == n) = true := by
  unfold addName Evaluation.isOneOf
  split
  · rename_i hany
    refine ⟨.inl, ?_⟩
    rintro (h | h)
    · exact h
    · obtain ⟨l, hl, hlm⟩ := List.any_eq_true.1 hany
      exact List.any_eq_true.2 ⟨l, hl, BEq.trans hlm h⟩
  · rw [List.any_append, Bool.or_eq_true, List.any_cons, List.any_nil, Bool.or_false]

namespace SignerView

/-- What a view shows of the kinds that the status asks for. -/
def Has (v : SignerView) : RecordData → Prop
  | .dnskey k => k ∈ v.dnskeys
  | .cds d => d ∈ v.cds
  | .cdnskey k => k ∈ v.cdnskeys
  | .ns n => Evaluation.isOneOf v.ns n = true
  | _ => False

variable {v : SignerView} {d : RecordData}

theorem has_absorbRecord (hd : d.kind ∈ Status.signerKinds) (ttl : UInt32) (r : Record) :
    (v.absorbRecord ttl r).Has d ↔ v.Has d ∨ (r.data == d) = true := by
  unfold absorbRecord
  cases d with
  | dnskey k | cds k | cdnskey k =>
    cases r.data <;> simp [Has, RecordData.beq_def, RecordData.same, eq_comm (a := k)]
  | ns n => cases r.data <;> simp [Has, RecordData.beq_def, RecordData.same, isOneOf_addName]
  | ds _ | soa _ | csync _ => simp [RecordData.kind, Status.signerKinds] at hd

/-- An answer adds to a view what it holds. -/
theorem has_absorb (hd : d.kind ∈ Status.signerKinds) (a : Answer) :
    (v.absorb a).Has d ↔ v.Has d ∨ Serves a.records d := by
  unfold absorb
  generalize a.maxTtl = ttl
  induction a.records generalizing v with
  | nil =>
    rw [List.foldl_nil]
    exact ⟨.inl, fun h => h.resolve_right serves_nil⟩
  | cons r rest ih =>
    rw [List.foldl_cons, ih, has_absorbRecord hd, or_assoc]
    refine or_congr Iff.rfl ?_
    simp only [Serves, List.mem_cons, exists_eq_or_imp]

/-- What comes of asking a member that holds the given records for records of some kinds. -/
def viewOf (kinds : List RecordKind) (rs : List Record) (m : Member) : SignerView :=
  kinds.foldl (fun v kind => v.absorb ⟨rs.filter fun r => r.kind == kind⟩) { member := m }

theorem foldl_absorb_member (rs : List Record) : ∀ (kinds : List RecordKind) (v : SignerView),
    (kinds.foldl (fun v kind => v.absorb ⟨rs.filter fun r => r.kind == kind⟩) v).member = v.member
  | [], _ => rfl
  | _ :: kinds, v => by rw [List.foldl_cons, foldl_absorb_member rs kinds, absorb_member]

@[simp] theorem member_viewOf (kinds : List RecordKind) (rs : List Record) (m : Member) :
    (viewOf kinds rs m).member = m :=
  foldl_absorb_member rs kinds _

theorem has_foldl_absorb (hd : d.kind ∈ Status.signerKinds) {rs : List Record} :
    ∀ {kinds : List RecordKind} {v : SignerView},
      (kinds.foldl (fun v kind => v.absorb ⟨rs.filter fun r => r.kind == kind⟩) v).Has d
        ↔ v.Has d ∨ (d.kind ∈ kinds ∧ Serves rs d)
  | [], v => by simp
  | kind :: kinds, v => by
    rw [List.foldl_cons, has_foldl_absorb hd, has_absorb hd, serves_filter, or_assoc,
      List.mem_cons, ← or_and_right]

/-- **A view shows what is served** of the kinds that were asked for. -/
theorem has_viewOf (hd : d.kind ∈ Status.signerKinds) {kinds : List RecordKind}
    {rs : List Record} {m : Member} :
    (viewOf kinds rs m).Has d ↔ d.kind ∈ kinds ∧ Serves rs d := by
  rw [viewOf, has_foldl_absorb hd]
  refine or_iff_right ?_
  cases d <;> simp [Has, Evaluation.isOneOf]

/-- The time to live of names is that of the answer that holds some. -/
theorem nsTtl_foldl_absorbRecord (ttl : UInt32) : ∀ {rs : List Record} {v : SignerView},
    (rs.foldl (absorbRecord ttl) v).nsTtl
      = if rs.any fun r => r.kind == .ns then ttl else v.nsTtl
  | [], v => rfl
  | r :: rs, v => by
    rw [List.foldl_cons, nsTtl_foldl_absorbRecord ttl, List.any_cons, absorbRecord, Record.kind]
    cases r.data <;> cases rs.any fun r => r.kind == .ns <;> rfl

/-- **The time to live at which a view shows names** is the largest one of those that were
answered. -/
theorem nsTtl_viewOf {rs : List Record} {m : Member} {name : DomainName}
    (h : Serves rs (.ns name)) :
    (viewOf [.ns] rs m).nsTtl = Answer.maxTtl ⟨rs.filter fun r => r.kind == .ns⟩ := by
  obtain ⟨r, hr, hname⟩ := serves_filter.2 ⟨rfl, h⟩
  have hkind : r.kind = .ns := RecordData.kind_eq_of_same hname
  have hany : ((rs.filter fun r => r.kind == .ns).any fun r => r.kind == .ns) = true :=
    List.any_eq_true.2 ⟨r, hr, beq_iff_eq.2 hkind⟩
  rw [viewOf, List.foldl_cons, List.foldl_nil, absorb, nsTtl_foldl_absorbRecord, if_pos hany]

theorem pairwise_addName {names : List DomainName} {l : DomainName}
    (h : names.Pairwise fun a b => (a == b) = false) :
    (addName names l).Pairwise fun a b => (a == b) = false := by
  unfold addName
  split
  · exact h
  · rename_i hnew
    refine List.pairwise_append.2 ⟨h, List.pairwise_singleton _ _, fun a ha b hb => ?_⟩
    rw [List.mem_singleton.1 hb, ← Bool.not_eq_true]
    exact fun hsame => hnew (List.any_eq_true.2 ⟨a, ha, hsame⟩)

theorem pairwise_ns_foldl (ttl : UInt32) : ∀ {rs : List Record} {v : SignerView},
    v.ns.Pairwise (fun a b => (a == b) = false) →
      (rs.foldl (absorbRecord ttl) v).ns.Pairwise fun a b => (a == b) = false
  | [], _, h => h
  | r :: rs, v, h => by
    have hone : (absorbRecord ttl v r).ns.Pairwise fun a b => (a == b) = false := by
      unfold absorbRecord
      cases r.data with
      | ns l => exact pairwise_addName h
      | dnskey _ | cdnskey _ | ds _ | cds _ | soa _ | csync _ => exact h
    rw [List.foldl_cons]
    exact pairwise_ns_foldl ttl hone

/-- **A view shows every name once**, however it is spelled. -/
theorem pairwise_ns_viewOf {rs : List Record} {m : Member} :
    (viewOf [.ns] rs m).ns.Pairwise fun a b => (a == b) = false :=
  pairwise_ns_foldl _ .nil

end SignerView

namespace ParentView

/-- What a view of the parent shows. -/
def Has (v : ParentView) : RecordData → Prop
  | .ds d => d ∈ v.ds
  | .ns n => Evaluation.isOneOf v.ns n = true
  | _ => False

variable {v : ParentView} {d : RecordData}

theorem has_absorbRecord (hd : d.kind ∈ Status.parentKinds) (r : Record) :
    (v.absorbRecord r).Has d ↔ v.Has d ∨ (r.data == d) = true := by
  unfold absorbRecord
  cases d with
  | ds e => cases r.data <;> simp [Has, RecordData.beq_def, RecordData.same, eq_comm (a := e)]
  | ns n => cases r.data <;> simp [Has, RecordData.beq_def, RecordData.same, isOneOf_addName]
  | dnskey _ | cds _ | cdnskey _ | soa _ | csync _ =>
    simp [RecordData.kind, Status.parentKinds] at hd

theorem has_absorb (hd : d.kind ∈ Status.parentKinds) (a : Answer) :
    (v.absorb a).Has d ↔ v.Has d ∨ Serves a.records d := by
  unfold absorb
  induction a.records generalizing v with
  | nil =>
    rw [List.foldl_nil]
    exact ⟨.inl, fun h => h.resolve_right serves_nil⟩
  | cons r rest ih =>
    rw [List.foldl_cons, ih, has_absorbRecord hd, or_assoc]
    refine or_congr Iff.rfl ?_
    simp only [Serves, List.mem_cons, exists_eq_or_imp]

/-- What comes of asking a parent that holds the given records. -/
def viewOf (kinds : List RecordKind) (rs : List Record) : ParentView :=
  kinds.foldl (fun v kind => v.absorb ⟨rs.filter fun r => r.kind == kind⟩) {}

/-- **The view of the parent shows what it serves** about the delegation. -/
theorem has_viewOf (hd : d.kind ∈ Status.parentKinds) {rs : List Record} :
    (viewOf Status.parentKinds rs).Has d ↔ Serves rs d := by
  simp only [viewOf, Status.parentKinds, List.foldl_cons, List.foldl_nil]
  rw [has_absorb hd, has_absorb hd, serves_filter, serves_filter, or_assoc, ← or_and_right]
  have hkind : d.kind = .ds ∨ d.kind = .ns := by simpa [Status.parentKinds] using hd
  have hnone : ¬ Has {} d := by cases d <;> simp [Has, Evaluation.isOneOf]
  simp only [hkind, true_and, hnone, false_or]

end ParentView
end MultiSigner
