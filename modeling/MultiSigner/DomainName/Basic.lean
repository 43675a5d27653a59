/-!
# Domain names

A name is a list of labels, the one nearest to the root last.  Labels are byte strings in which
ASCII letters are small.  `absolute` tells whether the name was written with a dot at its end; it
is kept for printing and is no part of equality and order.

Main statements: `DomainName.beq_iff` and `DomainName.compare_eq_iff` (names are equal if their
labels are).

## Contents

1. Names and their labels.
2. Equality and order.
3. Lengths and the form on the wire.
-/

namespace MultiSigner

/-! ## 1. Names and their labels -/

/-- A domain name. -/
structure DomainName where
  labels : List (List UInt8)
  absolute : Bool
  deriving Repr, DecidableEq, Inhabited

namespace DomainName

/-- The root of all names. -/
def root : DomainName := ⟨[], true⟩

/-- An ASCII letter in its small form, any other byte as it is. -/
def lowerByte (b : UInt8) : UInt8 :=
  if 65 ≤ b ∧ b ≤ 90 then b + 32 else b

/-- The name with the given labels. -/
def ofLabels (labels : List (List UInt8)) (absolute : Bool) : DomainName :=
  ⟨labels.map (·.map lowerByte), absolute⟩

theorem lowerByte_lowerByte (b : UInt8) : lowerByte (lowerByte b) = lowerByte b := by
  by_cases h : 65 ≤ b ∧ b ≤ 90
  · have hb : lowerByte b = b + 32 := if_pos h
    rw [hb, lowerByte, if_neg]
    rintro ⟨_, h2⟩
    have h3 := h.1
    have h4 := h.2
    rw [UInt8.le_iff_toNat_le] at h2 h3 h4
    rw [UInt8.toNat_add] at h2
    simp only [UInt8.reduceToNat] at h2 h3 h4
    omega
  · have hb : lowerByte b = b := if_neg h
    rw [hb, hb]

/-! ## 2. Equality and order -/

instance : BEq DomainName := ⟨fun a b => a.labels == b.labels⟩

theorem beq_iff {a b : DomainName} : (a == b) = true ↔ a.labels = b.labels := by
  change (a.labels == b.labels) = true ↔ _
  exact beq_iff_eq

instance : EquivBEq DomainName where
  rfl := beq_iff.2 rfl
  symm h := beq_iff.2 (beq_iff.1 h).symm
  trans h k := beq_iff.2 ((beq_iff.1 h).trans (beq_iff.1 k))

/-- Names are ordered by their labels from the right, labels by their bytes. -/
instance : Ord DomainName := ⟨fun a b => compare a.labels.reverse b.labels.reverse⟩

theorem compare_def (a b : DomainName) :
    compare a b = compare a.labels.reverse b.labels.reverse := rfl

theorem compare_eq_iff {a b : DomainName} : compare a b = .eq ↔ a.labels = b.labels := by
  rw [compare_def, Std.LawfulEqOrd.compare_eq_iff_eq, List.reverse_inj]

instance : Std.OrientedOrd DomainName where
  eq_swap {a b} := Std.OrientedOrd.eq_swap (a := a.labels.reverse) (b := b.labels.reverse)

instance : Std.TransOrd DomainName where
  isLE_trans {a b c} h k := by
    rw [compare_def] at h k ⊢
    exact Std.TransCmp.isLE_trans h k

/-! ## 3. Lengths and the form on the wire -/

/-- The label bytes, and one byte for the length of each label. -/
def size (n : DomainName) : Nat :=
  n.labels.foldr (fun l total => l.length + 1 + total) 0

/-- The number of labels, without an asterisk in front. -/
def depth (n : DomainName) : Nat :=
  match n.labels with
  | [42] :: rest => rest.length
  | labels => labels.length

/-- The labels with their lengths, and the empty label at the end. -/
def wire (n : DomainName) : List UInt8 :=
  n.labels.flatMap (fun l => UInt8.ofNat l.length :: l) ++ [0]

theorem length_wire (n : DomainName) : n.wire.length = n.size + 1 := by
  have h (ls : List (List UInt8)) :
      (ls.flatMap fun l => UInt8.ofNat l.length :: l).length
        = ls.foldr (fun l total => l.length + 1 + total) 0 := by
    induction ls with
    | nil => rfl
    | cons l rest ih => simp only [List.flatMap_cons, List.length_append, List.length_cons, ih,
        List.foldr_cons]
  simp only [wire, size, List.length_append, h, List.length_cons, List.length_nil]

end DomainName
end MultiSigner
