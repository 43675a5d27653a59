/-!
# Ordered maps

A map is a list of entries whose keys increase strictly, so two maps with the same content are
equal.  Keys that compare as equal are one key; the map keeps the one that came first.

Main statements: `OrderedMap.get?_insert`, `OrderedMap.get?_erase`, `OrderedMap.get?_modify` and
`OrderedMap.get?_filter_of_keys` say what each operation does to the view `get?`.

## Contents

1. Entries in order.
2. The operations.
3. What the operations do to the view.
4. Keys and entries.
5. Operations that cancel out.
-/

namespace MultiSigner

/-- A map whose entries are listed by increasing key. -/
structure OrderedMap (κ α : Type) [Ord κ] where
  entries : List (κ × α)
  sorted : entries.Pairwise fun a b => compare a.1 b.1 = .lt

namespace OrderedMap

variable {κ α : Type} [Ord κ]

/-! ## 1. Entries in order -/

theorem ext {m n : OrderedMap κ α} (h : m.entries = n.entries) : m = n := by
  cases m
  cases n
  simp_all

instance [DecidableEq κ] [DecidableEq α] : DecidableEq (OrderedMap κ α) := fun m n =>
  decidable_of_iff (m.entries = n.entries) ⟨ext, fun h => h ▸ rfl⟩

/-- Puts an entry in its place.  If the key is there already, it stays and gets the value. -/
def insertEntry (k : κ) (v : α) : List (κ × α) → List (κ × α)
  | [] => [(k, v)]
  | (l, w) :: rest =>
    match compare k l with
    | .lt => (k, v) :: (l, w) :: rest
    | .eq => (l, v) :: rest
    | .gt => (l, w) :: insertEntry k v rest

theorem key_insertEntry {k : κ} {v : α} {es : List (κ × α)} {e : κ × α}
    (h : e ∈ insertEntry k v es) : e.1 = k ∨ ∃ w, (e.1, w) ∈ es := by
  induction es with
  | nil =>
    simp only [insertEntry, List.mem_singleton] at h
    exact .inl (by rw [h])
  | cons f rest ih =>
    obtain ⟨l, w⟩ := f
    simp only [insertEntry] at h
    split at h
    · rcases List.mem_cons.1 h with h | h
      · exact .inl (by rw [h])
      · exact .inr ⟨e.2, h⟩
    · rcases List.mem_cons.1 h with h | h
      · exact .inr ⟨w, by rw [h]; exact List.mem_cons_self⟩
      · exact .inr ⟨e.2, List.mem_cons_of_mem _ h⟩
    · rcases List.mem_cons.1 h with h | h
      · exact .inr ⟨w, by rw [h]; exact List.mem_cons_self⟩
      · rcases ih h with h | ⟨u, h⟩
        · exact .inl h
        · exact .inr ⟨u, List.mem_cons_of_mem _ h⟩

theorem sorted_insertEntry [Std.TransOrd κ] (k : κ) (v : α) {es : List (κ × α)}
    (h : es.Pairwise fun a b => compare a.1 b.1 = .lt) :
    (insertEntry k v es).Pairwise fun a b => compare a.1 b.1 = .lt := by
  induction es with
  | nil => simp [insertEntry]
  | cons f rest ih =>
    obtain ⟨l, w⟩ := f
    obtain ⟨hl, hr⟩ := List.pairwise_cons.1 h
    simp only [insertEntry]
    split
    · rename_i hk
      refine List.pairwise_cons.2 ⟨fun e he => ?_, h⟩
      rcases List.mem_cons.1 he with rfl | he
      · exact hk
      · exact Std.TransCmp.lt_trans hk (hl e he)
    · exact List.pairwise_cons.2 ⟨fun e he => hl e he, hr⟩
    · rename_i hk
      refine List.pairwise_cons.2 ⟨fun e he => ?_, ih hr⟩
      rcases key_insertEntry he with he | ⟨u, he⟩
      · rw [he]
        exact Std.OrientedCmp.lt_of_gt hk
      · exact hl (e.1, u) he

/-! ## 2. The operations -/

/-- The map without entries. -/
def empty : OrderedMap κ α := ⟨[], .nil⟩

instance : Inhabited (OrderedMap κ α) := ⟨empty⟩

/-- The value of a key. -/
def get? (m : OrderedMap κ α) (k : κ) : Option α :=
  (m.entries.find? fun e => compare k e.1 == .eq).map Prod.snd

/-- Whether a key is there. -/
def contains (m : OrderedMap κ α) (k : κ) : Bool :=
  (m.get? k).isSome

/-- The keys in order. -/
def keys (m : OrderedMap κ α) : List κ :=
  m.entries.map Prod.fst

/-- Whether there are no entries. -/
def isEmpty (m : OrderedMap κ α) : Bool :=
  m.entries.isEmpty

/-- Gives a key a value. -/
def insert [Std.TransOrd κ] (m : OrderedMap κ α) (k : κ) (v : α) : OrderedMap κ α :=
  ⟨insertEntry k v m.entries, sorted_insertEntry k v m.sorted⟩

/-- Keeps the entries that satisfy a condition. -/
def filter (m : OrderedMap κ α) (p : κ → α → Bool) : OrderedMap κ α :=
  ⟨m.entries.filter fun e => p e.1 e.2, m.sorted.filter _⟩

/-- Takes a key out. -/
def erase (m : OrderedMap κ α) (k : κ) : OrderedMap κ α :=
  m.filter fun l _ => compare k l != .eq

/-- Changes the value of a key, if the key is there. -/
def modify (m : OrderedMap κ α) (k : κ) (f : α → α) : OrderedMap κ α :=
  ⟨m.entries.map fun e => if compare k e.1 == .eq then (e.1, f e.2) else e, by
    refine (List.pairwise_map).2 (m.sorted.imp ?_)
    intro a b h
    split <;> split <;> exact h⟩

/-- The map with the given entries, the later ones winning. -/
def ofList [Std.TransOrd κ] (es : List (κ × α)) : OrderedMap κ α :=
  es.foldl (fun m e => m.insert e.1 e.2) empty

/-- Whether two maps have the same keys, as they compare, with the same values. -/
def same (eq : α → α → Bool) (m n : OrderedMap κ α) : Bool :=
  m.entries.length == n.entries.length
    && (m.entries.zip n.entries).all fun (a, b) => compare a.1 b.1 == .eq && eq a.2 b.2

/-! ## 3. The view -/

theorem get?_empty (k : κ) : (empty : OrderedMap κ α).get? k = none := rfl

theorem find?_insertEntry [Std.TransOrd κ] (k l : κ) (v : α) {es : List (κ × α)}
    (h : es.Pairwise fun a b => compare a.1 b.1 = .lt) :
    ((insertEntry k v es).find? fun e => compare l e.1 == .eq).map Prod.snd
      = if compare l k = .eq then some v
        else (es.find? fun e => compare l e.1 == .eq).map Prod.snd := by
  induction es with
  | nil => by_cases hl : compare l k = .eq <;> simp [insertEntry, hl]
  | cons f rest ih =>
    obtain ⟨m, w⟩ := f
    obtain ⟨_, hr⟩ := List.pairwise_cons.1 h
    simp only [insertEntry]
    split
    · by_cases hl : compare l k = .eq <;> simp [hl]
    · rename_i hk
      have hc : compare l m = compare l k := (Std.TransCmp.congr_right hk).symm
      by_cases hl : compare l k = .eq <;> simp [hl, hc]
    · rename_i hk
      by_cases hm : compare l m = .eq
      · have hl : compare l k ≠ .eq := by
          intro hl
          have : compare k m = .eq :=
            (Std.TransCmp.congr_left (Std.OrientedCmp.eq_symm hl)).trans hm
          rw [hk] at this
          exact absurd this (by decide)
        simp [hm, hl]
      · have := ih hr
        simp [hm, this]

theorem get?_insert [Std.TransOrd κ] (m : OrderedMap κ α) (k l : κ) (v : α) :
    (m.insert k v).get? l = if compare l k = .eq then some v else m.get? l :=
  find?_insertEntry k l v m.sorted

theorem get?_congr [Std.TransOrd κ] (m : OrderedMap κ α) {k l : κ} (h : compare k l = .eq) :
    m.get? k = m.get? l := by
  simp only [get?, Std.TransCmp.congr_left h]

theorem get?_filter_of_keys [Std.TransOrd κ] (m : OrderedMap κ α) (p : κ → Bool) (k : κ)
    (h : ∀ l, compare k l = .eq → p l = p k) :
    (m.filter fun l _ => p l).get? k = if p k then m.get? k else none := by
  simp only [get?, filter]
  induction m.entries with
  | nil => simp
  | cons e rest ih =>
    by_cases hk : compare k e.1 = .eq
    · cases hp : p k with
      | true => simp [h e.1 hk, hp, hk]
      | false => simpa [h e.1 hk, hp] using ih
    · cases hp : p e.1 with
      | true => simpa [hp, hk] using ih
      | false => simpa [hp, hk] using ih

theorem get?_erase [Std.TransOrd κ] (m : OrderedMap κ α) (k l : κ) :
    (m.erase k).get? l = if compare k l = .eq then none else m.get? l := by
  rw [erase, get?_filter_of_keys]
  · by_cases h : compare k l = .eq <;> simp [h]
  · intro e he
    rw [Std.TransCmp.congr_right (a := k) he]

theorem get?_modify [Std.TransOrd κ] (m : OrderedMap κ α) (k l : κ) (f : α → α) :
    (m.modify k f).get? l = if compare k l = .eq then (m.get? l).map f else m.get? l := by
  simp only [get?, modify]
  induction m.entries with
  | nil => simp
  | cons e rest ih =>
    by_cases hl : compare l e.1 = .eq
    · have hc : compare k e.1 = compare k l := (Std.TransCmp.congr_right hl).symm
      by_cases hk : compare k l = .eq <;> simp [hc, hk, hl]
    · have hle : (compare l e.1 == .eq) = false := by simpa using hl
      rw [List.map_cons, List.find?_cons_of_neg, List.find?_cons_of_neg, ih]
      · simp [hle]
      · split <;> simp [hle]

/-! ## 4. Keys and entries -/

theorem contains_iff {m : OrderedMap κ α} {k : κ} :
    m.contains k = true ↔ ∃ e ∈ m.entries, compare k e.1 = .eq := by
  rw [contains, get?, Option.isSome_map, List.find?_isSome]
  simp only [beq_iff_eq]

theorem contains_insert [Std.TransOrd κ] {m : OrderedMap κ α} {k l : κ} {v : α} :
    (m.insert k v).contains l = true ↔ compare l k = .eq ∨ m.contains l = true := by
  rw [contains, get?_insert, contains]
  split
  · rename_i h
    exact iff_of_true rfl (.inl h)
  · rename_i h
    exact (or_iff_right h).symm

/-- A value that is given only to a key without one. -/
theorem get?_insertNew [Std.TransOrd κ] {m : OrderedMap κ α} {k l : κ} {v : α} :
    (if m.contains k then m else m.insert k v).get? l
      = (m.get? l).or (if compare l k = .eq then some v else none) := by
  by_cases hl : compare l k = .eq
  · rw [if_pos hl, contains, ← m.get?_congr hl]
    cases hget : m.get? l with
    | some w => rw [Option.isSome_some, if_pos rfl, hget, Option.some_or]
    | none =>
      rw [Option.isSome_none, if_neg Bool.false_ne_true, get?_insert, if_pos hl, Option.none_or]
  · rw [if_neg hl, Option.or_none]
    split
    · rfl
    · rw [get?_insert, if_neg hl]

/-- Entries are found by their keys. -/
theorem get?_of_mem [Std.TransOrd κ] {m : OrderedMap κ α} {e : κ × α} (h : e ∈ m.entries) :
    m.get? e.1 = some e.2 := by
  obtain ⟨before, later, hsplit⟩ := List.append_of_mem h
  have hsorted := m.sorted
  rw [hsplit, List.pairwise_append] at hsorted
  have hbefore : before.find? (fun f => compare e.1 f.1 == .eq) = none := by
    rw [List.find?_eq_none]
    intro f hf heq
    have hlt := hsorted.2.2 f hf e List.mem_cons_self
    rw [Std.OrientedCmp.eq_symm (beq_iff_eq.1 heq)] at hlt
    cases hlt
  rw [get?, hsplit, List.find?_append, hbefore, Option.none_or, List.find?_cons_of_pos, Option.map_some]
  exact beq_iff_eq.2 Std.ReflCmp.compare_self

/-- What an insertion makes of the entries. -/
theorem mem_insertEntry {k : κ} {v : α} {e : κ × α} : ∀ {es : List (κ × α)},
    e ∈ insertEntry k v es → e ∈ es ∨ e.2 = v ∧ (e.1 = k ∨ compare k e.1 = .eq)
  | [], h => by
    rw [List.mem_singleton.1 h]
    exact .inr ⟨rfl, .inl rfl⟩
  | (l, w) :: es, h => by
    rw [insertEntry] at h
    split at h
    · rcases List.mem_cons.1 h with rfl | h
      · exact .inr ⟨rfl, .inl rfl⟩
      · exact .inl h
    · rename_i hkl
      rcases List.mem_cons.1 h with rfl | h
      · exact .inr ⟨rfl, .inr hkl⟩
      · exact .inl (List.mem_cons_of_mem _ h)
    · rcases List.mem_cons.1 h with rfl | h
      · exact .inl List.mem_cons_self
      · exact (mem_insertEntry h).imp_left (List.mem_cons_of_mem _)

/-- What a map without some of its entries says, the map says of it, and the entry is one that was
kept. -/
theorem of_get?_filter [Std.TransOrd κ] {m : OrderedMap κ α} {p : κ → α → Bool} {k : κ} {v : α}
    (h : (m.filter p).get? k = some v) : m.get? k = some v ∧ ∃ l, p l v = true := by
  rw [get?, Option.map_eq_some_iff] at h
  obtain ⟨e, hfind, rfl⟩ := h
  obtain ⟨he, hp⟩ := List.mem_filter.1 (List.mem_of_find?_eq_some hfind)
  have hk := List.find?_some hfind
  rw [m.get?_congr (beq_iff_eq.1 hk)]
  exact ⟨get?_of_mem he, e.1, hp⟩

/-! ## 5. Operations that cancel out -/

section Cancel

variable {m : OrderedMap κ α} {k : κ} {v : α}

/-- A key that is not there can not be taken out. -/
theorem erase_eq_self (h : m.contains k = false) : m.erase k = m := by
  refine ext (List.filter_eq_self.2 fun e he => bne_iff_ne.2 fun heq => ?_)
  rw [contains_iff.2 ⟨e, he, heq⟩] at h
  cases h

theorem modify_modify (f g : α → α) : (m.modify k f).modify k g = m.modify k (g ∘ f) := by
  refine ext ?_
  simp only [modify, List.map_map]
  refine List.map_congr_left fun e _ => ?_
  by_cases he : compare k e.1 = .eq <;> simp [he]

variable [Std.TransOrd κ]

/-- A change that leaves the value of its key as it is changes nothing. -/
theorem modify_eq_self {f : α → α} (h : m.get? k = some v) (hf : f v = v) : m.modify k f = m := by
  refine ext ((List.map_congr_left fun e he => ?_).trans (List.map_id' _))
  by_cases heq : compare k e.1 = .eq
  · have hv : e.2 = v := by
      rw [m.get?_congr heq, get?_of_mem he] at h
      exact Option.some.inj h
    rw [if_pos (beq_iff_eq.2 heq), hv, hf, ← hv]
  · rw [if_neg (by simpa using heq)]

theorem filter_insertEntry {es : List (κ × α)} (h : ∀ e ∈ es, compare k e.1 ≠ .eq) :
    (insertEntry k v es).filter (fun e => compare k e.1 != .eq) = es := by
  induction es with
  | nil => simp [insertEntry]
  | cons f es ih =>
    obtain ⟨hf, hes⟩ := List.forall_mem_cons.1 h
    rw [insertEntry]
    split
    · rw [List.filter_cons_of_neg (by simp)]
      exact List.filter_eq_self.2 fun e he => bne_iff_ne.2 (h e he)
    · rename_i heq
      exact absurd heq hf
    · rw [List.filter_cons_of_pos (by simpa using hf), ih hes]

/-- A key that was not there is taken out again. -/
theorem erase_insert (h : m.get? k = none) : (m.insert k v).erase k = m := by
  refine ext (filter_insertEntry fun e he heq => ?_)
  rw [m.get?_congr heq, get?_of_mem he] at h
  cases h

end Cancel

end OrderedMap
end MultiSigner
