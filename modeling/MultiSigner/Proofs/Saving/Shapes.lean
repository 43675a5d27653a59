/-
# Structures, lists and maps are read back

What the decoders make of objects and arrays that were written for a structure, a list or a map.

* Structures (`toStructure_slots`).  Some fields have got values, which stand in the order of the
  fields.  Each value is read into its own field, and what is asked for is there.
* Lists (`toList_cons`).  Items are read one by one.
* Maps (`toMap_of_forall₂`).  Entries are written by increasing key and their keys are read as equal
  ones, so each insertion adds an entry at the end and no two entries become one.
-/
import Mathlib.Data.List.Forall2
import MultiSigner.Json.Decode
import MultiSigner.OrderedMap
import MultiSigner.Proofs.Saving.Text

namespace MultiSigner

namespace Json

theorem draftMembers_eq_map (ms : List (String × Json)) :
    draftMembers ms = ms.map fun m => (some m.1, draft m.2) := by
  induction ms with
  | nil => rfl
  | cons m ms ih => rw [draftMembers, ih, List.map_cons]

namespace Draft

/-! ## 1. Single values and structures -/

theorem toTextVia_eq_ok {α : Type} {convert : String → Option α} {s : String} {a : α}
    (h : convert s = some a) : toTextVia convert (.string (some s)) = .ok a := by
  unfold toTextVia
  simp only [toText, bind, Except.bind, h]

theorem toName_eq_ok {α : Type} {find : String → Option α} {s : String} {a : α}
    (h : find s = some a) : toName find (.string (some s)) = .ok a := by
  rw [toName, h]

/-- A value that may be missing, and is written as it is. -/
theorem toOption_eq_ok {α : Type} {decode : Draft → Except Fault α} {v : Draft} {a : α}
    (hv : v ≠ .null) (h : decode v = .ok a) : toOption decode v = .ok (some a) := by
  cases v with
  | null => exact absurd rfl hv
  | _ => exact congrArg (some <$> ·) h

section Structure

variable {σ : Type}

/-- The members for those fields that have got a value. -/
def slotMembers : List (Field σ) → List (Option Draft) → List (Option String × Draft)
  | f :: fields, some v :: values => (some f.name, v) :: slotMembers fields values
  | _ :: fields, none :: values => slotMembers fields values
  | _, _ => []

/-- Reads values into their fields, in order. -/
def readSlots : List (Field σ) → List (Option Draft) → σ → Except Fault σ
  | f :: fields, some v :: values, s => do readSlots fields values (← f.read v s)
  | f :: fields, none :: values, s =>
    if f.required then .error .dataError else readSlots fields values s
  | _ :: _, [], _ => .error .dataError
  | [], _, s => .ok s

/-- Fields are found by their names. -/
theorem find?_field {fields : List (Field σ)} (hnames : (fields.map Field.name).Nodup)
    {f : Field σ} (hf : f ∈ fields) : fields.find? (·.name == f.name) = some f := by
  induction fields with
  | nil => cases hf
  | cons g fields ih =>
    rw [List.map_cons, List.nodup_cons] at hnames
    rcases List.mem_cons.1 hf with rfl | hf
    · exact List.find?_cons_of_pos (beq_self_eq_true _)
    · rw [List.find?_cons_of_neg, ih hnames.2 hf]
      intro heq
      exact hnames.1 (beq_iff_eq.1 heq ▸ List.mem_map_of_mem hf)

/-- Each of some fields that are still to come is read from its own member. -/
theorem readMembers_slots {all : List (Field σ)} (hnames : (all.map Field.name).Nodup) :
    ∀ {fields : List (Field σ)} {values : List (Option Draft)} {seen : List String} {s t : σ},
    (∀ f ∈ fields, f ∈ all) → (fields.map Field.name).Nodup → (∀ f ∈ fields, f.name ∉ seen) →
    readSlots fields values s = .ok t →
    ∃ seen', readMembers all (slotMembers fields values) seen s = .ok (seen', t)
      ∧ (∀ name ∈ seen, name ∈ seen') ∧ ∀ f ∈ fields, f.required = true → f.name ∈ seen'
  | [], values, seen, s, t, _, _, _, hread => by
    cases hread
    refine ⟨seen, ?_, fun _ h => h, fun _ hf => by cases hf⟩
    cases values <;> rfl
  | f :: fields, [], seen, s, t, _, _, _, hread => by cases hread
  | f :: fields, none :: values, seen, s, t, hall, hfresh, hseen, hread => by
    rw [readSlots] at hread
    split at hread
    · cases hread
    rename_i hreq
    obtain ⟨seen', hmembers, hkept, hasked⟩ := readMembers_slots hnames
      (fun g hg => hall g (List.mem_cons_of_mem f hg)) (List.nodup_cons.1 hfresh).2
      (fun g hg => hseen g (List.mem_cons_of_mem f hg)) hread
    refine ⟨seen', hmembers, hkept, fun g hg hg' => ?_⟩
    rcases List.mem_cons.1 hg with rfl | hg
    · exact absurd hg' hreq
    · exact hasked g hg hg'
  | f :: fields, some v :: values, seen, s, t, hall, hfresh, hseen, hread => by
    rw [readSlots] at hread
    obtain ⟨s', hf, hread⟩ := of_bind_eq_ok hread
    rw [List.map_cons, List.nodup_cons] at hfresh
    have hnew : ∀ g ∈ fields, g.name ∉ f.name :: seen := by
      intro g hg hmem
      rcases List.mem_cons.1 hmem with heq | hmem
      · exact hfresh.1 (heq ▸ List.mem_map_of_mem hg)
      · exact hseen g (List.mem_cons_of_mem f hg) hmem
    obtain ⟨seen', hmembers, hkept, hasked⟩ := readMembers_slots hnames
      (fun g hg => hall g (List.mem_cons_of_mem f hg)) hfresh.2 hnew hread
    refine ⟨seen', ?_, fun name hname => hkept name (List.mem_cons_of_mem _ hname),
      fun g hg hg' => ?_⟩
    · have hfirst : seen.contains f.name = false := by
        rw [List.contains_eq_mem, decide_eq_false_iff_not]
        exact hseen f List.mem_cons_self
      rw [slotMembers, readMembers, find?_field hnames (hall f List.mem_cons_self)]
      simp only [hfirst, hf, Bool.false_eq_true, if_false]
      exact hmembers
    · rcases List.mem_cons.1 hg with rfl | hg
      · exact hkept g.name List.mem_cons_self
      · exact hasked g hg hg'

/-- **A structure is read from the values of its fields.** -/
theorem toStructure_slots {fields : List (Field σ)} {members : List (Option String × Draft)}
    {initial t : σ} (values : List (Option Draft)) (hnames : (fields.map Field.name).Nodup)
    (hmembers : members = slotMembers fields values)
    (hread : readSlots fields values initial = .ok t) :
    toStructure fields initial (.object members) = .ok t := by
  subst hmembers
  obtain ⟨seen, hmembers, -, hasked⟩ := readMembers_slots hnames (fun _ hf => hf) hnames
    (fun f _ => List.not_mem_nil) hread
  have hall : (fields.any fun f => f.required && !seen.contains f.name) = false := by
    rw [List.any_eq_false]
    intro f hf hmissing
    rw [Bool.and_eq_true, Bool.not_eq_true', List.contains_eq_mem, decide_eq_false_iff_not]
      at hmissing
    exact hmissing.2 (hasked f hf hmissing.1)
  rw [toStructure, hmembers]
  exact if_neg (by rw [hall]; exact Bool.false_ne_true)

end Structure

/-! ## 2. Lists -/

theorem toList_cons {α : Type} {decode : Draft → Except Fault α} {v : Draft} {vs : List Draft}
    {a : α} {as : List α} (hv : decode v = .ok a) (hvs : toList decode (.array vs) = .ok as) :
    toList decode (.array (v :: vs)) = .ok (a :: as) := by
  change (v :: vs).mapM decode = .ok (a :: as)
  rw [List.mapM_cons, hv]
  change (toList decode (.array vs) >>= fun as => pure (a :: as)) = _
  rw [hvs]
  rfl

/-- Lists of texts are read back. -/
theorem toList_strings (lines : List String) :
    toList toText (draft (strings lines)) = .ok lines := by
  induction lines with
  | nil => rfl
  | cons line lines ih => exact toList_cons rfl ih

end Draft
end Json

/-! ## 3. Maps -/

namespace OrderedMap

variable {κ α : Type} [Ord κ]

/-- An entry with the greatest key is put at the end. -/
theorem insertEntry_of_greatest [Std.OrientedOrd κ] {k : κ} {v : α} {es : List (κ × α)}
    (h : ∀ e ∈ es, compare e.1 k = .lt) : insertEntry k v es = es ++ [(k, v)] := by
  induction es with
  | nil => rfl
  | cons e es ih =>
    have hgt : compare k e.1 = .gt := Std.OrientedCmp.gt_of_lt (h e List.mem_cons_self)
    obtain ⟨l, w⟩ := e
    rw [insertEntry, hgt, ih fun e he => h e (List.mem_cons_of_mem _ he), List.cons_append]

/-- Two entries with keys that compare as equal, and values that are the same. -/
def SameEntry (eq : α → α → Bool) (a b : κ × α) : Prop :=
  compare a.1 b.1 = .eq ∧ eq a.2 b.2 = true

theorem same_iff_forall₂ {eq : α → α → Bool} {m n : OrderedMap κ α} :
    m.same eq n = true ↔ List.Forall₂ (SameEntry eq) m.entries n.entries := by
  rw [List.forall₂_iff_zip, same, Bool.and_eq_true, beq_iff_eq, List.all_eq_true]
  refine and_congr_right fun _ => ⟨fun h a b hab => ?_, fun h (a, b) hab => ?_⟩
  · have hboth := h (a, b) hab
    rwa [Bool.and_eq_true, beq_iff_eq] at hboth
  · rw [Bool.and_eq_true, beq_iff_eq]
    exact h hab

end OrderedMap

namespace Json.Draft

variable {κ α : Type} [Ord κ] [Std.TransOrd κ]

/-- A member that is read as a given entry. -/
def ReadAs (readKey : String → Option κ) (decode : Draft → Except Fault α) (eq : α → α → Bool)
    (member : Option String × Draft) (e : κ × α) : Prop :=
  ∃ text k a, member.1 = some text ∧ readKey text = some k ∧ decode member.2 = .ok a
    ∧ OrderedMap.SameEntry eq (k, a) e

/-- Members that are read into a map, behind the entries that it has. -/
theorem toMap_append {readKey : String → Option κ} {decode : Draft → Except Fault α}
    {eq : α → α → Bool} {members : List (Option String × Draft)} {rest : List (κ × α)}
    (h : List.Forall₂ (ReadAs readKey decode eq) members rest) :
    ∀ {m : OrderedMap κ α} {before : List (κ × α)},
    List.Forall₂ (OrderedMap.SameEntry eq) m.entries before →
    (∀ f ∈ m.entries, ∀ e ∈ rest, compare f.1 e.1 = .lt) →
    rest.Pairwise (fun a b => compare a.1 b.1 = .lt) →
    ∃ n : OrderedMap κ α,
      toMap readKey decode (fun (m : OrderedMap κ α) k v => m.insert k v) m (.object members)
        = .ok n
      ∧ List.Forall₂ (OrderedMap.SameEntry eq) n.entries (before ++ rest) := by
  induction h with
  | nil =>
    intro m before hm _ _
    exact ⟨m, rfl, by rwa [List.append_nil]⟩
  | @cons member e members rest hread _ ih =>
    intro m before hm hgreater hsorted
    obtain ⟨key, v⟩ := member
    obtain ⟨text, k, a, rfl, hk, ha, hentry⟩ := hread
    obtain ⟨he, hsorted⟩ := List.pairwise_cons.1 hsorted
    have hentries : (m.insert k a).entries = m.entries ++ [(k, a)] := by
      refine OrderedMap.insertEntry_of_greatest fun f hf => ?_
      rw [Std.TransCmp.congr_right hentry.1]
      exact hgreater f hf e List.mem_cons_self
    have hm' : List.Forall₂ (OrderedMap.SameEntry eq) (m.insert k a).entries (before ++ [e]) := by
      rw [hentries]
      exact List.rel_append hm (.cons hentry .nil)
    have hgreater' : ∀ f ∈ (m.insert k a).entries, ∀ e ∈ rest, compare f.1 e.1 = .lt := by
      intro f hf e' he'
      rw [hentries, List.mem_append, List.mem_singleton] at hf
      rcases hf with hf | rfl
      · exact hgreater f hf e' (List.mem_cons_of_mem e he')
      · rw [Std.TransCmp.congr_left hentry.1]
        exact he e' he'
    rw [List.append_cons]
    obtain ⟨n, hmap, hn⟩ := ih hm' hgreater' hsorted
    refine ⟨n, ?_, hn⟩
    rw [toMap] at hmap ⊢
    rw [List.foldlM_cons]
    simp only [hk, ha]
    exact hmap

/-- **A map is read from the members of its entries.** -/
theorem toMap_of_forall₂ {readKey : String → Option κ} {decode : Draft → Except Fault α}
    {eq : α → α → Bool} {members : List (Option String × Draft)} {m : OrderedMap κ α}
    (h : List.Forall₂ (ReadAs readKey decode eq) members m.entries) :
    ∃ n : OrderedMap κ α,
      toMap readKey decode (fun (m : OrderedMap κ α) k v => m.insert k v) .empty (.object members)
        = .ok n
      ∧ n.same eq m = true := by
  obtain ⟨n, hmap, hn⟩ := toMap_append h (m := .empty) .nil (fun f hf => by cases hf) m.sorted
  exact ⟨n, hmap, OrderedMap.same_iff_forall₂.2 hn⟩

/-- A map is read from what was written for its entries. -/
theorem toMap_draft {readKey : String → Option κ} {decode : Draft → Except Fault α}
    {eq : α → α → Bool} {members : List (String × Json)} {m : OrderedMap κ α}
    (h : List.Forall₂ (fun member e => (∃ k, readKey member.1 = some k ∧ compare k e.1 = .eq)
      ∧ ∃ a, decode (draft member.2) = .ok a ∧ eq a e.2 = true) members m.entries) :
    ∃ n : OrderedMap κ α,
      toMap readKey decode (fun (m : OrderedMap κ α) k v => m.insert k v) .empty
        (draft (.object members)) = .ok n
      ∧ n.same eq m = true := by
  rw [draft, draftMembers_eq_map]
  refine toMap_of_forall₂ (List.forall₂_map_left_iff.2 (h.imp fun member e hread => ?_))
  obtain ⟨⟨k, hk, hkey⟩, a, ha, hvalue⟩ := hread
  exact ⟨member.1, k, a, rfl, hk, ha, hkey, hvalue⟩

end Json.Draft
end MultiSigner
