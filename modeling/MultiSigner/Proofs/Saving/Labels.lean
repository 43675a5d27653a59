/-
# Labels in ASCII are read as themselves

The conversion into ASCII leaves a label alone that is in ASCII already and has no capitals, or it
refuses it (`toAscii?_eq_self`).  What a label says between escaped dots is converted on its own; so
a part that is marked as internationalized is decoded and encoded again, and has to come back
(`Settled`).
-/
import Mathlib.Data.List.Basic
import Mathlib.Data.Option.Basic
import MultiSigner.Idna.Processing

namespace MultiSigner.Idna

/-! ## 1. Splitting and joining -/

theorem splitDots_dot (cs : List Char) : splitDots ('.' :: cs) = [] :: splitDots cs :=
  if_pos rfl

theorem splitDots_of_ne {c : Char} (hc : c ≠ '.') (cs : List Char) :
    ∃ l ls, splitDots cs = l :: ls ∧ splitDots (c :: cs) = (c :: l) :: ls := by
  rw [splitDots, if_neg hc]
  cases cs with
  | nil => exact ⟨[], [], rfl, rfl⟩
  | cons d cs =>
    cases h : splitDots (d :: cs) with
    | nil =>
      rw [splitDots] at h
      split at h
      · cases h
      · split at h <;> cases h
    | cons l ls => exact ⟨l, ls, rfl, rfl⟩

/-- What holds of all characters of a text, apart from dots, holds of those of its parts. -/
theorem mem_splitDots {cs part : List Char} (h : part ∈ splitDots cs) {c : Char} (hc : c ∈ part) :
    c ∈ cs ∧ c ≠ '.' := by
  induction cs generalizing part with
  | nil =>
    rw [splitDots, List.mem_singleton] at h
    rw [h] at hc
    cases hc
  | cons d cs ih =>
    by_cases hd : d = '.'
    · rw [hd, splitDots_dot] at h
      rcases List.mem_cons.1 h with rfl | h
      · cases hc
      · exact (ih h hc).imp_left (List.mem_cons_of_mem d)
    · obtain ⟨l, ls, hcs, hsplit⟩ := splitDots_of_ne hd cs
      rw [hsplit] at h
      rcases List.mem_cons.1 h with rfl | h
      · rcases List.mem_cons.1 hc with rfl | hc
        · exact ⟨List.mem_cons_self, hd⟩
        · exact (ih (hcs ▸ List.mem_cons_self) hc).imp_left (List.mem_cons_of_mem d)
      · exact (ih (hcs ▸ List.mem_cons_of_mem l h) hc).imp_left (List.mem_cons_of_mem d)

theorem splitDots_ne_nil (cs : List Char) : splitDots cs ≠ [] := by
  cases cs with
  | nil => exact List.cons_ne_nil _ _
  | cons c cs =>
    by_cases hc : c = '.'
    · rw [hc, splitDots_dot]
      exact List.cons_ne_nil _ _
    · obtain ⟨l, ls, -, hsplit⟩ := splitDots_of_ne hc cs
      rw [hsplit]
      exact List.cons_ne_nil _ _

theorem joinDots_cons (l : List Char) {ls : List (List Char)} (h : ls ≠ []) :
    joinDots (l :: ls) = l ++ '.' :: joinDots ls := by
  obtain ⟨l', ls, rfl⟩ := List.exists_cons_of_ne_nil h
  rw [joinDots, List.intercalate_cons_cons, List.append_assoc]
  rfl

/-- Joining the parts of a text gives the text. -/
theorem joinDots_splitDots (cs : List Char) : joinDots (splitDots cs) = cs := by
  induction cs with
  | nil => rfl
  | cons c cs ih =>
    by_cases hc : c = '.'
    · rw [hc, splitDots_dot, joinDots_cons _ (splitDots_ne_nil cs), ih, List.nil_append]
    · obtain ⟨l, ls, hcs, hsplit⟩ := splitDots_of_ne hc cs
      rw [hcs] at ih
      rw [hsplit, ← ih]
      cases ls with
      | nil => rfl
      | cons l' ls =>
        rw [joinDots_cons _ (List.cons_ne_nil l' ls), joinDots_cons _ (List.cons_ne_nil l' ls),
          List.cons_append]

theorem splitDots_append {l : List Char} (h : '.' ∉ l) (cs : List Char) :
    splitDots (l ++ '.' :: cs) = l :: splitDots cs := by
  induction l with
  | nil => exact splitDots_dot cs
  | cons c l ih =>
    rw [List.mem_cons, not_or] at h
    obtain ⟨l', ls, hcs, hsplit⟩ := splitDots_of_ne (Ne.symm h.1) (l ++ '.' :: cs)
    rw [ih h.2] at hcs
    cases hcs
    exact hsplit

theorem splitDots_single {l : List Char} (h : '.' ∉ l) : splitDots l = [l] := by
  induction l with
  | nil => rfl
  | cons c l ih =>
    rw [List.mem_cons, not_or] at h
    obtain ⟨l', ls, hcs, hsplit⟩ := splitDots_of_ne (Ne.symm h.1) l
    rw [ih h.2] at hcs
    cases hcs
    exact hsplit

/-- Splitting parts without dots after joining them gives the parts. -/
theorem splitDots_joinDots {parts : List (List Char)} (hne : parts ≠ [])
    (h : ∀ part ∈ parts, '.' ∉ part) : splitDots (joinDots parts) = parts := by
  induction parts with
  | nil => exact absurd rfl hne
  | cons part parts ih =>
    have hpart := h part List.mem_cons_self
    by_cases hparts : parts = []
    · rw [hparts, joinDots, List.intercalate_singleton, splitDots_single hpart]
    · rw [joinDots_cons _ hparts, splitDots_append hpart,
        ih hparts fun p hp => h p (List.mem_cons_of_mem part hp)]

/-! ## 2. Decoding puts in no dots -/

namespace Punycode

theorem toNat_ofNat {n : Nat} (h : n.isValidChar) : (Char.ofNat n).toNat = n := by
  rw [Char.ofNat, dif_pos h]
  rfl

/-- Only characters beyond ASCII are inserted. -/
theorem mem_insertAll {code bias i : Nat} {text cs result : List Char} (hcode : 128 ≤ code)
    (h : insertAll code bias i text cs = some result) {c : Char} (hc : c ∈ result) :
    c ∈ text ∨ 128 ≤ c.toNat := by
  fun_induction insertAll code bias i text cs with
  | case1 code bias i text =>
    cases h
    exact .inl hc
  | case2 => cases h
  | case3 => cases h
  | case4 code bias i text c' rest j after _ count code' _ hvalid ih =>
    have hcode' : 128 ≤ code' := Nat.le_trans hcode (Nat.le_add_right _ _)
    rcases ih hcode' h with hmem | hlarge
    · have hplace : j % count ≤ text.length := Nat.le_of_lt_succ (Nat.mod_lt j (Nat.succ_pos _))
      rcases (List.mem_insertIdx hplace).1 hmem with rfl | hmem
      · rw [toNat_ofNat hvalid]
        exact .inr hcode'
      · exact .inl hmem
    · exact .inr hlarge
  | case5 => cases h

theorem mem_splitBasic {cs : List Char} {c : Char} (h : c ∈ (splitBasic cs).1) : c ∈ cs := by
  simp only [splitBasic] at h
  split at h
  · cases h
  · have hmem := List.dropWhile_subset _ (List.mem_reverse.1 (List.dropLast_subset _ h))
    exact List.mem_reverse.1 hmem

/-- **What is decoded from a text without dots has none.** -/
theorem dot_not_mem_decode? {cs text : List Char} (h : decode? cs = some text)
    (hcs : '.' ∉ cs) : '.' ∉ text := by
  intro hdot
  simp only [decode?] at h
  split at h
  · rcases mem_insertAll (Nat.le_refl 128) h hdot with hmem | hlarge
    · exact hcs (mem_splitBasic hmem)
    · exact absurd hlarge (by decide)
  · cases h

end Punycode

/-! ## 3. Text in ASCII without capitals -/

/-- A character of ASCII that is no capital. -/
def IsSmall (c : Char) : Prop :=
  c.toNat < 128 ∧ c.isUpper = false

theorem replacement_of_small {rules : Rules} {c : Char} (h : IsSmall c) :
    replacement rules c = [c] := by
  rw [replacement, status, if_pos h.1, asciiStatus, h.2, if_neg Bool.false_ne_true]
  split <;> first | rfl | (rename_i heq; split at heq <;> cases heq)

theorem mapText_of_small {rules : Rules} {cs : List Char} (h : ∀ c ∈ cs, IsSmall c) :
    mapText rules cs = cs := by
  have hmap : cs.flatMap (replacement rules) = cs := by
    rw [List.flatMap_congr fun c hc => replacement_of_small (h c hc), List.flatMap_singleton']
  rw [mapText, hmap]
  exact Unicode.composed_of_small fun c hc => Nat.lt_trans (h c hc).1 (by decide)

theorem labelToAscii_of_small {label : List Char} (h : ∀ c ∈ label, IsSmall c) :
    labelToAscii label = label := by
  rw [labelToAscii, if_pos]
  exact List.all_eq_true.2 fun c hc => decide_eq_true (h c hc).1

/-- A part of a label that comes back if it is marked, decoded and encoded. -/
def Settled (part : List Char) : Prop :=
  asciiMark.isPrefixOf part = true → ∀ text, Punycode.decode? (part.drop 4) = some text →
    labelToAscii text = part

/-- What becomes of a settled part that is valid. -/
theorem labelToAscii_processLabel {rules : Rules} {part : List Char}
    (hsmall : ∀ c ∈ part, IsSmall c) (hdots : '.' ∉ part) (hsettled : Settled part)
    (hvalid : (processLabel rules part).valid = true) :
    labelToAscii (processLabel rules part).text = part
      ∧ '.' ∉ (processLabel rules part).text := by
  unfold processLabel at hvalid ⊢
  split at hvalid
  · rename_i hmark
    rw [if_pos hmark]
    split at hvalid
    · cases hvalid
    · rename_i text htext
      refine ⟨hsettled hmark text htext, Punycode.dot_not_mem_decode? htext fun hdot => ?_⟩
      exact hdots (List.mem_of_mem_drop hdot)
  · rename_i hplain
    rw [if_neg hplain]
    exact ⟨labelToAscii_of_small hsmall, hdots⟩

/-- What a processed text consists of. -/
theorem of_process? {rules : Rules} {cs text : List Char} (h : process? rules cs = some text) :
    (∀ part ∈ splitDots (mapText rules cs), (processLabel rules part).valid = true)
      ∧ text = joinDots ((splitDots (mapText rules cs)).map fun part =>
        (processLabel rules part).text) := by
  simp only [process?, Option.bind_eq_bind, Option.bind_eq_some_iff, Option.guard_eq_some',
    Option.pure_def, Option.some.injEq, List.map_map] at h
  obtain ⟨-, -, -, hvalid, -, -, htext⟩ := h
  exact ⟨fun part hpart => List.all_eq_true.1 hvalid _ (List.mem_map_of_mem hpart), htext.symm⟩

theorem of_toAscii? {cs ascii : List Char} (h : toAscii? cs = some ascii) :
    ∃ text, process? ⟨true, true⟩ cs = some text
      ∧ ascii = joinDots ((splitDots text).map labelToAscii) := by
  simp only [toAscii?, Option.bind_eq_bind, Option.bind_eq_some_iff, Option.guard_eq_some',
    Option.pure_def, Option.some.injEq] at h
  obtain ⟨text, htext, -, -, hascii⟩ := h
  exact ⟨text, htext, hascii.symm⟩

/-- **A text in ASCII without capitals is converted into itself**, or refused, if its parts are
settled. -/
theorem toAscii?_eq_self {cs ascii : List Char} (hsmall : ∀ c ∈ cs, IsSmall c)
    (hsettled : ∀ part ∈ splitDots cs, Settled part) (h : toAscii? cs = some ascii) :
    ascii = cs := by
  obtain ⟨text, htext, rfl⟩ := of_toAscii? h
  obtain ⟨hvalid, rfl⟩ := of_process? htext
  rw [mapText_of_small hsmall] at hvalid ⊢
  have hparts : ∀ part ∈ splitDots cs, labelToAscii (processLabel ⟨true, true⟩ part).text = part
      ∧ '.' ∉ (processLabel ⟨true, true⟩ part).text := fun part hpart =>
    labelToAscii_processLabel (fun c hc => hsmall c (mem_splitDots hpart hc).1)
      (fun hdot => (mem_splitDots hpart hdot).2 rfl) (hsettled part hpart) (hvalid part hpart)
  rw [splitDots_joinDots, List.map_map]
  · have hself : (splitDots cs).map (labelToAscii ∘ fun part =>
        (processLabel ⟨true, true⟩ part).text) = splitDots cs :=
      (List.map_congr_left fun part hpart => (hparts part hpart).1).trans (List.map_id' _)
    rw [hself, joinDots_splitDots]
  · rw [ne_eq, List.map_eq_nil_iff]
    exact splitDots_ne_nil cs
  · rintro _ hmem
    obtain ⟨part, hpart, rfl⟩ := List.mem_map.1 hmem
    exact (hparts part hpart).2

end MultiSigner.Idna
