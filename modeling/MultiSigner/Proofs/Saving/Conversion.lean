/-
# What conversion makes of labels

A label may have dots of its own, and each part between them is converted alone.  What is decoded
consists of characters of the label and of others that may stand in one (`mem_processLabel`), so
nothing in it is read as a control or blank character.  Decoding makes a part shorter, and no text in
ASCII is converted into a longer one (`length_toAscii?`), because what is decoded is encoded as it was.
-/
import Mathlib.Algebra.Order.BigOperators.Group.List
import Mathlib.Algebra.Order.Group.Nat
import Mathlib.Algebra.Ring.Nat
import MultiSigner.Proofs.Saving.Punycode

namespace MultiSigner.Idna

/-! ## 1. Parts -/

theorem mem_joinDots {c : Char} {ls : List (List Char)} (h : c ∈ joinDots ls) :
    c = '.' ∨ ∃ l ∈ ls, c ∈ l := by
  induction ls with
  | nil => cases h
  | cons l ls ih =>
    by_cases hls : ls = []
    · rw [hls, joinDots, List.intercalate_singleton] at h
      exact .inr ⟨l, List.mem_cons_self, h⟩
    · rw [joinDots_cons l hls, List.mem_append, List.mem_cons] at h
      rcases h with h | h | h
      · exact .inr ⟨l, List.mem_cons_self, h⟩
      · exact .inl h
      · rcases ih h with hdot | ⟨m, hm, hc⟩
        · exact .inl hdot
        · exact .inr ⟨m, List.mem_cons_of_mem l hm, hc⟩

theorem dot_mem_joinDots {l : List Char} {ls : List (List Char)} (h : ls ≠ []) :
    '.' ∈ joinDots (l :: ls) := by
  rw [joinDots_cons l h]
  exact List.mem_append_right _ List.mem_cons_self

theorem splitDots_of_dot {cs : List Char} (h : '.' ∈ cs) :
    ∃ part parts, splitDots cs = part :: parts ∧ parts ≠ [] := by
  induction cs with
  | nil => cases h
  | cons c cs ih =>
    by_cases hc : c = '.'
    · rw [hc, splitDots_dot]
      exact ⟨_, _, rfl, splitDots_ne_nil cs⟩
    · obtain ⟨part, parts, hcs, hparts⟩ := ih ((List.mem_cons.1 h).resolve_left (Ne.symm hc))
      obtain ⟨l, ls, hl, hsplit⟩ := splitDots_of_ne hc cs
      rw [hcs] at hl
      cases hl
      exact ⟨_, _, hsplit, hparts⟩

/-- What stands before the first dot belongs to the first part. -/
theorem splitDots_prefix {start : List Char} (h : '.' ∉ start) (cs : List Char) :
    ∃ part parts, splitDots cs = part :: parts ∧
      splitDots (start ++ cs) = (start ++ part) :: parts := by
  induction start with
  | nil =>
    obtain ⟨part, parts, hcs⟩ := List.exists_cons_of_ne_nil (splitDots_ne_nil cs)
    exact ⟨part, parts, hcs, hcs⟩
  | cons c start ih =>
    rw [List.mem_cons, not_or] at h
    obtain ⟨part, parts, hcs, hstart⟩ := ih h.2
    obtain ⟨l, ls, hl, hsplit⟩ := splitDots_of_ne (Ne.symm h.1) (start ++ cs)
    rw [hstart] at hl
    cases hl
    exact ⟨part, parts, hcs, hsplit⟩

theorem length_joinDots {ls : List (List Char)} (h : ls ≠ []) :
    (joinDots ls).length + 1 = (ls.map fun l => l.length + 1).sum := by
  induction ls with
  | nil => exact absurd rfl h
  | cons l ls ih =>
    by_cases hls : ls = []
    · rw [hls, joinDots, List.intercalate_singleton]
      rfl
    · rw [joinDots_cons l hls, List.length_append, List.length_cons, List.map_cons, List.sum_cons,
        ← ih hls]
      omega

/-- Parts that become no longer. -/
theorem length_joinDots_le {f : List Char → List Char} {parts : List (List Char)}
    (hne : parts ≠ []) (hle : ∀ part ∈ parts, (f part).length ≤ part.length) :
    (joinDots (parts.map f)).length ≤ (joinDots parts).length := by
  have hsum : (parts.map fun part => (f part).length + 1).sum
      ≤ (parts.map fun part => part.length + 1).sum :=
    List.sum_le_sum fun part hpart => Nat.succ_le_succ (hle part hpart)
  have hmap : (joinDots (parts.map f)).length + 1 = ((parts.map f).map fun l => l.length + 1).sum :=
    length_joinDots (by rwa [ne_eq, List.map_eq_nil_iff])
  have hparts := length_joinDots hne
  rw [List.map_map] at hmap
  simp only [Function.comp_def] at hmap
  omega

/-- Parts that become no longer, and one of them shorter. -/
theorem length_joinDots_lt {f : List Char → List Char} {parts : List (List Char)}
    (hle : ∀ part ∈ parts, (f part).length ≤ part.length)
    (hlt : ∃ part ∈ parts, (f part).length < part.length) :
    (joinDots (parts.map f)).length < (joinDots parts).length := by
  have hne : parts ≠ [] := by
    obtain ⟨part, hpart, -⟩ := hlt
    exact List.ne_nil_of_mem hpart
  have hsum := List.sum_lt_sum (l := parts) (fun part => (f part).length + 1)
    (fun part => part.length + 1) (fun part hpart => Nat.succ_le_succ (hle part hpart))
    (hlt.imp fun part ⟨hpart, hshort⟩ => ⟨hpart, Nat.succ_lt_succ hshort⟩)
  have hmap : (joinDots (parts.map f)).length + 1 = ((parts.map f).map fun l => l.length + 1).sum :=
    length_joinDots (by rwa [ne_eq, List.map_eq_nil_iff])
  rw [List.map_map] at hmap
  have hparts := length_joinDots hne
  simp only [Function.comp_def] at hmap
  omega

/-! ## 2. Characters of decoded labels -/

/-- A character that may stand in a label is neither blank nor a control character. -/
theorem visible_of_allowed {rules : Rules} {c : Char} (h : isAllowed rules c = true)
    (hc : 128 ≤ c.toNat) : (Unicode.isControl c || Unicode.isSpace c) = false := by
  have hall : ∀ hostNames transitional, ∀ n ∈ List.range' 0x80 0x21 ++ [0x1680]
      ++ List.range' 0x2000 11 ++ [0x2028, 0x2029, 0x202f, 0x205f, 0x3000],
      isAllowed ⟨hostNames, transitional⟩ (Char.ofNat n) = false := by
    decide +kernel
  by_contra hblank
  have hmem : c.toNat ∈ List.range' 0x80 0x21 ++ [0x1680] ++ List.range' 0x2000 11
      ++ [0x2028, 0x2029, 0x202f, 0x205f, 0x3000] := by
    simp only [Unicode.isControl, Unicode.isSpace, Bool.not_eq_false, Bool.or_eq_true,
      Bool.and_eq_true, decide_eq_true_eq] at hblank
    simp only [List.mem_append, List.mem_range'_1, List.mem_cons, List.not_mem_nil, or_false]
    omega
  have hrefused := hall rules.hostNames rules.transitional c.toNat hmem
  rw [Char.ofNat_toNat, h] at hrefused
  cases hrefused

/-- What a processed label that is valid consists of: characters of the label, and others that may
stand in a label. -/
theorem mem_processLabel {rules : Rules} {label : List Char} {c : Char}
    (hvalid : (processLabel rules label).valid = true) (hc : c ∈ (processLabel rules label).text) :
    c ∈ label ∨ 128 ≤ c.toNat ∧ isAllowed { rules with transitional := false } c = true := by
  unfold processLabel at hvalid hc
  split at hvalid
  · rename_i hmark
    rw [if_pos hmark] at hc
    split at hvalid
    · cases hvalid
    · rename_i text htext
      simp only [htext] at hc
      simp only [Punycode.decode?] at htext
      split at htext
      · rcases Punycode.mem_insertAll (Nat.le_refl 128) htext hc with hmem | hlarge
        · exact .inl (List.mem_of_mem_drop (Punycode.mem_splitBasic hmem))
        · refine .inr ⟨hlarge, ?_⟩
          rw [Bool.and_eq_true] at hvalid
          obtain ⟨d, ds, rfl⟩ := List.exists_cons_of_ne_nil (List.ne_nil_of_mem hc)
          have hallowed := hvalid.2
          rw [isValidLabel, Bool.and_eq_true, List.all_eq_true] at hallowed
          exact hallowed.2 c hc
      · cases htext
  · rename_i hplain
    rw [if_neg hplain] at hc
    exact .inl hc

/-! ## 3. Lengths -/

theorem length_processLabel {rules : Rules} (label : List Char) :
    (processLabel rules label).text.length ≤ label.length ∧
      (asciiMark.isPrefixOf label = true →
        (processLabel rules label).text.length < label.length) := by
  unfold processLabel
  split
  · rename_i hmark
    obtain ⟨rest, rfl⟩ := List.isPrefixOf_iff_prefix.1 hmark
    split
    · simp [asciiMark]
    · rename_i text htext
      have hlength := Punycode.length_decode? htext
      simp only [asciiMark, List.length_drop, List.length_append, List.length_cons,
        List.length_nil] at hlength ⊢
      omega
  · rename_i hplain
    exact ⟨Nat.le_refl _, fun hmark => absurd hmark hplain⟩

/-- A part of a label in ASCII, converted: as it was, or decoded into fewer characters of ASCII. -/
theorem length_labelToAscii {rules : Rules} {part : List Char} (hpart : ∀ c ∈ part, IsSmall c)
    (hvalid : (processLabel rules part).valid = true) :
    (labelToAscii (processLabel rules part).text).length ≤ part.length := by
  rw [labelToAscii]
  split
  · exact (length_processLabel part).1
  · rename_i hbeyond
    unfold processLabel at hvalid hbeyond ⊢
    split at hvalid
    · rename_i hmark
      rw [if_pos hmark] at hbeyond ⊢
      split at hvalid
      · cases hvalid
      · rename_i text htext
        obtain ⟨rest, rfl⟩ := List.isPrefixOf_iff_prefix.1 hmark
        simp only
        rw [Punycode.encode_decode? htext fun c hc => hpart c (List.mem_of_mem_drop hc)]
        exact Nat.le_refl _
    · rename_i hplain
      rw [if_neg hplain] at hbeyond
      exact absurd (List.all_eq_true.2 fun c hc => decide_eq_true (hpart c hc).1) hbeyond

/-- **No text in ASCII is converted into a longer one.** -/
theorem length_toAscii? {cs ascii : List Char} (hcs : ∀ c ∈ cs, IsSmall c)
    (h : toAscii? cs = some ascii) : ascii.length ≤ cs.length := by
  obtain ⟨text, htext, rfl⟩ := of_toAscii? h
  obtain ⟨hvalid, rfl⟩ := of_process? htext
  rw [mapText_of_small hcs] at hvalid ⊢
  have hdots : ∀ decoded ∈ (splitDots cs).map (fun part => (processLabel ⟨true, true⟩ part).text),
      '.' ∉ decoded := by
    intro decoded hdecoded hdot
    obtain ⟨part, hpart, rfl⟩ := List.mem_map.1 hdecoded
    rcases mem_processLabel (hvalid part hpart) hdot with hdot | ⟨hlarge, -⟩
    · exact (mem_splitDots hpart hdot).2 rfl
    · exact absurd hlarge (by decide)
  have hne := splitDots_ne_nil cs
  rw [splitDots_joinDots (by rwa [ne_eq, List.map_eq_nil_iff]) hdots, List.map_map]
  have hshort := length_joinDots_le hne fun part hpart => length_labelToAscii
    (fun c hc => hcs c (mem_splitDots hpart hc).1) (hvalid part hpart)
  rwa [joinDots_splitDots] at hshort

/-! ## 4. Texts of one label -/

/-- What is asked of a text that is processed as one label. -/
def Passes (rules : Rules) (cs label : List Char) : Prop :=
  cs.any (isRefused rules) = false ∧ (processLabel rules label).valid = true ∧
    (!(processLabel rules label).bidirectional
      || keepsDirection (processLabel rules label).text) = true

/-- **A text without dots is one label.** -/
theorem process?_single {rules : Rules} {cs label text : List Char} (hlabel : mapText rules cs = label)
    (hdots : '.' ∉ label) (htext : '.' ∉ (processLabel rules label).text) :
    process? rules cs = some text ↔
      Passes rules cs label ∧ (processLabel rules label).text = text := by
  have hjoin : joinDots [(processLabel rules label).text] = (processLabel rules label).text :=
    List.intercalate_singleton
  simp only [process?, hlabel, splitDots_single hdots, List.map_cons, List.map_nil, hjoin,
    splitDots_single htext, Option.bind_eq_bind, Option.bind_eq_some_iff, Option.guard_eq_some',
    List.all_cons, List.all_nil, List.any_cons, List.any_nil, Bool.and_true, Bool.or_false,
    Option.pure_def, Option.some.injEq, exists_const, Passes, and_assoc, Bool.not_eq_eq_eq_not,
    Bool.not_true]

/-- What is asked of a marked label is asked of its decoded text. -/
theorem Passes.decoded {rules : Rules} {cs label : List Char} (h : Passes rules cs label)
    (hmark : asciiMark.isPrefixOf label = true) :
    Punycode.decode? (label.drop 4) = some (processLabel rules label).text ∧
      Unicode.compose (processLabel rules label).text = (processLabel rules label).text ∧
      isValidLabel { rules with transitional := false } (processLabel rules label).text = true ∧
      (!hasRightToLeft (processLabel rules label).text
        || keepsDirection (processLabel rules label).text) = true := by
  obtain ⟨-, hvalid, hdirection⟩ := h
  unfold processLabel at hvalid hdirection ⊢
  rw [if_pos hmark] at hvalid hdirection ⊢
  split at hvalid
  · cases hvalid
  · rename_i text htext
    simp only [htext] at hdirection ⊢
    rw [Bool.and_eq_true, Unicode.isComposed, beq_iff_eq] at hvalid
    exact ⟨trivial, hvalid.1, hvalid.2, hdirection⟩

end MultiSigner.Idna
