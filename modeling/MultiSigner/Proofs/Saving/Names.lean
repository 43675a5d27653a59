/-
# Domain names are read back

A name that was read from some text, and that has no internationalized label, is read from the text
in which it is displayed, with the same labels (`ofString?_display`).

* What a name is after it was read: each label would be read as itself in ASCII and has no capitals
  (`Tidy`), and all of them together are not too long.
* Written characters are read one by one.  In tidy labels only dots are escaped.
* The first reading takes labels as international ones.  Each of them comes out unchanged or not at
  all, so that reading gives the labels of the name or none (`parseWith_joinLabels`).  If it gives none,
  the second reading takes them in ASCII, which never fails on tidy labels.
-/
import Mathlib.Algebra.Ring.Nat
import Mathlib.Data.List.Forall2
import MultiSigner.DomainName.Parser
import MultiSigner.DomainName.Printer
import MultiSigner.Proofs.Saving.Labels
import MultiSigner.Proofs.Saving.Text

namespace MultiSigner.DomainName

/-! ## 1. Labels that were read -/

/-- The characters of a label. -/
def chars (l : List UInt8) : List Char :=
  l.map fun b => Char.ofNat b.toNat

/-- A label that is read as itself in ASCII and has no capitals. -/
structure Tidy (l : List UInt8) : Prop where
  reads : asciiLabel (chars l) = .ok l
  lower : l.map lowerByte = l

theorem lt_of_alphanumeric {c : Char} (h : isAlphanumeric c = true) : c.toNat < 128 := by
  change ((decide (65 ≤ c.val ∧ c.val ≤ 90) || (decide (97 ≤ c.val) && decide (c.val ≤ 122)))
    || (decide (48 ≤ c.val) && decide (c.val ≤ 57))) = true at h
  simp only [Bool.or_eq_true, Bool.and_eq_true, decide_eq_true_eq, UInt32.le_iff_toNat_le] at h
  change c.val.toNat < 128
  rcases h with (⟨-, h⟩ | ⟨-, h⟩) | ⟨-, h⟩ <;> exact Nat.lt_of_le_of_lt h (by decide)

theorem lt_of_first {c : Char} (h : isFirstChar c = true) : c.toNat < 128 := by
  simp only [isFirstChar, Bool.or_eq_true, decide_eq_true_eq] at h
  rcases h with ((h | rfl) | rfl) | rfl
  · exact lt_of_alphanumeric h
  all_goals decide

theorem lt_of_later {c : Char} (h : isLaterChar c = true) : c.toNat < 128 := by
  simp only [isLaterChar, Bool.or_eq_true, decide_eq_true_eq] at h
  rcases h with ((h | rfl) | rfl) | rfl
  · exact lt_of_alphanumeric h
  all_goals decide

/-- What holds of the characters of ASCII holds of any one of them. -/
theorem of_ascii {P : Char → Prop} (h : ∀ n < 128, P (Char.ofNat n)) {c : Char}
    (hc : c.toNat < 128) : P c := by
  rw [← Char.ofNat_toNat c]
  exact h c.toNat hc

/-- The byte of a character of ASCII. -/
def byteOf (c : Char) : UInt8 :=
  UInt8.ofNat c.toNat

/-- The character of the byte that a label keeps for a character. -/
def small (c : Char) : Char :=
  Char.ofNat (lowerByte (byteOf c)).toNat

theorem byteOf_ofNat (b : UInt8) : byteOf (Char.ofNat b.toNat) = b := by
  have hb := b.toNat_lt
  rw [byteOf, Idna.Punycode.toNat_ofNat (.inl (by omega)), UInt8.ofNat_toNat]

theorem first_small {c : Char} (h : isFirstChar c = true) : isFirstChar (small c) = true := by
  have hall : ∀ n < 128, isFirstChar (Char.ofNat n) = true →
      isFirstChar (small (Char.ofNat n)) = true := by decide +kernel
  exact of_ascii (P := fun c => isFirstChar c = true → isFirstChar (small c) = true) hall
    (lt_of_first h) h

theorem later_small {c : Char} (h : isLaterChar c = true) : isLaterChar (small c) = true := by
  have hall : ∀ n < 128, isLaterChar (Char.ofNat n) = true →
      isLaterChar (small (Char.ofNat n)) = true := by decide +kernel
  exact of_ascii (P := fun c => isLaterChar c = true → isLaterChar (small c) = true) hall
    (lt_of_later h) h

/-- A text that is a label in ASCII. -/
structure Shaped (cs : List Char) : Prop where
  first : ∃ c rest, cs = c :: rest ∧ isFirstChar c = true ∧ ∀ d ∈ rest, isLaterChar d = true
  length : cs.length ≤ 63

theorem asciiLabel_of_shaped {cs : List Char} (h : Shaped cs) :
    asciiLabel cs = .ok (cs.map byteOf) := by
  obtain ⟨⟨c, rest, rfl, hc, hrest⟩, hlen⟩ := h
  simp only [asciiLabel, hc, List.all_eq_true.2 hrest, Bool.and_self, Bool.not_true,
    Bool.false_eq_true, if_false]
  exact if_neg (Nat.not_lt.2 hlen)

theorem shaped_of_asciiLabel {cs : List Char} {l : List UInt8} (h : asciiLabel cs = .ok l) :
    Shaped cs ∧ l = cs.map byteOf := by
  cases cs with
  | nil => cases h
  | cons c rest =>
    simp only [asciiLabel] at h
    split at h
    · cases h
    rename_i hshape
    split at h
    · cases h
    rename_i hlen
    cases h
    rw [Bool.not_eq_true, Bool.not_eq_false', Bool.and_eq_true, List.all_eq_true] at hshape
    exact ⟨⟨⟨c, rest, rfl, hshape⟩, Nat.not_lt.1 hlen⟩, rfl⟩

theorem chars_lower (cs : List Char) : chars ((cs.map byteOf).map lowerByte) = cs.map small := by
  rw [chars, List.map_map, List.map_map]
  rfl

theorem byteOf_chars (l : List UInt8) : (chars l).map byteOf = l := by
  rw [chars, List.map_map]
  exact (List.map_congr_left fun b _ => byteOf_ofNat b).trans (List.map_id' l)

/-- **The labels of a name are tidy.** -/
theorem tidy_of_asciiLabel {cs : List Char} {l : List UInt8} (h : asciiLabel cs = .ok l) :
    Tidy (l.map lowerByte) := by
  obtain ⟨⟨⟨c, rest, rfl, hc, hrest⟩, hlen⟩, rfl⟩ := shaped_of_asciiLabel h
  have hshaped : Shaped ((c :: rest).map small) := by
    refine ⟨⟨small c, rest.map small, rfl, first_small hc, ?_⟩, by rwa [List.length_map]⟩
    intro d hd
    obtain ⟨e, he, rfl⟩ := List.mem_map.1 hd
    exact later_small (hrest e he)
  refine ⟨?_, ?_⟩
  · rw [chars_lower, asciiLabel_of_shaped hshaped, ← chars_lower, byteOf_chars]
  · rw [List.map_map]
    exact List.map_congr_left fun b _ => lowerByte_lowerByte b

/-! ## 2. Names that were read -/

/-- A name as reading leaves it. -/
structure AsRead (n : DomainName) : Prop where
  tidy : ∀ l ∈ n.labels, Tidy l
  size : n.size ≤ 255

/-- A way to read labels that gives labels in ASCII. -/
def GivesAscii (encode : List Char → Except ParseError (List UInt8)) : Prop :=
  ∀ cs l, encode cs = .ok l → Tidy (l.map lowerByte)

theorem givesAscii_asciiLabel : GivesAscii asciiLabel :=
  fun _ _ => tidy_of_asciiLabel

theorem givesAscii_internationalLabel : GivesAscii internationalLabel := by
  intro cs l h
  unfold internationalLabel at h
  split at h
  · exact tidy_of_asciiLabel h
  · split at h
    · cases h
    · exact tidy_of_asciiLabel h

/-- What holds of the labels that were read so far. -/
structure Progress.Sound (p : Progress) : Prop where
  tidy : ∀ l ∈ p.labels, Tidy (l.map lowerByte)
  size : (DomainName.mk p.labels true).size ≤ 255

section Reading

variable {encode : List Char → Except ParseError (List UInt8)} (hencode : GivesAscii encode)

include hencode in
theorem Progress.Sound.endLabel {p q : Progress} (hp : p.Sound) (h : p.endLabel encode = .ok q) :
    q.Sound := by
  obtain ⟨l, hl, h⟩ := of_bind_eq_ok h
  simp only at h
  split at h
  · cases h
  · rename_i hsize
    cases h
    refine ⟨fun l' hl' => ?_, Nat.not_lt.1 hsize⟩
    rcases List.mem_cons.1 hl' with rfl | hl'
    · exact hencode _ _ hl
    · exact hp.tidy l' hl'

/-- A character that ends no label. -/
theorem Progress.labels_octal {p q : Progress} {digits : List Nat} {c : Char}
    (h : p.octal digits c = .ok q) : q.labels = p.labels := by
  unfold Progress.octal at h
  split at h
  · obtain ⟨d, -, h⟩ := of_bind_eq_ok h
    simp only at h
    split at h <;> (cases h; rfl)
  · cases h

include hencode in
theorem Progress.Sound.step {p q : Progress} {c : Char} (hp : p.Sound)
    (h : p.step encode c = .ok q) : q.Sound := by
  have hsame (hq : q.labels = p.labels) : q.Sound := ⟨hq ▸ hp.tidy, hq ▸ hp.size⟩
  unfold Progress.step at h
  split at h
  · unfold Progress.plain at h
    split at h
    · exact hp.endLabel hencode h
    · split at h
      · cases h
        exact hsame rfl
      · split at h
        · cases h
        · cases h
          exact hsame rfl
  · split at h
    · exact hsame (Progress.labels_octal h)
    · cases h
      exact hsame rfl
  · exact hsame (Progress.labels_octal h)

include hencode in
theorem Progress.Sound.foldlM {cs : List Char} {p q : Progress} (hp : p.Sound)
    (h : cs.foldlM (Progress.step encode) p = .ok q) : q.Sound := by
  induction cs generalizing p with
  | nil =>
    cases h
    exact hp
  | cons c cs ih =>
    rw [List.foldlM_cons] at h
    obtain ⟨p', hc, h⟩ := of_bind_eq_ok h
    exact ih (hp.step hencode hc) h

theorem size_eq_sum (n : DomainName) : n.size = (n.labels.map fun l => l.length + 1).sum := by
  obtain ⟨labels, absolute⟩ := n
  induction labels with
  | nil => rfl
  | cons l labels ih =>
    rw [List.map_cons, List.sum_cons, ← ih]
    rfl

theorem size_reverse (labels : List (List UInt8)) (absolute : Bool) :
    (DomainName.mk labels.reverse absolute).size = (DomainName.mk labels absolute).size := by
  simp only [size_eq_sum, List.map_reverse, List.sum_reverse]

theorem size_ofLabels_reverse (absolute absolute' : Bool) (labels : List (List UInt8)) :
    (ofLabels labels.reverse absolute).size = (DomainName.mk labels absolute').size := by
  simp only [size_eq_sum, ofLabels, List.map_map, Function.comp_def, List.length_map,
    List.map_reverse, List.sum_reverse]

include hencode in
theorem asRead_of_parseWith {cs : List Char} {n : DomainName} (h : parseWith encode cs = .ok n) :
    n.AsRead := by
  unfold parseWith at h
  split at h
  · cases h
    exact ⟨fun l hl => (by cases hl), by decide⟩
  · obtain ⟨p, hp, h⟩ := of_bind_eq_ok h
    have hp := Progress.Sound.foldlM hencode ⟨fun l hl => (by cases hl), by decide⟩ hp
    have hq : ∃ (q : Progress) (absolute : Bool), q.Sound
        ∧ n = ofLabels q.labels.reverse absolute := by
      simp only at h
      split at h
      · cases h
        exact ⟨p, _, hp, rfl⟩
      · obtain ⟨q, hq, h⟩ := of_bind_eq_ok h
        cases h
        exact ⟨q, _, hp.endLabel hencode hq, rfl⟩
    obtain ⟨q, absolute, hq, rfl⟩ := hq
    refine ⟨fun l hl => ?_, ?_⟩
    · obtain ⟨l', hl', rfl⟩ := List.mem_map.1 hl
      exact hq.tidy l' (List.mem_reverse.1 hl')
    · rw [size_ofLabels_reverse absolute true]
      exact hq.size

end Reading

theorem asRead_of_ofString? {text : String} {n : DomainName} (h : ofString? text = some n) :
    n.AsRead := by
  unfold ofString? parse at h
  split at h
  · rename_i n' hn
    cases h
    exact asRead_of_parseWith givesAscii_internationalLabel hn
  · cases hn : parseWith asciiLabel text.toList with
    | error e =>
      rw [hn] at h
      cases h
    | ok n' =>
      rw [hn] at h
      cases h
      exact asRead_of_parseWith givesAscii_asciiLabel hn

/-! ## 3. Written labels -/

/-- What is written for a character of a label: a dot is escaped, everything else stands for
itself. -/
def Written (first : Bool) (c : Char) : Prop :=
  c = '.' ∧ byteChars first (byteOf c) = ['\\', '.']
    ∨ (c ≠ '.' ∧ c ≠ '\\' ∧ (Unicode.isControl c || Unicode.isSpace c) = false)
      ∧ byteChars first (byteOf c) = [c]

instance (first : Bool) (c : Char) : Decidable (Written first c) :=
  inferInstanceAs (Decidable (_ ∨ _))

theorem written_of_first {c : Char} (h : isFirstChar c = true) : Written true c := by
  have hall : ∀ n < 128, isFirstChar (Char.ofNat n) = true → Written true (Char.ofNat n) := by
    decide +kernel
  exact of_ascii (P := fun c => isFirstChar c = true → Written true c) hall (lt_of_first h) h

theorem written_of_later {c : Char} (h : isLaterChar c = true) : Written false c := by
  have hall : ∀ n < 128, isLaterChar (Char.ofNat n) = true → Written false (Char.ofNat n) := by
    decide +kernel
  exact of_ascii (P := fun c => isLaterChar c = true → Written false c) hall (lt_of_later h) h

/-- The characters of a tidy label, and how they are written. -/
theorem exists_chars {l : List UInt8} (h : Tidy l) : ∃ c rest, chars l = c :: rest
    ∧ isFirstChar c = true ∧ (∀ d ∈ rest, isLaterChar d = true)
    ∧ asciiLabelChars l
      = byteChars true (byteOf c) ++ (rest.map byteOf).flatMap (byteChars false) := by
  obtain ⟨⟨⟨c, rest, hl, hc, hrest⟩, -⟩, -⟩ := shaped_of_asciiLabel h.reads
  have hbytes : l = byteOf c :: rest.map byteOf := by
    rw [← byteOf_chars l, hl, List.map_cons]
  refine ⟨c, rest, hl, hc, hrest, ?_⟩
  rw [hbytes, asciiLabelChars]

section Writing

variable {encode : List Char → Except ParseError (List UInt8)} {done : List (List UInt8)}

/-- A written character is read. -/
theorem foldlM_written {first : Bool} {c : Char} (h : Written first c) (current : List Char) :
    (byteChars first (byteOf c)).foldlM (Progress.step encode) ⟨done, current, .label⟩
      = .ok ⟨done, c :: current, .label⟩ := by
  rcases h with ⟨rfl, hchars⟩ | ⟨⟨hdot, hback, hplain⟩, hchars⟩
  · rw [hchars]
    rfl
  · rw [hchars, List.foldlM_cons]
    simp only [Progress.step, Progress.plain, if_neg hdot, if_neg hback, hplain,
      Bool.false_eq_true, if_false]
    rfl

theorem foldlM_later {rest : List Char} (h : ∀ c ∈ rest, isLaterChar c = true)
    (current : List Char) :
    ((rest.map byteOf).flatMap (byteChars false)).foldlM (Progress.step encode)
      ⟨done, current, .label⟩ = .ok ⟨done, rest.reverse ++ current, .label⟩ := by
  induction rest generalizing current with
  | nil => rfl
  | cons c rest ih =>
    rw [List.map_cons, List.flatMap_cons, List.foldlM_append,
      foldlM_written (written_of_later (h c List.mem_cons_self)), List.reverse_cons,
      List.append_assoc]
    exact ih (fun d hd => h d (List.mem_cons_of_mem c hd)) (c :: current)

/-- **A written label is read**, up to its end. -/
theorem foldlM_label {l : List UInt8} (h : Tidy l) :
    (asciiLabelChars l).foldlM (Progress.step encode) ⟨done, [], .label⟩
      = .ok ⟨done, (chars l).reverse, .label⟩ := by
  obtain ⟨c, rest, hl, hc, hrest, hwritten⟩ := exists_chars h
  rw [hl, hwritten, List.foldlM_append, foldlM_written (written_of_first hc), List.reverse_cons]
  exact foldlM_later hrest [c]

/-! ## 4. Reading pieces -/

/-- Characters that are read as one piece of a text. -/
def ReadAs (written read : List Char) : Prop :=
  ∀ (encode : List Char → Except ParseError (List UInt8)) (done : List (List UInt8)),
    written.foldlM (Progress.step encode) ⟨done, [], .label⟩ = .ok ⟨done, read.reverse, .label⟩

theorem readAs_label {l : List UInt8} (h : Tidy l) : ReadAs (asciiLabelChars l) (chars l) :=
  fun _ _ => foldlM_label h

/-- Ends a piece, given the labels before it. -/
def endPiece (encode : List Char → Except ParseError (List UInt8)) (done : List (List UInt8))
    (piece : List Char) : Except ParseError (List (List UInt8)) := do
  let l ← encode piece
  if 255 < (DomainName.mk (l :: done) true).size then .error .nameTooLong
  else return l :: done

/-- Between two labels. -/
def between (done : List (List UInt8)) : Progress :=
  ⟨done, [], .label⟩

theorem endLabel_eq (piece : List Char) :
    Progress.endLabel encode ⟨done, piece.reverse, .label⟩
      = between <$> endPiece encode done piece := by
  rw [Progress.endLabel, endPiece, List.reverse_reverse]
  cases encode piece with
  | error e => rfl
  | ok l =>
    simp only [bind, Except.bind]
    split <;> rfl

theorem foldlM_readAs {written read : List Char} (h : ReadAs written read) :
    (written ++ ['.']).foldlM (Progress.step encode) (between done)
      = between <$> endPiece encode done read := by
  rw [List.foldlM_append, between, h encode done, ← endLabel_eq]
  change (Progress.endLabel encode ⟨done, read.reverse, .label⟩ >>= pure) = _
  rw [bind_pure]

/-- Pieces are read just if each of them is, and the labels fit into a name together. -/
theorem foldlM_endPiece_eq_ok {ps : List (List Char)} {all : List (List UInt8)}
    (hdone : (DomainName.mk done true).size ≤ 255) :
    ps.foldlM (endPiece encode) done = .ok all ↔
      ∃ ls, List.Forall₂ (fun p l => encode p = .ok l) ps ls ∧
        (DomainName.mk (ls.reverse ++ done) true).size ≤ 255 ∧ all = ls.reverse ++ done := by
  induction ps generalizing done with
  | nil =>
    constructor
    · intro h
      cases h
      exact ⟨[], .nil, hdone, rfl⟩
    · rintro ⟨ls, hls, -, rfl⟩
      cases hls
      rfl
  | cons p ps ih =>
    rw [List.foldlM_cons]
    constructor
    · intro h
      obtain ⟨done', hfirst, h⟩ := of_bind_eq_ok h
      obtain ⟨l, hl, hfirst⟩ := of_bind_eq_ok hfirst
      split at hfirst
      · cases hfirst
      · rename_i hsize
        cases hfirst
        obtain ⟨ls, hls, hall, rfl⟩ := (ih (Nat.not_lt.1 hsize)).1 h
        refine ⟨l :: ls, .cons hl hls, ?_⟩
        rw [List.reverse_cons, List.append_assoc]
        exact ⟨hall, rfl⟩
    · rintro ⟨_, hls, hsize, rfl⟩
      cases hls with
      | @cons _ l _ ls hl hls =>
        rw [List.reverse_cons, List.append_assoc] at hsize
        have hl' : (DomainName.mk (l :: done) true).size ≤ 255 := by
          simp only [size_eq_sum, List.map_append, List.sum_append] at hsize ⊢
          exact Nat.le_trans (Nat.le_add_left _ _) hsize
        have hfirst : endPiece encode done p = .ok (l :: done) := by
          rw [endPiece, hl]
          exact if_neg (Nat.not_lt.2 hl')
        rw [hfirst]
        exact (ih hl').2 ⟨ls, hls, hsize, by rw [List.reverse_cons, List.append_assoc]; rfl⟩

/-- Labels are not read if one of them is refused. -/
theorem not_forall₂_of_refused {l : List UInt8} {ls ls' : List (List UInt8)} {e : ParseError}
    (hl : l ∈ ls) (he : encode (chars l) = .error e) :
    ¬ List.Forall₂ (fun p l => encode p = .ok l) (ls.map chars) ls' := by
  intro h
  rw [List.forall₂_map_left_iff] at h
  obtain ⟨i, hi, rfl⟩ := List.getElem_of_mem hl
  have hread := h.get hi (h.length_eq ▸ hi)
  rw [List.get_eq_getElem, he] at hread
  cases hread

/-! ## 5. Written names -/

/-- A way to read labels that gives a label back or refuses it. -/
def Keeps (encode : List Char → Except ParseError (List UInt8)) (l : List UInt8) : Prop :=
  encode (chars l) = .ok l ∨ ∃ e, encode (chars l) = .error e

/-- Labels with a dot after each of them. -/
def dotted (ls : List (List UInt8)) : List Char :=
  ls.flatMap fun l => asciiLabelChars l ++ ['.']

theorem size_cons (l : List UInt8) (ls : List (List UInt8)) :
    (DomainName.mk (l :: ls) true).size = l.length + 1 + (DomainName.mk ls true).size := rfl

/-- **Labels are read one by one.** -/
theorem foldlM_dotted {ls : List (List UInt8)} (h : ∀ l ∈ ls, Tidy l) :
    (dotted ls).foldlM (Progress.step encode) (between done)
      = between <$> (ls.map chars).foldlM (endPiece encode) done := by
  induction ls generalizing done with
  | nil => rfl
  | cons l ls ih =>
    rw [dotted, List.flatMap_cons, List.foldlM_append,
      foldlM_readAs (readAs_label (h l List.mem_cons_self)), List.map_cons, List.foldlM_cons]
    cases endPiece encode done (chars l) with
    | error e => rfl
    | ok done' => exact ih fun m hm => h m (List.mem_cons_of_mem l hm)

theorem intercalate_concat (write : List UInt8 → List Char) (ls : List (List UInt8))
    (last : List UInt8) : ['.'].intercalate ((ls ++ [last]).map write)
      = (ls.flatMap fun l => write l ++ ['.']) ++ write last := by
  induction ls with
  | nil => exact List.intercalate_singleton
  | cons l ls ih =>
    have hne : (ls ++ [last]).map write ≠ [] := by
      rw [ne_eq, List.map_eq_nil_iff]
      exact List.append_ne_nil_of_right_ne_nil ls (List.cons_ne_nil last [])
    refine (Idna.joinDots_cons (write l) hne).trans ?_
    rw [Idna.joinDots, ih, List.flatMap_cons, List.append_assoc, List.append_assoc]
    rfl

theorem dotted_concat (ls : List (List UInt8)) (last : List UInt8) :
    dotted (ls ++ [last]) = dotted ls ++ (asciiLabelChars last ++ ['.']) := by
  rw [dotted, List.flatMap_append, List.flatMap_singleton]
  rfl

/-- The end of a text ends the last label. -/
def finish (encode : List Char → Except ParseError (List UInt8)) (p : Progress) :
    Except ParseError Progress :=
  if p.current.isEmpty then .ok p else p.endLabel encode

theorem parseWith_eq (encode : List Char → Except ParseError (List UInt8)) {cs : List Char}
    (h : cs ≠ ['.']) :
    ∃ absolute, parseWith encode cs
      = (cs.foldlM (Progress.step encode) ⟨[], [], .label⟩ >>= fun p =>
        finish encode p >>= fun q => .ok (ofLabels q.labels.reverse absolute)) := by
  refine ⟨cs.getLast? == some '.', ?_⟩
  rw [parseWith, if_neg h]
  refine congrArg _ (funext fun p => ?_)
  unfold finish
  split <;> rfl

/-- Whether the last label is followed by a dot or by the end of the text, it is ended. -/
theorem foldlM_joinLabels {n : DomainName} (h : ∀ l ∈ n.labels, Tidy l) (hne : n.labels ≠ []) :
    ((joinLabels asciiLabelChars n).foldlM (Progress.step encode) (between []) >>= finish encode)
      = between <$> (n.labels.map chars).foldlM (endPiece encode) [] := by
  obtain ⟨init, last, hlabels⟩ : ∃ init last, n.labels = init ++ [last] :=
    ⟨_, _, (List.dropLast_concat_getLast hne).symm⟩
  have hjoin : joinLabels asciiLabelChars n
      = dotted init ++ (asciiLabelChars last ++ (if n.absolute then ['.'] else [])) := by
    rw [joinLabels, hlabels, intercalate_concat, List.append_assoc]
    rfl
  by_cases habsolute : n.absolute = true
  · have hall : joinLabels asciiLabelChars n = dotted n.labels := by
      rw [hjoin, hlabels, dotted_concat, if_pos habsolute]
    rw [hall, foldlM_dotted h]
    cases (n.labels.map chars).foldlM (endPiece encode) [] <;> rfl
  · have hlast : Tidy last := h last (by rw [hlabels]; simp)
    have hinit : ∀ l ∈ init, Tidy l := fun l hl => h l (by
      rw [hlabels]
      exact List.mem_append_left _ hl)
    have hcurrent : (chars last).reverse.isEmpty = false := by
      obtain ⟨c, rest, hc, -⟩ := exists_chars hlast
      rw [hc, List.reverse_cons]
      simp
    rw [hjoin, hlabels, if_neg habsolute, List.append_nil, List.foldlM_append, foldlM_dotted hinit,
      List.map_append, List.foldlM_append]
    cases (init.map chars).foldlM (endPiece encode) [] with
    | error e => rfl
    | ok done =>
      change ((asciiLabelChars last).foldlM (Progress.step encode) ⟨done, [], .label⟩
        >>= finish encode) = between <$> (endPiece encode done (chars last) >>= pure)
      rw [readAs_label hlast encode done, bind_pure, ← endLabel_eq]
      exact if_neg (ne_true_of_eq_false hcurrent)

/-- No written label starts with a dot. -/
theorem asciiLabelChars_eq_cons {l : List UInt8} (h : Tidy l) :
    ∃ d ds, asciiLabelChars l = d :: ds ∧ d ≠ '.' := by
  obtain ⟨c, rest, -, hc, -, hwritten⟩ := exists_chars h
  rw [hwritten]
  rcases written_of_first hc with ⟨-, hchars⟩ | ⟨⟨hdot, -⟩, hchars⟩
  · rw [hchars]
    exact ⟨'\\', _, rfl, by decide⟩
  · rw [hchars]
    exact ⟨c, _, rfl, hdot⟩

/-- A written name is no lone dot, unless it is the root. -/
theorem joinLabels_ne_dot {n : DomainName} (h : n.AsRead) (hne : n.labels ≠ []) :
    joinLabels asciiLabelChars n ≠ ['.'] := by
  obtain ⟨l, ls, hlabels⟩ := List.exists_cons_of_ne_nil hne
  have hl : Tidy l := h.tidy l (by rw [hlabels]; exact List.mem_cons_self)
  obtain ⟨d, ds, hl, hd⟩ := asciiLabelChars_eq_cons hl
  have hstart : ∃ tail, joinLabels asciiLabelChars n = asciiLabelChars l ++ tail := by
    rw [joinLabels, hlabels, List.map_cons]
    cases ls.map asciiLabelChars with
    | nil => exact ⟨_, by rw [List.intercalate_singleton]⟩
    | cons m ms =>
      exact ⟨_, by rw [List.intercalate_cons_cons, List.append_assoc, List.append_assoc]⟩
  obtain ⟨tail, hstart⟩ := hstart
  rw [hstart, hl, List.cons_append]
  exact fun h => hd (List.cons.inj h).1

/-- **A written name is read**: as the name, or not at all because one of its labels is refused. -/
theorem parseWith_joinLabels {n : DomainName} (h : n.AsRead)
    (hkeeps : ∀ l ∈ n.labels, Keeps encode l) :
    (∃ absolute, parseWith encode (joinLabels asciiLabelChars n) = .ok ⟨n.labels, absolute⟩)
      ∨ (∃ l ∈ n.labels, ∃ e, encode (chars l) = .error e)
        ∧ ∃ e, parseWith encode (joinLabels asciiLabelChars n) = .error e := by
  by_cases hnil : n.labels = []
  · left
    rw [joinLabels, hnil]
    split
    · exact ⟨true, rfl⟩
    · exact ⟨false, rfl⟩
  obtain ⟨absolute, hparse⟩ := parseWith_eq encode (joinLabels_ne_dot h hnil)
  have hjoin := @foldlM_joinLabels encode n h.tidy hnil
  rw [between] at hjoin
  rw [hparse, ← bind_assoc, hjoin]
  by_cases hall : ∀ l ∈ n.labels, encode (chars l) = .ok l
  · have hread : List.Forall₂ (fun p l => encode p = .ok l) (n.labels.map chars) n.labels := by
      rw [List.forall₂_map_left_iff, List.forall₂_same]
      exact hall
    have hsize : (DomainName.mk (n.labels.reverse ++ []) true).size ≤ 255 := by
      rw [List.append_nil, size_reverse]
      exact h.size
    have hlabels : ofLabels (n.labels.reverse ++ []).reverse absolute = ⟨n.labels, absolute⟩ := by
      rw [List.append_nil, List.reverse_reverse, ofLabels]
      exact congrArg (DomainName.mk · absolute)
        ((List.map_congr_left fun l hl => (h.tidy l hl).lower).trans (List.map_id' _))
    rw [(foldlM_endPiece_eq_ok (by decide)).2 ⟨_, hread, hsize, rfl⟩]
    exact .inl ⟨absolute, congrArg Except.ok hlabels⟩
  · right
    simp only [not_forall] at hall
    obtain ⟨l, hl, hnot⟩ := hall
    obtain ⟨e, he⟩ := (hkeeps l hl).resolve_left hnot
    refine ⟨⟨l, hl, e, he⟩, ?_⟩
    cases hfold : (n.labels.map chars).foldlM (endPiece encode) [] with
    | error e => exact ⟨e, rfl⟩
    | ok all =>
      obtain ⟨ls, hls, -, -⟩ := (foldlM_endPiece_eq_ok (by decide)).1 hfold
      exact absurd hls (not_forall₂_of_refused hl he)

end Writing

/-! ## 6. Displayed names -/

/-- A name without internationalized labels whose parts between dots are settled. -/
structure Plain (n : DomainName) : Prop where
  unmarked : ∀ l ∈ n.labels, internationalMark.isPrefixOf l = false
  settled : ∀ l ∈ n.labels, ∀ part ∈ Idna.splitDots (chars l), Idna.Settled part

/-- Names in which no part between dots is marked are plain. -/
theorem plain_of_unmarked {n : DomainName} (h : ∀ l ∈ n.labels,
    internationalMark.isPrefixOf l = false
      ∧ ∀ part ∈ Idna.splitDots (chars l), Idna.asciiMark.isPrefixOf part = false) : n.Plain := by
  refine ⟨fun l hl => (h l hl).1, fun l hl part hpart hmark => ?_⟩
  rw [(h l hl).2 part hpart] at hmark
  cases hmark

theorem small_of_tidy {l : List UInt8} (h : Tidy l) : ∀ c ∈ chars l, Idna.IsSmall c := by
  intro c hc
  constructor
  · obtain ⟨d, rest, hl, hd, hrest, -⟩ := exists_chars h
    rw [hl] at hc
    rcases List.mem_cons.1 hc with rfl | hc
    · exact lt_of_first hd
    · exact lt_of_later (hrest c hc)
  · have hall : ∀ n < 256, (Char.ofNat (lowerByte (UInt8.ofNat n)).toNat).isUpper = false := by
      decide +kernel
    rw [chars, ← h.lower, List.map_map] at hc
    obtain ⟨b, -, rfl⟩ := List.mem_map.1 hc
    have hb := hall b.toNat b.toNat_lt
    rwa [UInt8.ofNat_toNat] at hb

/-- Reading a written name in ASCII never fails. -/
theorem AsRead.parseWith_asciiLabel {n : DomainName} (h : n.AsRead) :
    ∃ absolute, parseWith asciiLabel (joinLabels asciiLabelChars n) = .ok ⟨n.labels, absolute⟩ := by
  rcases parseWith_joinLabels h fun l hl => .inl (h.tidy l hl).reads with
    hparse | ⟨⟨l, hl, e, he⟩, -⟩
  · exact hparse
  · rw [(h.tidy l hl).reads] at he
    cases he

/-- An international label in ASCII is read as itself or refused. -/
theorem keeps_internationalLabel {l : List UInt8} (h : Tidy l)
    (hsettled : ∀ part ∈ Idna.splitDots (chars l), Idna.Settled part) :
    Keeps internationalLabel l := by
  unfold Keeps internationalLabel
  split
  · exact .inl h.reads
  · split
    · exact .inr ⟨_, rfl⟩
    · rename_i ascii hascii
      rw [Idna.toAscii?_eq_self (small_of_tidy h) hsettled hascii]
      exact .inl h.reads

/-- A name without internationalized labels is displayed in ASCII. -/
theorem toList_display {n : DomainName}
    (h : ∀ l ∈ n.labels, internationalMark.isPrefixOf l = false) :
    n.display.toList = joinLabels asciiLabelChars n := by
  rw [display, String.toList_ofList, joinLabels, joinLabels]
  refine congrArg (fun ls => ['.'].intercalate ls ++ _) (List.map_congr_left fun l hl => ?_)
  rw [displayLabelChars, h l hl, if_neg Bool.false_ne_true]

/-- **A displayed name is read back**, with the same labels. -/
theorem ofString?_display {text : String} {n : DomainName} (h : ofString? text = some n)
    (hplain : n.Plain) : ∃ absolute, ofString? n.display = some ⟨n.labels, absolute⟩ := by
  have hread := asRead_of_ofString? h
  rw [ofString?, parse, toList_display hplain.unmarked]
  rcases parseWith_joinLabels hread fun l hl =>
      keeps_internationalLabel (hread.tidy l hl) (hplain.settled l hl) with
    ⟨absolute, hparse⟩ | ⟨-, e, hparse⟩
  · rw [hparse]
    exact ⟨absolute, rfl⟩
  · obtain ⟨absolute, hascii⟩ := hread.parseWith_asciiLabel
    rw [hparse, hascii]
    exact ⟨absolute, rfl⟩

end MultiSigner.DomainName
