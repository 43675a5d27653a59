/-
# Which names come back

Names are written down as they are shown to people (`DomainName.display`): internationalized labels
decoded.  A name that is read again from there is cut at every dot, also at those that belong to a
decoded label, and each piece (`pieces`) is converted by the older of the two standards, unless one of
them is refused and the whole name is read in ASCII.

So a name comes back (`reread_iff`) if each of its labels is one piece that is converted into the label,
or if no label is shown decoded and one of them keeps the name from being converted.  Labels that are
not internationalized, and those that both standards take alike (`Alike`), come back unless they stand
together in such a way that the name is read in ASCII (`Mixed`).  Others do not: `faß.de.` is shown for
a name that nobody gets by writing `faß.de.` (`lost_sharp`).

## Contents

1. What labels are shown as.
2. Reading displayed labels.
3. Reading names.
4. What comes back.
5. Labels that come back.
6. Names that come back.
-/
import MultiSigner.Error
import MultiSigner.Proofs.Saving.Conversion
import MultiSigner.Proofs.Saving.Names

namespace MultiSigner.DomainName

/-! ## 1. What labels are shown as -/

/-- The text in its own script that a label is shown as, if it is internationalized and can be
decoded. -/
def script? (l : List UInt8) : Option (List Char) :=
  if internationalMark.isPrefixOf l then (labelText? l).bind Idna.toUnicode? else none

theorem displayLabelChars_eq (l : List UInt8) :
    displayLabelChars l = (script? l).getD (asciiLabelChars l) := by
  rw [displayLabelChars, script?]
  split <;> rfl

/-- What is read again of a label: the parts of its decoded text, or the label. -/
def pieces (l : List UInt8) : List (List Char) :=
  match script? l with
  | some text => Idna.splitDots text
  | none => [chars l]

section Script

variable {l : List UInt8} {text : List Char}

theorem pieces_of_none (h : script? l = none) : pieces l = [chars l] := by
  rw [pieces, h]

theorem pieces_of_some (h : script? l = some text) : pieces l = Idna.splitDots text := by
  rw [pieces, h]

theorem labelText?_of_tidy (h : Tidy l) : labelText? l = some (chars l) := by
  rw [labelText?, if_pos, chars]
  refine List.all_eq_true.2 fun b hb => decide_eq_true ?_
  have hsmall := (small_of_tidy h (Char.ofNat b.toNat) (List.mem_map_of_mem hb)).1
  have hb := b.toNat_lt
  rw [Idna.Punycode.toNat_ofNat (.inl (by omega))] at hsmall
  exact UInt8.lt_iff_toNat_lt.2 hsmall

/-- A label that is shown decoded is marked, and is converted into the text. -/
theorem of_script? (h : Tidy l) (hs : script? l = some text) :
    internationalMark.isPrefixOf l = true ∧
      Idna.process? ⟨false, false⟩ (chars l) = some text := by
  rw [script?] at hs
  split at hs
  · rename_i hmark
    rw [labelText?_of_tidy h, Option.bind_some] at hs
    exact ⟨hmark, hs⟩
  · cases hs

/-- A decoded label, part by part. -/
theorem parts_of_script? (h : Tidy l) (hs : script? l = some text) :
    (∀ part ∈ Idna.splitDots (chars l), (Idna.processLabel ⟨false, false⟩ part).valid = true) ∧
      text = Idna.joinDots ((Idna.splitDots (chars l)).map fun part =>
        (Idna.processLabel ⟨false, false⟩ part).text) := by
  have hparts := Idna.of_process? (of_script? h hs).2
  rwa [Idna.mapText_of_small (small_of_tidy h)] at hparts

/-- The characters of a marked label are marked. -/
theorem exists_mark (hmark : internationalMark.isPrefixOf l = true) :
    ∃ rest, chars l = Idna.asciiMark ++ rest := by
  obtain ⟨rest, rfl⟩ := List.isPrefixOf_iff_prefix.1 hmark
  refine ⟨chars rest, ?_⟩
  rw [chars, List.map_append]
  rfl

/-- A character that is read as itself, unless it is a dot. -/
def Legible (c : Char) : Prop :=
  c ≠ '\\' ∧ (Unicode.isControl c || Unicode.isSpace c) = false

instance (c : Char) : Decidable (Legible c) :=
  inferInstanceAs (Decidable (_ ∧ _))

theorem legible_of_tidy (h : Tidy l) {c : Char} (hc : c ∈ chars l) : Legible c := by
  have hall : ∀ n < 128, (isFirstChar (Char.ofNat n) || isLaterChar (Char.ofNat n)) = true →
      Legible (Char.ofNat n) := by decide +kernel
  refine of_ascii (P := fun c => (isFirstChar c || isLaterChar c) = true → Legible c) hall
    (small_of_tidy h c hc).1 ?_
  obtain ⟨d, rest, hl, hd, hrest, -⟩ := exists_chars h
  rw [hl] at hc
  rcases List.mem_cons.1 hc with rfl | hc
  · rw [hd, Bool.true_or]
  · rw [hrest c hc, Bool.or_true]

/-- What a decoded label is shown as is read character by character. -/
theorem legible_of_script? (h : Tidy l) (hs : script? l = some text) {c : Char} (hc : c ∈ text) :
    Legible c := by
  obtain ⟨hvalid, rfl⟩ := parts_of_script? h hs
  rcases Idna.mem_joinDots hc with rfl | ⟨decoded, hdecoded, hc⟩
  · decide
  obtain ⟨part, hpart, rfl⟩ := List.mem_map.1 hdecoded
  rcases Idna.mem_processLabel (hvalid part hpart) hc with hmem | ⟨hlarge, hallowed⟩
  · exact legible_of_tidy h (Idna.mem_splitDots hpart hmem).1
  · refine ⟨?_, Idna.visible_of_allowed hallowed hlarge⟩
    rintro rfl
    exact absurd hlarge (by decide)

/-- **A decoded label is shorter** than the label. -/
theorem length_script? (h : Tidy l) (hs : script? l = some text) : text.length < l.length := by
  obtain ⟨rest, hchars⟩ := exists_mark (of_script? h hs).1
  obtain ⟨-, rfl⟩ := parts_of_script? h hs
  have hmark : '.' ∉ Idna.asciiMark := by decide
  obtain ⟨part, parts, -, hsplit⟩ := Idna.splitDots_prefix hmark rest
  have hlength : (Idna.joinDots (Idna.splitDots (chars l))).length = l.length := by
    rw [Idna.joinDots_splitDots, chars, List.length_map]
  rw [← hlength]
  refine Idna.length_joinDots_lt (fun part _ => (Idna.length_processLabel part).1) ?_
  rw [hchars, hsplit]
  exact ⟨_, List.mem_cons_self, (Idna.length_processLabel _).2
    (List.isPrefixOf_iff_prefix.2 ⟨part, rfl⟩)⟩

end Script

/-! ## 2. Reading displayed labels -/

theorem readAs_self {piece : List Char} (h : ∀ c ∈ piece, Legible c) (hdots : '.' ∉ piece) :
    ReadAs piece piece := by
  intro encode done
  have hfold : ∀ current, piece.foldlM (Progress.step encode) ⟨done, current, .label⟩
      = .ok ⟨done, piece.reverse ++ current, .label⟩ := by
    induction piece with
    | nil => exact fun _ => rfl
    | cons c piece ih =>
      intro current
      rw [List.mem_cons, not_or] at hdots
      obtain ⟨hback, hvisible⟩ := h c List.mem_cons_self
      have hstep : Progress.step encode ⟨done, current, .label⟩ c
          = .ok ⟨done, c :: current, .label⟩ := by
        simp only [Progress.step, Progress.plain, if_neg (Ne.symm hdots.1), if_neg hback, hvisible,
          Bool.false_eq_true, if_false]
      rw [List.foldlM_cons, hstep, List.reverse_cons, List.append_assoc]
      exact ih (fun d hd => h d (List.mem_cons_of_mem c hd)) hdots.2 (c :: current)
  rw [hfold, List.append_nil]

section Reading

variable {encode : List Char → Except ParseError (List UInt8)} {done : List (List UInt8)}

/-- Parts with a dot after each of them. -/
theorem foldlM_parts {parts : List (List Char)} (h : ∀ part ∈ parts, ReadAs part part)
    (hne : parts ≠ []) :
    (Idna.joinDots parts ++ ['.']).foldlM (Progress.step encode) (between done)
      = between <$> parts.foldlM (endPiece encode) done := by
  induction parts generalizing done with
  | nil => exact absurd rfl hne
  | cons part parts ih =>
    have hpart := h part List.mem_cons_self
    by_cases hparts : parts = []
    · subst hparts
      rw [Idna.joinDots, List.intercalate_singleton, foldlM_readAs hpart]
      exact congrArg _ (bind_pure _).symm
    · have hjoin : Idna.joinDots (part :: parts) ++ ['.']
          = (part ++ ['.']) ++ (Idna.joinDots parts ++ ['.']) := by
        rw [Idna.joinDots_cons part hparts]
        simp
      rw [hjoin, List.foldlM_append, foldlM_readAs hpart, List.foldlM_cons]
      cases endPiece encode done part with
      | error e => rfl
      | ok done' => exact ih (fun p hp => h p (List.mem_cons_of_mem part hp)) hparts

/-- **A displayed label is read piece by piece.** -/
theorem foldlM_displayLabelChars {l : List UInt8} (h : Tidy l) :
    (displayLabelChars l ++ ['.']).foldlM (Progress.step encode) (between done)
      = between <$> (pieces l).foldlM (endPiece encode) done := by
  rw [displayLabelChars_eq, pieces]
  cases hs : script? l with
  | none =>
    refine (foldlM_readAs (readAs_label h)).trans ?_
    exact congrArg _ (bind_pure _).symm
  | some text =>
    have hparts : ∀ part ∈ Idna.splitDots text, ReadAs part part := fun part hpart => readAs_self
      (fun c hc => legible_of_script? h hs (Idna.mem_splitDots hpart hc).1)
      (fun hdot => (Idna.mem_splitDots hpart hdot).2 rfl)
    have hfold := @foldlM_parts encode done _ hparts (Idna.splitDots_ne_nil text)
    rwa [Idna.joinDots_splitDots] at hfold

theorem foldlM_displayed {ls : List (List UInt8)} (h : ∀ l ∈ ls, Tidy l) :
    (ls.flatMap fun l => displayLabelChars l ++ ['.']).foldlM (Progress.step encode) (between done)
      = between <$> (ls.flatMap pieces).foldlM (endPiece encode) done := by
  induction ls generalizing done with
  | nil => rfl
  | cons l ls ih =>
    rw [List.flatMap_cons, List.flatMap_cons]
    refine List.foldlM_append.trans ?_
    rw [foldlM_displayLabelChars (h l List.mem_cons_self), List.foldlM_append]
    cases (pieces l).foldlM (endPiece encode) done with
    | error e => rfl
    | ok done' => exact ih fun m hm => h m (List.mem_cons_of_mem l hm)

end Reading

/-! ## 3. Reading names -/

section Displayed

variable {n m : DomainName}

theorem toList_display_of_absolute (habsolute : n.absolute = true) (hne : n.labels ≠ []) :
    n.display.toList = n.labels.flatMap fun l => displayLabelChars l ++ ['.'] := by
  obtain ⟨init, last, hlabels⟩ : ∃ init last, n.labels = init ++ [last] :=
    ⟨_, _, (List.dropLast_concat_getLast hne).symm⟩
  rw [display, String.toList_ofList, joinLabels, if_pos habsolute, hlabels, intercalate_concat,
    List.flatMap_append, List.flatMap_singleton, List.append_assoc]

/-- **A displayed name is read** just if all pieces of its labels are, and these labels fit into a
name. -/
theorem parseWith_display {encode : List Char → Except ParseError (List UInt8)} (h : n.AsRead)
    (habsolute : n.absolute = true) (hdot : n.display.toList ≠ ['.']) :
    parseWith encode n.display.toList = .ok m ↔
      ∃ ls, List.Forall₂ (fun p l => encode p = .ok l) (n.labels.flatMap pieces) ls ∧
        (DomainName.mk ls true).size ≤ 255 ∧ m = ofLabels ls true := by
  have hne : n.labels ≠ [] := by
    intro hnil
    rw [display, String.toList_ofList, joinLabels, if_pos habsolute, hnil] at hdot
    exact hdot rfl
  have hdisplay := toList_display_of_absolute habsolute hne
  have hlast : (n.display.toList.getLast? == some '.') = true := by
    rw [display, String.toList_ofList, joinLabels, if_pos habsolute, List.getLast?_concat]
    rfl
  have hread : parseWith encode n.display.toList
      = (fun ls => ofLabels ls.reverse true) <$>
        (n.labels.flatMap pieces).foldlM (endPiece encode) [] := by
    rw [parseWith, if_neg hdot, hlast, hdisplay]
    have hfold := @foldlM_displayed encode [] _ h.tidy
    rw [between] at hfold
    rw [hfold]
    cases (n.labels.flatMap pieces).foldlM (endPiece encode) [] <;> rfl
  have hpieces := @foldlM_endPiece_eq_ok encode [] (n.labels.flatMap pieces)
  simp only [List.append_nil] at hpieces
  rw [hread]
  constructor
  · intro hm
    cases hall : (n.labels.flatMap pieces).foldlM (endPiece encode) [] with
    | error e =>
      rw [hall] at hm
      cases hm
    | ok all =>
      rw [hall] at hm
      cases hm
      obtain ⟨ls, hls, hsize, rfl⟩ := (hpieces (by decide)).1 hall
      rw [size_reverse] at hsize
      exact ⟨ls, hls, hsize, congrArg (ofLabels · true) (List.reverse_reverse ls)⟩
  · rintro ⟨ls, hls, hsize, rfl⟩
    rw [← size_reverse] at hsize
    rw [(hpieces (by decide)).2 ⟨ls, hls, hsize, rfl⟩]
    exact congrArg (fun ls => Except.ok (ofLabels ls true)) (List.reverse_reverse ls)

/-! ## 4. What comes back -/

/-- A label comes back: it is shown in one piece, and this piece is converted into the label. -/
def Comes (l : List UInt8) : Prop :=
  ∃ piece l', pieces l = [piece] ∧ internationalLabel piece = .ok l' ∧ l'.map lowerByte = l

/-- The names that come back: each label does, or no label is shown decoded and one of them is no
international label, so that all of them are read in ASCII. -/
inductive Returns (n : DomainName) : Prop
  | converted (labels : ∀ l ∈ n.labels, Comes l)
  | kept (undecoded : ∀ l ∈ n.labels, script? l = none)
      (refused : ∃ l ∈ n.labels, ∃ e, internationalLabel (chars l) = .error e)

/-- One label is shown decoded, and another one is shown in ASCII and no international label, as in
`a_b.münchen.de.`. -/
def Mixed (n : DomainName) : Prop :=
  (∃ l ∈ n.labels, script? l ≠ none) ∧
    ∃ l ∈ n.labels, script? l = none ∧ ∃ e, internationalLabel (chars l) = .error e

/-- A decoded text that the newer standard, by which it is shown, and the older one, by which it is
read, take alike: one label with characters beyond ASCII, all of which are valid in both. -/
structure Alike (text : List Char) : Prop where
  dots : '.' ∉ text
  beyond : ∃ c ∈ text, 128 ≤ c.toNat
  valid : ∀ c ∈ text, Idna.status c = .valid
  unmarked : Idna.asciiMark.isPrefixOf text = false

/-- A label that is marked nowhere, or shown as a text that both standards take alike. -/
inductive Regular (l : List UInt8) : Prop
  | unmarked (parts : ∀ part ∈ Idna.splitDots (chars l), Idna.asciiMark.isPrefixOf part = false)
  | international {text : List Char} (shown : script? l = some text) (alike : Alike text)

/-! ## 5. Labels that come back -/

/-- What both standards take alike, the older one leaves as it is. -/
theorem process?_of_alike {text : List Char} (halike : Alike text)
    (hcomposed : Unicode.compose text = text) (hvalid : Idna.isValidLabel ⟨false, false⟩ text = true)
    (hdirection : (!Idna.hasRightToLeft text || Idna.keepsDirection text) = true) :
    Idna.process? ⟨true, true⟩ text = some text := by
  have hmap : Idna.mapText ⟨true, true⟩ text = text := by
    have hkept : text.flatMap (Idna.replacement ⟨true, true⟩) = text := by
      refine Eq.trans (List.flatMap_congr fun c hc => ?_) (List.flatMap_singleton' text)
      rw [Idna.replacement, halike.valid c hc]
    rw [Idna.mapText, hkept, hcomposed]
  have hprocess : Idna.processLabel ⟨true, true⟩ text
      = ⟨text, Idna.hasRightToLeft text, Idna.isValidLabel ⟨true, true⟩ text⟩ := by
    rw [Idna.processLabel, halike.unmarked, if_neg Bool.false_ne_true]
  have hhost : Idna.isValidLabel ⟨true, true⟩ text = true := by
    cases text with
    | nil => rfl
    | cons c text =>
      rw [Idna.isValidLabel, Bool.and_eq_true, List.all_eq_true] at hvalid ⊢
      refine ⟨hvalid.1, fun d hd => ?_⟩
      rw [Idna.isAllowed, halike.valid d hd]
  refine (Idna.process?_single hmap halike.dots (by rw [hprocess]; exact halike.dots)).2 ?_
  rw [Idna.Passes, hprocess]
  refine ⟨⟨List.any_eq_false.2 fun c hc => ?_, hhost, hdirection⟩, rfl⟩
  rw [Idna.isRefused, halike.valid c hc]
  exact Bool.false_ne_true

/-- A label without dots has a length that name servers accept. -/
theorem isOfLength_chars {l : List UInt8} (h : Tidy l) (hdots : '.' ∉ chars l) :
    Idna.isOfLength (chars l) = true := by
  obtain ⟨⟨⟨c, rest, hl, -⟩, hlength⟩, -⟩ := shaped_of_asciiLabel h.reads
  have hlast : (chars l).getLast? ≠ some '.' := fun hdot => hdots (List.mem_of_getLast? hdot)
  have hne : (chars l).isEmpty = false := by
    rw [hl]
    rfl
  simp only [Idna.isOfLength, if_neg hlast, Idna.splitDots_single hdots, List.all_cons, hne,
    List.all_nil, Bool.not_false, Bool.true_and, Bool.and_true, Bool.and_eq_true, decide_eq_true_eq]
  omega

theorem toAscii?_of_alike {l : List UInt8} {text : List Char} (h : Tidy l)
    (hs : script? l = some text) (halike : Alike text) : Idna.toAscii? text = some (chars l) := by
  obtain ⟨hmark, hprocess⟩ := of_script? h hs
  obtain ⟨-, htext⟩ := parts_of_script? h hs
  -- a dot of the label would still be there in the text
  have hdots : '.' ∉ chars l := by
    intro hdot
    obtain ⟨part, parts, hsplit, hparts⟩ := Idna.splitDots_of_dot hdot
    rw [hsplit, List.map_cons] at htext
    exact halike.dots (htext ▸ Idna.dot_mem_joinDots (by rwa [ne_eq, List.map_eq_nil_iff]))
  have hself : (Idna.processLabel ⟨false, false⟩ (chars l)).text = text := by
    rw [htext, Idna.splitDots_single hdots]
    exact List.intercalate_singleton.symm
  obtain ⟨hpasses, -⟩ := (Idna.process?_single (Idna.mapText_of_small (small_of_tidy h)) hdots
    (hself ▸ halike.dots)).1 hprocess
  obtain ⟨rest, hchars⟩ := exists_mark hmark
  obtain ⟨hdecode, hcomposed, hvalid, hdirection⟩ := hpasses.decoded
    (List.isPrefixOf_iff_prefix.2 ⟨rest, hchars.symm⟩)
  rw [hself] at hdecode hcomposed hvalid hdirection
  have hascii : Idna.labelToAscii text = chars l := by
    obtain ⟨c, hc, hlarge⟩ := halike.beyond
    rw [Idna.labelToAscii, if_neg, Idna.Punycode.encode_decode? hdecode fun c hc =>
      small_of_tidy h c (List.mem_of_mem_drop hc), hchars]
    · rfl
    · rw [List.all_eq_true]
      intro hsmall
      exact absurd (of_decide_eq_true (hsmall c hc)) (Nat.not_lt.2 hlarge)
  have hjoin : Idna.joinDots [chars l] = chars l := List.intercalate_singleton
  simp only [Idna.toAscii?, process?_of_alike halike hcomposed hvalid hdirection,
    Idna.splitDots_single halike.dots, List.map_cons, List.map_nil, hascii, hjoin,
    isOfLength_chars h hdots, Option.bind_eq_bind, Option.bind_some, guard_true, Option.pure_def]

/-- **A label comes back** if both standards take the text alike that it is shown as. -/
theorem comes_of_alike {l : List UInt8} {text : List Char} (h : Tidy l)
    (hs : script? l = some text) (halike : Alike text) : Comes l := by
  refine ⟨text, l, ?_, ?_, h.lower⟩
  · rw [pieces_of_some hs, Idna.splitDots_single halike.dots]
  · obtain ⟨c, hc, hlarge⟩ := halike.beyond
    rw [internationalLabel, if_neg, toAscii?_of_alike h hs halike]
    · exact h.reads
    · rintro (hfirst | rfl)
      · have hvalid := halike.valid '_' (List.mem_of_head? hfirst)
        cases hvalid
      · rw [List.mem_singleton.1 hc] at hlarge
        exact absurd hlarge (by decide)

/-- What is marked nowhere is shown in ASCII. -/
theorem undecoded_of_unmarked {l : List UInt8}
    (h : ∀ part ∈ Idna.splitDots (chars l), Idna.asciiMark.isPrefixOf part = false) :
    script? l = none := by
  refine if_neg fun hmark => ?_
  obtain ⟨rest, hchars⟩ := exists_mark hmark
  have hdots : '.' ∉ Idna.asciiMark := by decide
  obtain ⟨part, parts, -, hsplit⟩ := Idna.splitDots_prefix hdots rest
  have hpart := h (Idna.asciiMark ++ part) (by rw [hchars, hsplit]; exact List.mem_cons_self)
  rw [List.isPrefixOf_iff_prefix.2 ⟨part, rfl⟩] at hpart
  cases hpart

/-- A label that is marked nowhere comes back if it is international. -/
theorem comes_of_unmarked {l : List UInt8} (h : Tidy l)
    (hparts : ∀ part ∈ Idna.splitDots (chars l), Idna.asciiMark.isPrefixOf part = false)
    (haccepted : ¬ ∃ e, internationalLabel (chars l) = .error e) : Comes l := by
  have hsettled : ∀ part ∈ Idna.splitDots (chars l), Idna.Settled part := by
    intro part hpart hmark
    rw [hparts part hpart] at hmark
    cases hmark
  rcases keeps_internationalLabel h hsettled with hread | hrefused
  · exact ⟨chars l, l, pieces_of_none (undecoded_of_unmarked hparts), hread, h.lower⟩
  · exact absurd hrefused haccepted

/-! ## 6. Names that come back -/

/-- **A name of regular labels comes back** unless it is mixed. -/
theorem returns_iff_of_regular {n : DomainName} (htidy : ∀ l ∈ n.labels, Tidy l)
    (h : ∀ l ∈ n.labels, Regular l) : n.Returns ↔ ¬ n.Mixed := by
  constructor
  · rintro hreturns ⟨⟨l, hl, hdecoded⟩, l', hl', hundecoded, e, hrefused⟩
    rcases hreturns with hall | ⟨hnone, -⟩
    · obtain ⟨piece, _, hpiece, hread, -⟩ := hall l' hl'
      rw [pieces_of_none hundecoded] at hpiece
      cases hpiece
      rw [hrefused] at hread
      cases hread
    · exact hdecoded (hnone l hl)
  · intro hmixed
    by_cases hrefused : ∃ l ∈ n.labels, script? l = none ∧
        ∃ e, internationalLabel (chars l) = .error e
    · refine .kept (fun l hl => ?_) ?_
      · by_contra hdecoded
        exact hmixed ⟨⟨l, hl, hdecoded⟩, hrefused⟩
      · obtain ⟨l, hl, -, hread⟩ := hrefused
        exact ⟨l, hl, hread⟩
    · refine .converted fun l hl => ?_
      rcases h l hl with hparts | ⟨hshown, halike⟩
      · exact comes_of_unmarked (htidy l hl) hparts fun hread =>
          hrefused ⟨l, hl, undecoded_of_unmarked hparts, hread⟩
      · exact comes_of_alike (htidy l hl) hshown halike

theorem pieces_ne_nil (l : List UInt8) : pieces l ≠ [] := by
  rw [pieces]
  split
  · exact Idna.splitDots_ne_nil _
  · exact List.cons_ne_nil _ _

theorem length_le_pieces (ls : List (List UInt8)) : ls.length ≤ (ls.flatMap pieces).length := by
  induction ls with
  | nil => exact Nat.le_refl 0
  | cons l ls ih =>
    have hl := List.length_pos_iff.2 (pieces_ne_nil l)
    rw [List.flatMap_cons, List.length_append, List.length_cons]
    omega

/-- As many pieces as labels are one piece for each label. -/
theorem forall₂_of_pieces {R : List Char → List UInt8 → Prop} {ls ls' : List (List UInt8)}
    (h : List.Forall₂ R (ls.flatMap pieces) ls') (hlength : ls'.length = ls.length) :
    List.Forall₂ (fun l l' => ∃ piece, pieces l = [piece] ∧ R piece l') ls ls' := by
  induction ls generalizing ls' with
  | nil =>
    cases h
    exact .nil
  | cons l ls ih =>
    obtain ⟨piece, rest, hpieces⟩ := List.exists_cons_of_ne_nil (pieces_ne_nil l)
    rw [List.flatMap_cons, hpieces, List.cons_append] at h
    cases h with
    | @cons _ l' _ ls' hl hls =>
      have hcount := hls.length_eq
      have hmany := length_le_pieces ls
      rw [List.length_append] at hcount
      rw [List.length_cons, List.length_cons] at hlength
      have hrest : rest = [] := List.length_eq_zero_iff.1 (by omega)
      rw [hrest] at hpieces hls
      exact .cons ⟨piece, hpieces, hl⟩ (ih hls (by omega))

theorem parseAbsolute_eq_ok {text : String} :
    parseAbsolute text = .ok m ↔ parse text = .ok m ∧ m.absolute = true := by
  rw [parseAbsolute]
  cases parse text with
  | error e => simp
  | ok n =>
    cases habsolute : n.absolute with
    | false =>
      simp only [habsolute, Bool.false_eq_true, if_false, reduceCtorEq, Except.ok.injEq, false_iff,
        not_and]
      rintro rfl
      simp [habsolute]
    | true =>
      simp only [habsolute, if_true, Except.ok.injEq]
      refine ⟨?_, And.left⟩
      rintro rfl
      exact ⟨rfl, habsolute⟩

/-- A name is shown as a lone dot only if it is the root, or if its one label is shown as nothing. -/
theorem of_display_dot (h : n.AsRead) (habsolute : n.absolute = true)
    (hdot : n.display.toList = ['.']) : n.labels = [] ∨ ∃ l ∈ n.labels, script? l = some [] := by
  by_cases hnil : n.labels = []
  · exact .inl hnil
  obtain ⟨l, ls, hlabels⟩ := List.exists_cons_of_ne_nil hnil
  have hl : Tidy l := h.tidy l (by rw [hlabels]; exact List.mem_cons_self)
  rw [toList_display_of_absolute habsolute hnil, hlabels, List.flatMap_cons,
    displayLabelChars_eq] at hdot
  refine .inr ⟨l, by rw [hlabels]; exact List.mem_cons_self, ?_⟩
  cases hs : script? l with
  | none =>
    obtain ⟨c, cs, hchars, hc⟩ := asciiLabelChars_eq_cons hl
    rw [hs, Option.getD_none, hchars] at hdot
    exact absurd (List.cons.inj hdot).1 hc
  | some text =>
    rw [hs, Option.getD_some] at hdot
    cases text with
    | nil => rfl
    | cons c text =>
      have hlength := congrArg List.length hdot
      simp at hlength

/-- If the pieces of some labels are read as these labels, each label is one piece. -/
theorem piece_of_forall₂ {R : List Char → List UInt8 → Prop} {ls labels : List (List UInt8)}
    (hls : List.Forall₂ R (labels.flatMap pieces) ls)
    (hsame : ls.map (·.map lowerByte) = labels) :
    ∀ l ∈ labels, ∃ piece l', pieces l = [piece] ∧ R piece l' ∧ l'.map lowerByte = l := by
  have hlength : ls.length = labels.length := by
    rw [← hsame, List.length_map]
  -- no label was cut, since there would be more labels then
  have hpieces := forall₂_of_pieces hls hlength
  have hlower : List.Forall₂ (fun l l' => l'.map lowerByte = l) labels ls := by
    rw [← hsame, List.forall₂_map_left_iff]
    exact List.forall₂_same.2 fun _ _ => rfl
  intro l hl
  obtain ⟨i, hi, rfl⟩ := List.getElem_of_mem hl
  obtain ⟨piece, hpiece, hread⟩ := hpieces.get hi (by omega)
  exact ⟨piece, _, hpiece, hread, hlower.get hi (by omega)⟩

theorem forall₂_of_comes {ls : List (List UInt8)} (h : ∀ l ∈ ls, Comes l) : ∃ ls',
    List.Forall₂ (fun p l => internationalLabel p = .ok l) (ls.flatMap pieces) ls' ∧
      ls'.map (·.map lowerByte) = ls := by
  induction ls with
  | nil => exact ⟨[], .nil, rfl⟩
  | cons l ls ih =>
    obtain ⟨piece, l', hpiece, hread, hlower⟩ := h l List.mem_cons_self
    obtain ⟨ls', hls, hlowers⟩ := ih fun m hm => h m (List.mem_cons_of_mem l hm)
    refine ⟨l' :: ls', ?_, by rw [List.map_cons, hlower, hlowers]⟩
    rw [List.flatMap_cons, hpiece]
    exact .cons hread hls

theorem size_of_lower {ls : List (List UInt8)} (h : ls.map (·.map lowerByte) = n.labels) :
    (DomainName.mk ls true).size = n.size := by
  rw [size_eq_sum, size_eq_sum, ← h, List.map_map]
  simp only [Function.comp_def, List.length_map]

theorem pieces_of_undecoded {ls : List (List UInt8)} (h : ∀ l ∈ ls, script? l = none) :
    ls.flatMap pieces = ls.map chars := by
  rw [← List.flatMap_singleton' (ls.map chars), List.flatMap_map]
  exact List.flatMap_congr fun l hl => pieces_of_none (h l hl)

/-- A label that is shown decoded is not read as itself in ASCII. -/
theorem undecoded_of_ascii {l l' : List UInt8} {piece : List Char} (h : Tidy l)
    (hpiece : pieces l = [piece]) (hread : asciiLabel piece = .ok l')
    (hlower : l'.map lowerByte = l) : script? l = none := by
  cases hs : script? l with
  | none => rfl
  | some text =>
    have hshort := length_script? h hs
    rw [pieces_of_some hs] at hpiece
    have htext : text = piece := by
      rw [← Idna.joinDots_splitDots text, hpiece]
      exact List.intercalate_singleton
    -- the label would be its own decoded text, which is shorter
    obtain ⟨-, rfl⟩ := shaped_of_asciiLabel hread
    rw [htext, ← hlower, List.length_map, List.length_map] at hshort
    exact absurd hshort (Nat.lt_irrefl _)

theorem length_internationalLabel {l l' : List UInt8} (h : Tidy l)
    (hread : internationalLabel (chars l) = .ok l') : l'.length ≤ l.length := by
  unfold internationalLabel at hread
  split at hread
  · rw [h.reads] at hread
    cases hread
    exact Nat.le_refl _
  · split at hread
    · cases hread
    · rename_i ascii hascii
      obtain ⟨-, rfl⟩ := shaped_of_asciiLabel hread
      have hlength := Idna.length_toAscii? (small_of_tidy h) hascii
      rwa [chars, List.length_map, ← List.length_map byteOf] at hlength

/-- Labels that are international, as they are read: they are no longer together. -/
theorem exists_international {ls : List (List UInt8)} (htidy : ∀ l ∈ ls, Tidy l)
    (hall : ∀ l ∈ ls, ∃ l', internationalLabel (chars l) = .ok l') : ∃ ls',
      List.Forall₂ (fun p l => internationalLabel p = .ok l) (ls.map chars) ls' ∧
        (DomainName.mk ls' true).size ≤ (DomainName.mk ls true).size := by
  induction ls with
  | nil => exact ⟨[], .nil, Nat.le_refl _⟩
  | cons l ls ih =>
    obtain ⟨l', hl⟩ := hall l List.mem_cons_self
    obtain ⟨ls', hls, hshort⟩ := ih (fun m hm => htidy m (List.mem_cons_of_mem l hm))
      fun m hm => hall m (List.mem_cons_of_mem l hm)
    have hlength := length_internationalLabel (htidy l List.mem_cons_self) hl
    refine ⟨l' :: ls', .cons hl hls, ?_⟩
    rw [size_cons, size_cons]
    omega

/-- A name that is shown as a lone dot comes back just if it is the root. -/
theorem reread_dot (h : n.AsRead) (habsolute : n.absolute = true)
    (hdot : n.display.toList = ['.']) :
    (∃ m, parseAbsolute n.display = .ok m ∧ (m == n) = true) ↔ n.Returns := by
  -- a lone dot is read as the root, whatever it was shown for
  have hroot : parseAbsolute n.display = .ok root := by
    rw [show n.display = "." from String.toList_inj.1 hdot]
    rfl
  rcases of_display_dot h habsolute hdot with hnil | ⟨l, hl, hs⟩
  · refine iff_of_true ⟨root, hroot, beq_iff.2 hnil.symm⟩ (.converted fun l hl => ?_)
    rw [hnil] at hl
    cases hl
  · refine iff_of_false ?_ ?_
    · rintro ⟨m, hm, hsame⟩
      rw [hroot] at hm
      cases hm
      rw [← beq_iff.1 hsame] at hl
      cases hl
    · rintro (hall | ⟨hundecoded, -⟩)
      · obtain ⟨piece, l', hpiece, hread, -⟩ := hall l hl
        rw [pieces_of_some hs] at hpiece
        cases hpiece
        cases hread
      · rw [hundecoded l hl] at hs
        cases hs

/-- If no label is shown decoded and all of them are international, the name is not read in ASCII. -/
theorem refused_of_kept (h : n.AsRead) (habsolute : n.absolute = true)
    (hdot : n.display.toList ≠ ['.']) (hundecoded : ∀ l ∈ n.labels, script? l = none)
    {e : ParseError} (he : parseWith internationalLabel n.display.toList = .error e) :
    ∃ l ∈ n.labels, ∃ e, internationalLabel (chars l) = .error e := by
  by_contra hrefused
  have hall : ∀ l ∈ n.labels, ∃ l', internationalLabel (chars l) = .ok l' := by
    intro l hl
    cases hl' : internationalLabel (chars l) with
    | ok l' => exact ⟨l', rfl⟩
    | error e => exact absurd ⟨l, hl, e, hl'⟩ hrefused
  obtain ⟨ls, hls, hshort⟩ := exists_international h.tidy hall
  rw [← pieces_of_undecoded hundecoded] at hls
  -- labels that are all accepted can only be too long together, but none of them became longer
  rw [(parseWith_display h habsolute hdot).2 ⟨ls, hls, Nat.le_trans hshort h.size, rfl⟩] at he
  cases he

/-- What is read again as the name was converted label by label, or read in ASCII. -/
theorem returns_of_reread (h : n.AsRead) (habsolute : n.absolute = true)
    (hdot : n.display.toList ≠ ['.']) (hm : parse n.display = .ok m) (hsame : m.labels = n.labels) :
    n.Returns := by
  rw [parse] at hm
  split at hm
  · rename_i m' hm'
    cases hm
    obtain ⟨ls, hls, -, rfl⟩ := (parseWith_display h habsolute hdot).1 hm'
    exact .converted (piece_of_forall₂ hls hsame)
  · rename_i e he
    obtain ⟨ls, hls, -, rfl⟩ := (parseWith_display h habsolute hdot).1 hm
    have hundecoded : ∀ l ∈ n.labels, script? l = none := by
      intro l hl
      obtain ⟨piece, l', hpiece, hread, hlower⟩ := piece_of_forall₂ hls hsame l hl
      exact undecoded_of_ascii (h.tidy l hl) hpiece hread hlower
    exact .kept hundecoded (refused_of_kept h habsolute hdot hundecoded he)

theorem reread_converted (h : n.AsRead) (habsolute : n.absolute = true)
    (hdot : n.display.toList ≠ ['.']) (hall : ∀ l ∈ n.labels, Comes l) :
    ∃ m, parse n.display = .ok m ∧ m.absolute = true ∧ m.labels = n.labels := by
  obtain ⟨ls, hls, hsame⟩ := forall₂_of_comes hall
  have hm := (parseWith_display h habsolute hdot).2
    ⟨ls, hls, size_of_lower hsame ▸ h.size, rfl⟩
  refine ⟨ofLabels ls true, ?_, rfl, hsame⟩
  rw [parse, hm]

theorem reread_kept (h : n.AsRead) (habsolute : n.absolute = true)
    (hdot : n.display.toList ≠ ['.']) (hundecoded : ∀ l ∈ n.labels, script? l = none)
    (hrefused : ∃ l ∈ n.labels, ∃ e, internationalLabel (chars l) = .error e) :
    ∃ m, parse n.display = .ok m ∧ m.absolute = true ∧ m.labels = n.labels := by
  obtain ⟨l, hl, e, he⟩ := hrefused
  have hpieces := pieces_of_undecoded hundecoded
  have hself : List.Forall₂ (fun p l => asciiLabel p = .ok l) (n.labels.map chars) n.labels := by
    rw [List.forall₂_map_left_iff, List.forall₂_same]
    exact fun l hl => (h.tidy l hl).reads
  have hlower : n.labels.map (·.map lowerByte) = n.labels :=
    (List.map_congr_left fun l hl => (h.tidy l hl).lower).trans (List.map_id' _)
  have hm := (parseWith_display h habsolute hdot).2 ⟨n.labels, hpieces ▸ hself, h.size, rfl⟩
  refine ⟨ofLabels n.labels true, ?_, rfl, hlower⟩
  rw [parse]
  split
  · rename_i m' hm'
    obtain ⟨ls, hls, -, rfl⟩ := (parseWith_display h habsolute hdot).1 hm'
    rw [hpieces] at hls
    exact absurd hls (not_forall₂_of_refused hl he)
  · exact hm

/-- **Which names come back**: an accepted name is read from its display as an equal one just if each
of its labels comes back, or if it is shown in ASCII and not international.  A name whose labels are
regular is lost only if one of them is shown decoded and another one makes the whole name be read in
ASCII. -/
theorem reread_iff {text : String} (h : parseAbsolute text = .ok n) :
    ((∃ m, parseAbsolute n.display = .ok m ∧ (m == n) = true) ↔ n.Returns) ∧
      ((∀ l ∈ n.labels, Regular l) → (n.Returns ↔ ¬ n.Mixed)) := by
  obtain ⟨hparse, habsolute⟩ := parseAbsolute_eq_ok.1 h
  have hread : n.AsRead := asRead_of_ofString? (by rw [ofString?, hparse]; rfl)
  refine ⟨?_, returns_iff_of_regular hread.tidy⟩
  by_cases hdot : n.display.toList = ['.']
  · exact reread_dot hread habsolute hdot
  constructor
  · rintro ⟨m, hm, hsame⟩
    exact returns_of_reread hread habsolute hdot (parseAbsolute_eq_ok.1 hm).1 (beq_iff.1 hsame)
  · intro hreturns
    obtain ⟨m, hm, habsolute', hsame⟩ :
        ∃ m, parse n.display = .ok m ∧ m.absolute = true ∧ m.labels = n.labels := by
      rcases hreturns with hall | ⟨hundecoded, hrefused⟩
      · exact reread_converted hread habsolute hdot hall
      · exact reread_kept hread habsolute hdot hundecoded hrefused
    exact ⟨m, parseAbsolute_eq_ok.2 ⟨hm, habsolute'⟩, beq_iff.2 hsame⟩

end Displayed

/-- The name that is shown as `bücher.example.`. -/
def books : DomainName :=
  ⟨[[120, 110, 45, 45, 98, 99, 104, 101, 114, 45, 107, 118, 97],
    [101, 120, 97, 109, 112, 108, 101]], true⟩

theorem regular_books : ∀ l ∈ books.labels, Regular l := by
  have hvalid : ['b', 'ü', 'c', 'h', 'e', 'r'].all (Idna.status · = .valid) = true := by
    decide +kernel
  have halike : Alike ['b', 'ü', 'c', 'h', 'e', 'r'] :=
    ⟨by decide, ⟨'ü', by decide, by decide⟩,
      fun c hc => of_decide_eq_true (List.all_eq_true.1 hvalid c hc), by decide⟩
  intro l hl
  rcases List.mem_pair.1 hl with rfl | rfl
  · exact .international (by decide +kernel) halike
  · exact .unmarked (by decide +kernel)

theorem not_mixed_books : ¬ books.Mixed := by
  rintro ⟨-, l, hl, hundecoded, e, hrefused⟩
  rcases List.mem_pair.1 hl with rfl | rfl
  · revert hundecoded
    decide +kernel
  · have hread : internationalLabel (chars [101, 120, 97, 109, 112, 108, 101])
        = .ok [101, 120, 97, 109, 112, 108, 101] := by
      decide +kernel
    rw [hread] at hrefused
    cases hrefused

/-- An internationalized name that comes back. -/
theorem reread_books : parseAbsolute "xn--bcher-kva.example." = .ok books ∧
    books.display = "bücher.example." ∧
      ∃ m, parseAbsolute books.display = .ok m ∧ (m == books) = true := by
  have hread : parseAbsolute "xn--bcher-kva.example." = .ok books := by decide +kernel
  have hreturns : books.Returns := ((reread_iff hread).2 regular_books).2 not_mixed_books
  exact ⟨hread, by decide +kernel, (reread_iff hread).1.2 hreturns⟩

/-- The name that is shown as `faß.de.`. -/
def sharp : DomainName :=
  ⟨[[120, 110, 45, 45, 102, 97, 45, 104, 105, 97], [100, 101]], true⟩

/-- The name `fass.de.`. -/
def doubled : DomainName :=
  ⟨[[102, 97, 115, 115], [100, 101]], true⟩

/-- An accepted name that is read from its display as another one. -/
theorem lost_sharp : parseAbsolute "xn--fa-hia.de." = .ok sharp ∧ sharp.display = "faß.de." ∧
    ¬ ∃ m, parseAbsolute sharp.display = .ok m ∧ (m == sharp) = true := by
  have hreread : parseAbsolute sharp.display = .ok doubled := by decide +kernel
  refine ⟨by decide +kernel, by decide +kernel, ?_⟩
  rintro ⟨m, hm, hsame⟩
  rw [hreread] at hm
  cases hm
  revert hsame
  decide

end MultiSigner.DomainName
