/-
# JSON texts are read back

What `Json.pretty` and `Json.compact` write, `Draft.read` reads: a text that was written for a value
is complete and says the same as the value (`read_pretty`, `read_compact`).  The way is in two
halves, with the tokens of a value in the middle.

* `lex_prettyChars` and `lex_compactChars`: the text of a value is cut into its tokens, whatever
  follows it, as long as that does not go on with a number.
* `foldl_tokens`: the reader makes the draft of a value from its tokens, whatever is around it.

Numbers have to fit into 64 bits, since greater ones are read as something else.
-/
import Mathlib.Tactic.SplitIfs
import MultiSigner.Json.Decode
import MultiSigner.Json.Printer

namespace MultiSigner

/-- A text is split where the characters of one kind end. -/
theorem span_append {p : Char → Bool} {ds rest : List Char} (hds : ∀ c ∈ ds, p c = true)
    (hrest : ∀ c ∈ rest.head?, p c = false) :
    (ds ++ rest).takeWhile p = ds ∧ (ds ++ rest).dropWhile p = rest := by
  have hstop : rest.takeWhile p = [] ∧ rest.dropWhile p = rest := by
    cases rest with
    | nil => exact ⟨rfl, rfl⟩
    | cons c cs =>
      have hc : ¬ p c = true := Bool.not_eq_true _ ▸ hrest c rfl
      exact ⟨List.takeWhile_cons_of_neg hc, List.dropWhile_cons_of_neg hc⟩
  rw [List.takeWhile_append_of_pos hds, List.dropWhile_append_of_pos hds, hstop.1, hstop.2,
    List.append_nil]
  exact ⟨rfl, rfl⟩

/-- What two readings give that are done one after the other. -/
theorem of_bind_eq_ok {ε α β : Type} {x : Except ε α} {f : α → Except ε β} {b : β}
    (h : (x >>= f) = .ok b) : ∃ a, x = .ok a ∧ f a = .ok b := by
  cases x with
  | error e => cases h
  | ok a => exact ⟨a, rfl, h⟩

namespace Json

/-! ## 1. Strings -/

/-- What is read for a character of a written string. -/
def piece (c : Char) : Piece :=
  if c.toNat < 32 ∧ c ≠ '\n' ∧ c ≠ '\r' ∧ c ≠ '\t' ∧ c.toNat ≠ 8 ∧ c.toNat ≠ 12 then .unit c.toNat
  else .plain c

theorem eq_of_toNat {c d : Char} (h : c.toNat = d.toNat) : c = d :=
  Char.ext (UInt32.toNat_inj.1 h)

/-- A piece in front of those that are read from a text. -/
def cons (p : Piece) : List Piece × List Char → List Piece × List Char
  | (ps, rest) => (p :: ps, rest)

theorem scanPieces_plain {c : Char} (hquote : c ≠ '"') (hback : c ≠ '\\') (h : 32 ≤ c.toNat)
    (cs : List Char) : scanPieces (c :: cs) = (scanPieces cs).map (cons (.plain c)) := by
  rw [scanPieces.eq_5 c cs hquote (fun _ _ _ _ _ hc _ => hback hc) fun _ _ hc _ => hback hc,
    if_pos ⟨h, hback⟩]
  cases scanPieces cs <;> rfl

theorem scanPieces_short {e c : Char} (he : shortEscape? e = some c) (cs : List Char) :
    scanPieces ('\\' :: e :: cs) = (scanPieces cs).map (cons (.plain c)) := by
  have hu : e ≠ 'u' := by
    rintro rfl
    have hnone : shortEscape? 'u' = none := rfl
    rw [hnone] at he
    cases he
  rw [scanPieces.eq_4 e cs fun _ _ _ _ _ h _ => hu h, he]
  cases scanPieces cs <;> rfl

theorem scanPieces_unit {a b : Char} {n : Nat} (h : Hex.number? ['0', '0', a, b] = some n)
    (cs : List Char) : scanPieces ('\\' :: 'u' :: '0' :: '0' :: a :: b :: cs)
      = (scanPieces cs).map (cons (.unit n)) := by
  rw [scanPieces.eq_3, h]
  cases scanPieces cs <;> rfl

theorem number?_digits {n : Nat} (h : n < 32) :
    Hex.number? ['0', '0', Hex.digit (n / 16), Hex.digit (n % 16)] = some n := by
  have hhigh := Hex.digitValue?_digit (n / 16) (by omega)
  have hlow := Hex.digitValue?_digit (n % 16) (by omega)
  have hzero : Hex.digitValue? '0' = some 0 := rfl
  simp only [Hex.number?, List.foldl_cons, List.foldl_nil, hzero, hhigh, hlow,
    Option.bind_eq_bind, Option.bind_some, Option.pure_def]
  congr 1
  omega

/-- **A written character is one piece.** -/
theorem scanPieces_escape (c : Char) (cs : List Char) :
    scanPieces (escape c ++ cs) = (scanPieces cs).map (cons (piece c)) := by
  have hshort {e : Char} (he : shortEscape? e = some c) (hp : piece c = .plain c) :
      scanPieces (['\\', e] ++ cs) = (scanPieces cs).map (cons (piece c)) := by
    rw [hp]
    exact scanPieces_short he cs
  unfold escape
  split_ifs with hquote hback hn hr ht h8 h12 h32
  · subst hquote
    exact hshort rfl rfl
  · subst hback
    exact hshort rfl rfl
  · subst hn
    exact hshort rfl rfl
  · subst hr
    exact hshort rfl rfl
  · subst ht
    exact hshort rfl rfl
  · obtain rfl : c = '\x08' := eq_of_toNat h8
    exact hshort rfl rfl
  · obtain rfl : c = '\x0c' := eq_of_toNat h12
    exact hshort rfl rfl
  · rw [piece, if_pos ⟨h32, hn, hr, ht, h8, h12⟩]
    exact scanPieces_unit (number?_digits h32) cs
  · rw [piece, if_neg fun h => h32 h.1]
    exact scanPieces_plain hquote hback (Nat.not_lt.1 h32) cs

theorem scanPieces_quoted (cs rest : List Char) :
    scanPieces (cs.flatMap escape ++ '"' :: rest) = some (cs.map piece, rest) := by
  induction cs with
  | nil => exact scanPieces.eq_2 rest
  | cons c cs ih =>
    rw [List.flatMap_cons, List.append_assoc, scanPieces_escape, ih]
    rfl

theorem denote?_plain (c : Char) (ps : List Piece) :
    denote? (.plain c :: ps) = (denote? ps).map (c :: ·) := by
  rw [denote?.eq_2]
  cases denote? ps <;> rfl

theorem denote?_unit {n : Nat} (h : n < 0xD800) (ps : List Piece) :
    denote? (.unit n :: ps) = (denote? ps).map (Char.ofNat n :: ·) := by
  conv => lhs; unfold denote?
  rw [if_neg (by omega), if_neg (by omega)]
  cases denote? ps <;> rfl

theorem denote?_piece (c : Char) (ps : List Piece) :
    denote? (piece c :: ps) = (denote? ps).map (c :: ·) := by
  unfold piece
  split
  · rename_i h
    rw [denote?_unit (Nat.lt_trans h.1 (by decide)), Char.ofNat_toNat]
  · exact denote?_plain c ps

theorem denote?_map_piece (cs : List Char) : denote? (cs.map piece) = some cs := by
  induction cs with
  | nil => rfl
  | cons c cs ih =>
    rw [List.map_cons, denote?_piece, ih]
    rfl

/-- **A string is read back.** -/
theorem scanString_quoted (s : String) (rest : List Char) :
    scanString (s.toList.flatMap escape ++ '"' :: rest) = some (.string (some s), rest) := by
  simp only [scanString, scanPieces_quoted, Option.bind_eq_bind, Option.bind_some, Option.pure_def,
    denote?_map_piece, Option.map_some, String.ofList_toList]

/-! ## 2. Numbers -/

/-- A text that does not go on with a number. -/
def EndsNumber (rest : List Char) : Prop :=
  ∀ c ∈ rest.head?, c.isDigit = false ∧ c ≠ '.' ∧ c ≠ 'e' ∧ c ≠ 'E'

section Number

variable {rest : List Char}

theorem scanDigits_append (h : EndsNumber rest) {ds : List Char} (hne : ds ≠ [])
    (hds : ∀ c ∈ ds, c.isDigit = true) : scanDigits (ds ++ rest) = some (ds, rest) := by
  obtain ⟨htake, hdrop⟩ := span_append hds fun c hc => (h c hc).1
  rw [scanDigits, htake, hdrop, if_neg]
  rwa [List.isEmpty_iff]

theorem digitChar_ne_zero : ∀ n < 10, n ≠ 0 → Nat.digitChar n ≠ '0' := by decide

/-- Only zero is written with a zero in front. -/
theorem head?_digits {n : Nat} (hn : n ≠ 0) : (Decimal.digits n).head? ≠ some '0' := by
  induction n using Nat.strongRecOn with
  | ind n ih =>
    unfold Decimal.digits at ih ⊢
    by_cases h : n < 10
    · rw [Nat.toDigits_of_lt_base h, List.head?_cons]
      exact fun hzero => digitChar_ne_zero n h hn (Option.some.inj hzero)
    · have hne : Nat.toDigits 10 (n / 10) ≠ [] := Decimal.digits_ne_nil _
      rw [Nat.toDigits_of_base_le (by decide) (Nat.not_lt.1 h), List.head?_append,
        Option.or_of_isSome]
      · exact ih (n / 10) (by omega) (by omega)
      · rwa [List.isSome_head?]

theorem scanWhole_digits (h : EndsNumber rest) (n : Nat) :
    scanWhole (Decimal.digits n ++ rest) = some (Decimal.digits n, rest) := by
  rw [scanWhole, scanDigits_append h (Decimal.digits_ne_nil n) fun c hc =>
    Decimal.isDigit_of_mem_digits hc]
  refine Option.filter_some_pos (decide_eq_true ?_)
  by_cases hn : n = 0
  · subst hn
    exact .inl rfl
  · exact .inr (head?_digits hn)

theorem scanFraction_of_ends (h : EndsNumber rest) : scanFraction rest = some (none, rest) := by
  unfold scanFraction
  split
  · exact absurd rfl (h '.' rfl).2.1
  · rfl

theorem scanExponent_of_ends (h : EndsNumber rest) : scanExponent rest = some (none, rest) := by
  cases rest with
  | nil => rfl
  | cons c cs =>
    obtain ⟨-, -, he, hE⟩ := h c rfl
    exact if_neg (not_or.2 ⟨he, hE⟩)

/-- **A number is read back.** -/
theorem scanNumber_digits (h : EndsNumber rest) (negative : Bool) (n : Nat) :
    scanNumber negative (Decimal.digits n ++ rest) = some (wholeNumber negative n, rest) := by
  simp only [scanNumber, scanWhole_digits h, scanFraction_of_ends h, scanExponent_of_ends h,
    Option.bind_eq_bind, Option.bind_some, and_self, if_true, Option.pure_def]
  rw [Decimal.digits, Nat.ofDigitChars_ten_toDigits]

end Number

/-! ## 3. Tokens -/

/-- A character that starts a token and is no blank. -/
theorem lex_of_scan {c : Char} {cs after : List Char} {t : Token} (hc : isBlank c = false)
    (h : scan c cs = some (t, after)) : lex (c :: cs) = t :: lex after := by
  rw [lex, hc, if_neg Bool.false_ne_true]
  split
  · rename_i hnone
    rw [h] at hnone
    cases hnone
  · rename_i hsome
    rw [h] at hsome
    cases hsome
    rfl

theorem lex_of_blank {c : Char} (hc : isBlank c = true) (cs : List Char) :
    lex (c :: cs) = lex cs := by
  rw [lex, hc, if_pos rfl]

theorem lex_newline (depth : Nat) (cs : List Char) : lex (newline depth ++ cs) = lex cs := by
  rw [newline, List.cons_append, lex_of_blank rfl]
  generalize 2 * depth = count
  induction count with
  | zero => rfl
  | succ count ih =>
    rw [List.replicate_succ, List.cons_append, lex_of_blank rfl, ih]

theorem lex_quote (s : String) (cs : List Char) :
    lex (quote s.toList ++ cs) = .string (some s) :: lex cs := by
  rw [quote, List.cons_append, List.append_assoc]
  exact lex_of_scan rfl (scanString_quoted s cs)

/-- A digit is no blank, and starts a number. -/
theorem scan_digit {c : Char} (hc : c.isDigit = true) (cs : List Char) :
    isBlank c = false ∧ scan c cs = scanNumber false (c :: cs) := by
  constructor
  · simp only [isBlank, Bool.or_eq_false_iff, decide_eq_false_iff_not]
    refine ⟨⟨⟨?_, ?_⟩, ?_⟩, ?_⟩ <;> rintro rfl <;> exact absurd hc (by decide)
  · -- Every other kind of token starts with a character that is no digit.
    unfold scan
    split <;> first | exact absurd hc (by decide) | exact if_pos hc

theorem lex_integer {cs : List Char} (h : EndsNumber cs) (n : Int) :
    lex (integer n ++ cs) = wholeNumber (decide (n < 0)) n.natAbs :: lex cs := by
  unfold integer
  split
  · rename_i hneg
    rw [List.cons_append, decide_eq_true hneg]
    exact lex_of_scan rfl (scanNumber_digits h true n.natAbs)
  · rename_i hpos
    rw [decide_eq_false hpos]
    have hscan := scanNumber_digits h false n.natAbs
    cases hds : Decimal.digits n.natAbs with
    | nil => exact absurd hds (Decimal.digits_ne_nil _)
    | cons d ds =>
      rw [hds] at hscan
      have hd : d.isDigit = true :=
        Decimal.isDigit_of_mem_digits (by rw [hds]; exact List.mem_cons_self)
      obtain ⟨hblank, hnumber⟩ := scan_digit hd (ds ++ cs)
      exact lex_of_scan hblank (hnumber.trans hscan)

mutual

/-- The tokens of a value. -/
def tokens : Json → List Token
  | .null => [.null]
  | .bool b => [.bool b]
  | .number n => [wholeNumber (decide (n < 0)) n.natAbs]
  | .string s => [.string (some s)]
  | .array [] => [.openArray, .closeArray]
  | .array (v :: vs) => .openArray :: (tokens v ++ itemTokens vs)
  | .object [] => [.openObject, .closeObject]
  | .object ((k, v) :: ms) =>
    .openObject :: .string (some k) :: .colon :: (tokens v ++ memberTokens ms)

/-- The tokens after the first item. -/
def itemTokens : List Json → List Token
  | [] => [.closeArray]
  | v :: vs => .comma :: (tokens v ++ itemTokens vs)

/-- The tokens after the first member. -/
def memberTokens : List (String × Json) → List Token
  | [] => [.closeObject]
  | (k, v) :: ms => .comma :: .string (some k) :: .colon :: (tokens v ++ memberTokens ms)

end

theorem endsNumber_cons {c : Char} (h : c.isDigit = false ∧ c ≠ '.' ∧ c ≠ 'e' ∧ c ≠ 'E')
    (cs : List Char) : EndsNumber (c :: cs) := by
  rintro _ ⟨⟩
  exact h

theorem endsNumber_items (depth : Nat) (vs : List Json) (cs : List Char) :
    EndsNumber (prettyItems depth vs ++ cs) := by
  cases vs with
  | nil => exact endsNumber_cons (by decide) _
  | cons v vs => exact endsNumber_cons (by decide) _

theorem endsNumber_members (depth : Nat) (ms : List (String × Json)) (cs : List Char) :
    EndsNumber (prettyMembers depth ms ++ cs) := by
  cases ms with
  | nil => exact endsNumber_cons (by decide) _
  | cons m ms => exact endsNumber_cons (by decide) _

theorem endsNumber_compactItems (vs : List Json) (cs : List Char) :
    EndsNumber (compactItems vs ++ cs) := by
  cases vs with
  | nil => exact endsNumber_cons (by decide) _
  | cons v vs => exact endsNumber_cons (by decide) _

theorem endsNumber_compactMembers (ms : List (String × Json)) (cs : List Char) :
    EndsNumber (compactMembers ms ++ cs) := by
  cases ms with
  | nil => exact endsNumber_cons (by decide) _
  | cons m ms => exact endsNumber_cons (by decide) _

mutual

/-- **The text of a value is cut into its tokens.** -/
theorem lex_prettyChars (depth : Nat) : ∀ (v : Json) {cs : List Char}, EndsNumber cs →
    lex (prettyChars depth v ++ cs) = tokens v ++ lex cs
  | .null, cs, _ => lex_of_scan rfl rfl
  | .bool true, cs, _ => lex_of_scan rfl rfl
  | .bool false, cs, _ => lex_of_scan rfl rfl
  | .number n, cs, h => lex_integer h n
  | .string s, cs, _ => lex_quote s cs
  | .array [], cs, _ => by
    rw [prettyChars, tokens]
    exact (lex_of_scan rfl rfl).trans (congrArg _ (lex_of_scan rfl rfl))
  | .array (v :: vs), cs, _ => by
    rw [prettyChars, tokens, List.cons_append, List.cons_append, lex_of_scan rfl rfl,
      List.append_assoc, List.append_assoc, lex_newline,
      lex_prettyChars (depth + 1) v (endsNumber_items depth vs cs), lex_prettyItems depth vs,
      List.append_assoc]
  | .object [], cs, _ => by
    rw [prettyChars, tokens]
    exact (lex_of_scan rfl rfl).trans (congrArg _ (lex_of_scan rfl rfl))
  | .object ((k, v) :: ms), cs, _ => by
    rw [prettyChars, tokens, List.cons_append, List.cons_append, lex_of_scan rfl rfl,
      List.append_assoc, lex_newline, List.append_assoc, lex_quote, List.cons_append,
      List.cons_append, lex_of_scan rfl rfl, lex_of_blank rfl, List.append_assoc,
      lex_prettyChars (depth + 1) v (endsNumber_members depth ms cs), lex_prettyMembers depth ms,
      List.cons_append, List.cons_append, List.append_assoc]

/-- The same for the items after the first one. -/
theorem lex_prettyItems (depth : Nat) : ∀ (vs : List Json) {cs : List Char},
    lex (prettyItems depth vs ++ cs) = itemTokens vs ++ lex cs
  | [], cs => by
    rw [prettyItems, itemTokens, List.append_assoc, lex_newline]
    exact lex_of_scan rfl rfl
  | v :: vs, cs => by
    rw [prettyItems, itemTokens, List.cons_append, List.cons_append, lex_of_scan rfl rfl,
      List.append_assoc, List.append_assoc, lex_newline,
      lex_prettyChars (depth + 1) v (endsNumber_items depth vs cs), lex_prettyItems depth vs,
      List.append_assoc]

/-- The same for the members after the first one. -/
theorem lex_prettyMembers (depth : Nat) : ∀ (ms : List (String × Json)) {cs : List Char},
    lex (prettyMembers depth ms ++ cs) = memberTokens ms ++ lex cs
  | [], cs => by
    rw [prettyMembers, memberTokens, List.append_assoc, lex_newline]
    exact lex_of_scan rfl rfl
  | (k, v) :: ms, cs => by
    rw [prettyMembers, memberTokens, List.cons_append, List.cons_append, lex_of_scan rfl rfl,
      List.append_assoc, lex_newline, List.append_assoc, lex_quote, List.cons_append,
      List.cons_append, lex_of_scan rfl rfl, lex_of_blank rfl, List.append_assoc,
      lex_prettyChars (depth + 1) v (endsNumber_members depth ms cs), lex_prettyMembers depth ms,
      List.cons_append, List.cons_append, List.append_assoc]

end

mutual

/-- **The same where there are no blanks.** -/
theorem lex_compactChars : ∀ (v : Json) {cs : List Char}, EndsNumber cs →
    lex (compactChars v ++ cs) = tokens v ++ lex cs
  | .null, cs, _ => lex_of_scan rfl rfl
  | .bool true, cs, _ => lex_of_scan rfl rfl
  | .bool false, cs, _ => lex_of_scan rfl rfl
  | .number n, cs, h => lex_integer h n
  | .string s, cs, _ => lex_quote s cs
  | .array [], cs, _ => by
    rw [compactChars, tokens]
    exact (lex_of_scan rfl rfl).trans (congrArg _ (lex_of_scan rfl rfl))
  | .array (v :: vs), cs, _ => by
    rw [compactChars, tokens, List.cons_append, List.cons_append, lex_of_scan rfl rfl,
      List.append_assoc, lex_compactChars v (endsNumber_compactItems vs cs), lex_compactItems vs,
      List.append_assoc]
  | .object [], cs, _ => by
    rw [compactChars, tokens]
    exact (lex_of_scan rfl rfl).trans (congrArg _ (lex_of_scan rfl rfl))
  | .object ((k, v) :: ms), cs, _ => by
    rw [compactChars, tokens, List.cons_append, List.cons_append, lex_of_scan rfl rfl,
      List.append_assoc, lex_quote, List.cons_append, lex_of_scan rfl rfl, List.append_assoc,
      lex_compactChars v (endsNumber_compactMembers ms cs), lex_compactMembers ms,
      List.cons_append, List.cons_append, List.append_assoc]

/-- The same for the items after the first one. -/
theorem lex_compactItems : ∀ (vs : List Json) {cs : List Char},
    lex (compactItems vs ++ cs) = itemTokens vs ++ lex cs
  | [], cs => lex_of_scan rfl rfl
  | v :: vs, cs => by
    rw [compactItems, itemTokens, List.cons_append, List.cons_append, lex_of_scan rfl rfl,
      List.append_assoc, lex_compactChars v (endsNumber_compactItems vs cs), lex_compactItems vs,
      List.append_assoc]

/-- The same for the members after the first one. -/
theorem lex_compactMembers : ∀ (ms : List (String × Json)) {cs : List Char},
    lex (compactMembers ms ++ cs) = memberTokens ms ++ lex cs
  | [], cs => lex_of_scan rfl rfl
  | (k, v) :: ms, cs => by
    rw [compactMembers, memberTokens, List.cons_append, List.cons_append, lex_of_scan rfl rfl,
      List.append_assoc, lex_quote, List.cons_append, lex_of_scan rfl rfl, List.append_assoc,
      lex_compactChars v (endsNumber_compactMembers ms cs), lex_compactMembers ms,
      List.cons_append, List.cons_append, List.append_assoc]

end

theorem endsNumber_nil : EndsNumber [] := fun c hc => by cases hc

theorem lex_pretty (v : Json) : lex v.pretty.toList = tokens v := by
  have hlex := lex_prettyChars 0 v endsNumber_nil
  rwa [List.append_nil, lex, List.append_nil, ← String.toList_ofList (l := prettyChars 0 v)] at hlex

theorem lex_compact (v : Json) : lex v.compact.toList = tokens v := by
  have hlex := lex_compactChars v endsNumber_nil
  rwa [List.append_nil, lex, List.append_nil, ← String.toList_ofList (l := compactChars v)] at hlex

/-! ## 4. Values -/

/-- Values whose numbers fit into 64 bits, with or without sign. -/
inductive Fits : Json → Prop
  | null : Fits .null
  | bool (b : Bool) : Fits (.bool b)
  | number {n : Int} (low : -0x8000000000000000 ≤ n) (high : n < 0x10000000000000000) :
    Fits (.number n)
  | string (s : String) : Fits (.string s)
  | array {items : List Json} (each : ∀ v ∈ items, Fits v) : Fits (.array items)
  | object {members : List (String × Json)} (each : ∀ m ∈ members, Fits m.2) :
    Fits (.object members)

theorem fits_nat {n : Nat} (h : n < 0x10000000000000000) : Fits (nat n) :=
  .number (by simp only [Int.ofNat_eq_natCast]; omega) (by simp only [Int.ofNat_eq_natCast]; omega)

theorem fits_strings (lines : List String) : Fits (strings lines) := by
  refine .array fun v hv => ?_
  obtain ⟨s, -, rfl⟩ := List.mem_map.1 hv
  exact .string s

theorem fits_member (name : String) (value : Option String) :
    ∀ m ∈ member name .string value, Fits m.2 := by
  cases value with
  | none => exact fun m hm => by cases hm
  | some s =>
    intro m hm
    rw [List.mem_singleton.1 hm]
    exact .string s

theorem wholeNumber_of_fits {n : Int} (low : -0x8000000000000000 ≤ n)
    (high : n < 0x10000000000000000) :
    wholeNumber (decide (n < 0)) n.natAbs = .integer n := by
  unfold wholeNumber
  by_cases hneg : n < 0
  · rw [decide_eq_true hneg, if_pos rfl, if_pos (by omega)]
    exact congrArg Token.integer (by simp only [Int.ofNat_eq_natCast]; omega)
  · rw [decide_eq_false hneg, if_neg Bool.false_ne_true, if_pos (by omega)]
    exact congrArg Token.integer (by simp only [Int.ofNat_eq_natCast]; omega)

namespace Draft
open Reader

/-- An item that comes first is read like any other. -/
theorem step_firstItem {v : Json} (h : Fits v) (ts : List Token) (around : List Context) :
    (tokens v ++ ts).foldl step (.firstItem around)
      = (tokens v ++ ts).foldl step (.value (.item [] :: around)) := by
  cases h with
  | null => rfl
  | bool b => rfl
  | number low high =>
    rw [tokens, wholeNumber_of_fits low high]
    rfl
  | string s => rfl
  | @array items each => cases items <;> rfl
  | @object members each => cases members <;> rfl

mutual

/-- **The tokens of a value are read as what it says**, whatever is around it. -/
theorem foldl_tokens : ∀ {v : Json}, Fits v → ∀ (around : List Context) (ts : List Token),
    (tokens v ++ ts).foldl step (.value around) = ts.foldl step (deliver (draft v) around)
  | .null, _, around, ts => rfl
  | .bool b, _, around, ts => rfl
  | .number n, h, around, ts => by
    cases h with
    | number low high =>
      rw [tokens, wholeNumber_of_fits low high]
      rfl
  | .string s, _, around, ts => rfl
  | .array [], _, around, ts => rfl
  | .array (v :: vs), h, around, ts => by
    cases h with
    | array each =>
      have hv := each v List.mem_cons_self
      have hvs : ∀ w ∈ vs, Fits w := fun w hw => each w (List.mem_cons_of_mem v hw)
      rw [tokens, List.cons_append, List.append_assoc, List.foldl_cons]
      refine (step_firstItem hv (itemTokens vs ++ ts) around).trans ?_
      rw [foldl_tokens hv]
      exact foldl_itemTokens hvs [draft v] around ts
  | .object [], _, around, ts => rfl
  | .object ((k, v) :: ms), h, around, ts => by
    cases h with
    | object each =>
      have hv := each (k, v) List.mem_cons_self
      have hms : ∀ m ∈ ms, Fits m.2 := fun m hm => each m (List.mem_cons_of_mem (k, v) hm)
      rw [tokens, List.cons_append, List.cons_append, List.cons_append, List.append_assoc,
        List.foldl_cons, List.foldl_cons, List.foldl_cons]
      refine (foldl_tokens hv (.member [] (some k) :: around) (memberTokens ms ++ ts)).trans ?_
      exact foldl_memberTokens hms [(some k, draft v)] around ts

/-- The same for the items after the first one. -/
theorem foldl_itemTokens : ∀ {vs : List Json}, (∀ v ∈ vs, Fits v) → ∀ (before : List Draft)
    (around : List Context) (ts : List Token),
    (itemTokens vs ++ ts).foldl step (.afterItem before around)
      = ts.foldl step (deliver (.array (before.reverse ++ draftItems vs)) around)
  | [], _, before, around, ts => by
    rw [draftItems, List.append_nil]
    rfl
  | v :: vs, h, before, around, ts => by
    have hv := h v List.mem_cons_self
    have hvs : ∀ w ∈ vs, Fits w := fun w hw => h w (List.mem_cons_of_mem v hw)
    rw [itemTokens, List.cons_append, List.append_assoc, List.foldl_cons]
    refine (foldl_tokens hv (.item before :: around) (itemTokens vs ++ ts)).trans ?_
    refine (foldl_itemTokens hvs (draft v :: before) around ts).trans ?_
    rw [List.reverse_cons, List.append_assoc, draftItems, List.singleton_append]

/-- The same for the members after the first one. -/
theorem foldl_memberTokens : ∀ {ms : List (String × Json)}, (∀ m ∈ ms, Fits m.2) →
    ∀ (before : List (Option String × Draft)) (around : List Context) (ts : List Token),
    (memberTokens ms ++ ts).foldl step (.afterMember before around)
      = ts.foldl step (deliver (.object (before.reverse ++ draftMembers ms)) around)
  | [], _, before, around, ts => by
    rw [draftMembers, List.append_nil]
    rfl
  | (k, v) :: ms, h, before, around, ts => by
    have hv := h (k, v) List.mem_cons_self
    have hms : ∀ m ∈ ms, Fits m.2 := fun m hm => h m (List.mem_cons_of_mem (k, v) hm)
    rw [memberTokens, List.cons_append, List.cons_append, List.cons_append, List.append_assoc,
      List.foldl_cons, List.foldl_cons, List.foldl_cons]
    refine (foldl_tokens hv (.member before (some k) :: around) (memberTokens ms ++ ts)).trans ?_
    refine (foldl_memberTokens hms ((some k, draft v) :: before) around ts).trans ?_
    rw [List.reverse_cons, List.append_assoc, draftMembers, List.singleton_append]

end

/-- A text with the tokens of a value says what the value says. -/
theorem read_of_lex {v : Json} (h : Fits v) {text : String} (htext : lex text.toList = tokens v) :
    read text = .complete (draft v) := by
  have hfold := foldl_tokens h [] []
  rwa [List.append_nil, ← htext] at hfold

/-- **A written value is read back.** -/
theorem read_pretty {v : Json} (h : Fits v) : read v.pretty = .complete (draft v) :=
  read_of_lex h (lex_pretty v)

/-- **It is read back from one line too.** -/
theorem read_compact {v : Json} (h : Fits v) : read v.compact = .complete (draft v) :=
  read_of_lex h (lex_compact v)

/-- What is decoded from the text of a value is decoded from the value. -/
theorem decodeText_pretty {α : Type} (decode : Draft → Except Fault α) {v : Json} (h : Fits v) :
    decodeText decode v.pretty = decode (draft v) := by
  rw [decodeText, read_pretty h]
  rfl

theorem decodeText_compact {α : Type} (decode : Draft → Except Fault α) {v : Json} (h : Fits v) :
    decodeText decode v.compact = decode (draft v) := by
  rw [decodeText, read_compact h]
  rfl

theorem ofText_compact {v : Json} (h : Fits v) : ofText v.compact = draft v := by
  rw [ofText, read_compact h]
  rfl

end Draft
end Json
end MultiSigner
