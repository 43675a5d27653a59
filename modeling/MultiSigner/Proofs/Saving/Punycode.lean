/-
# Punycode has one spelling

What is decoded from Punycode in small letters is encoded as just that (`Punycode.encode_decode?`),
so a text has one spelling only, and decoding makes no text longer.

Decoding inserts characters one after the other, by increasing code and, for one code, from left to
right.  Encoding walks the finished text once for every code and counts the characters that it passes.
Both are in the same place at any time (`Tracks`): where a character is inserted, the walk has counted
just what the number says that was read (`walk_to`), and the walks for smaller codes do not see the
character.  The induction is on the numbers that are read.
-/
import Mathlib.Data.List.Basic
import Mathlib.Data.List.InsertIdx
import MultiSigner.Proofs.Saving.Labels

namespace MultiSigner.Idna.Punycode

/-! ## 1. Numbers -/

theorem digit_of_digitValue? {c : Char} {d : Nat} (h : digitValue? c = some d)
    (hc : IsSmall c) : digit d = c ∧ d < 36 := by
  have hall : ∀ n < 128, (Char.ofNat n).isUpper = false → ∀ d ∈ digitValue? (Char.ofNat n),
      digit d = Char.ofNat n ∧ d < 36 := by decide +kernel
  have hchar := hall c.toNat hc.1
  rw [Char.ofNat_toNat] at hchar
  exact hchar hc.2 d h

theorem exists_encodeNumber {bias : Nat} {cs after : List Char} {k weight i j : Nat}
    (h : decodeNumber bias cs k weight i = some (j, after)) (hcs : ∀ c ∈ cs, IsSmall c) :
    ∃ q, cs = encodeNumber bias k q ++ after ∧ j = i + q * weight := by
  induction cs generalizing k weight i with
  | nil => cases h
  | cons c cs ih =>
    simp only [decodeNumber, Option.bind_eq_bind, Option.bind_eq_some_iff, Option.pure_def] at h
    obtain ⟨d, hd, h⟩ := h
    obtain ⟨hdigit, hd36⟩ := digit_of_digitValue? hd (hcs c List.mem_cons_self)
    have hthreshold := threshold_le k bias
    split at h
    · cases h
    · split at h
      · rename_i hlast
        cases h
        refine ⟨d, ?_, rfl⟩
        rw [encodeNumber, if_pos hlast, hdigit]
        rfl
      · rename_i hmore
        split at h
        · cases h
        · obtain ⟨q, hcs', rfl⟩ := ih h fun c' hc' => hcs c' (List.mem_cons_of_mem c hc')
          have hq : ¬ d + q * (36 - threshold k bias) < threshold k bias := by omega
          have hplace : d + q * (36 - threshold k bias) - threshold k bias
              = (d - threshold k bias) + q * (36 - threshold k bias) := by omega
          have hmod : (d + q * (36 - threshold k bias) - threshold k bias)
              % (36 - threshold k bias) = d - threshold k bias := by
            rw [hplace, Nat.add_mul_mod_self_right, Nat.mod_eq_of_lt (by omega)]
          have hdiv : (d + q * (36 - threshold k bias) - threshold k bias)
              / (36 - threshold k bias) = q := by
            rw [hplace, Nat.add_mul_div_right _ _ (by omega), Nat.div_eq_of_lt (by omega),
              Nat.zero_add]
          refine ⟨d + q * (36 - threshold k bias), ?_, ?_⟩
          · rw [encodeNumber, if_neg hq, hmod, hdiv, Nat.add_sub_of_le (by omega), hdigit, hcs']
            rfl
          · rw [Nat.add_mul, Nat.mul_assoc q, Nat.mul_comm weight, Nat.add_assoc]

/-- **A number that is read was written so.** -/
theorem encodeNumber_decodeNumber {bias i j : Nat} {cs after : List Char}
    (h : decodeNumber bias cs 36 1 i = some (j, after)) (hcs : ∀ c ∈ cs, IsSmall c) :
    ∃ q, cs = encodeNumber bias 36 q ++ after ∧ j = i + q := by
  obtain ⟨q, hq, rfl⟩ := exists_encodeNumber h hcs
  exact ⟨q, hq, by rw [Nat.mul_one]⟩

/-! ## 2. Walks through a text -/

/-- Walks through a text for one code, and on to the next code. -/
def Encoder.turn (text : List Char) (basic code : Nat) (e : Encoder) : Encoder :=
  let e := text.foldl (pass basic code) e
  { e with delta := e.delta + 1 }

/-- Walks for a number of codes, from the first one on. -/
def Encoder.turns (text : List Char) (basic first : Nat) : Nat → Encoder → Encoder
  | 0, e => e
  | n + 1, e => (turns text basic first n e).turn text basic (first + n)

section Walks

variable {text : List Char} {basic code : Nat} {e : Encoder}

/-- Characters with smaller codes are counted, and those with greater ones are not seen. -/
theorem foldl_pass_unseen {cs : List Char} (h : ∀ c ∈ cs, c.toNat ≠ code) :
    cs.foldl (Encoder.pass basic code) e
      = { e with delta := e.delta + cs.countP fun c => c.toNat < code } := by
  induction cs generalizing e with
  | nil => rfl
  | cons c cs ih =>
    have hcs := fun d hd => h d (List.mem_cons_of_mem c hd)
    rw [List.foldl_cons, Encoder.pass, if_neg (h c List.mem_cons_self)]
    by_cases hc : c.toNat < code
    · rw [if_pos hc, ih hcs, List.countP_cons_of_pos (by simpa using hc)]
      simp only [Nat.add_assoc, Nat.add_comm 1]
    · rw [if_neg hc, ih hcs, List.countP_cons_of_neg (by simpa using hc)]

theorem foldl_pass_below {cs : List Char} (h : ∀ c ∈ cs, c.toNat < code) :
    cs.foldl (Encoder.pass basic code) e = { e with delta := e.delta + cs.length } := by
  rw [foldl_pass_unseen fun c hc => Nat.ne_of_lt (h c hc),
    List.countP_eq_length.2 fun c hc => decide_eq_true (h c hc)]

/-- Walks for codes that no character has count the characters before them, and their own ends. -/
theorem turns_unseen {first n : Nat} (h : ∀ c ∈ text, c.toNat < first ∨ first + n ≤ c.toNat) :
    Encoder.turns text basic first n e
      = { e with delta := e.delta + n * ((text.countP fun c => c.toNat < first) + 1) } := by
  induction n with
  | zero => rw [Encoder.turns, Nat.zero_mul, Nat.add_zero]
  | succ n ih =>
    have hcount : (text.countP fun c => c.toNat < first + n)
        = text.countP fun c => c.toNat < first := by
      refine List.countP_congr fun c hc => ?_
      have := h c hc
      simp only [decide_eq_true_eq]
      omega
    rw [Encoder.turns, ih fun c hc => by have := h c hc; omega, Encoder.turn,
      foldl_pass_unseen fun c hc => by have := h c hc; omega, hcount]
    simp only [Nat.succ_mul, Nat.add_assoc]

theorem turns_below {first n : Nat} (h : ∀ c ∈ text, c.toNat < first) :
    Encoder.turns text basic first n e = { e with delta := e.delta + n * (text.length + 1) } := by
  rw [turns_unseen fun c hc => .inl (h c hc),
    List.countP_eq_length.2 fun c hc => decide_eq_true (h c hc)]

theorem turns_add (first n k : Nat) : Encoder.turns text basic first (n + k) e
    = Encoder.turns text basic (first + n) k (Encoder.turns text basic first n e) := by
  induction k with
  | zero => rfl
  | succ k ih =>
    rw [← Nat.add_assoc, Encoder.turns, Encoder.turns, ih, Nat.add_assoc]

theorem pass_above {c : Char} (h : code < c.toNat) : Encoder.pass basic code e c = e := by
  rw [Encoder.pass, if_neg (by omega), if_neg (by omega)]

theorem insertIdx_eq {place : Nat} (h : place ≤ text.length) (c : Char) :
    text.insertIdx place c = text.take place ++ c :: text.drop place := by
  induction text generalizing place with
  | nil => rw [Nat.le_zero.1 h]; rfl
  | cons d text ih =>
    cases place with
    | zero => rfl
    | succ place =>
      rw [List.insertIdx_succ_cons, ih (Nat.le_of_succ_le_succ h)]
      rfl

/-- Walks for smaller codes do not see a character that is inserted. -/
theorem turns_insertIdx {place first n : Nat} {c : Char} (hplace : place ≤ text.length)
    (hc : first + n ≤ c.toNat) :
    Encoder.turns (text.insertIdx place c) basic first n e
      = Encoder.turns text basic first n e := by
  induction n with
  | zero => rfl
  | succ n ih =>
    rw [Encoder.turns, ih (by omega), Encoder.turns, Encoder.turn, Encoder.turn,
      insertIdx_eq hplace, List.foldl_append, List.foldl_cons, pass_above (by omega),
      ← List.foldl_append, List.take_append_drop]

end Walks

/-! ## 3. Reading and writing keep pace -/

/-- What was written before the first number. -/
def Encoder.start (basic : Nat) : Encoder :=
  ⟨[], 0, 72, basic⟩

/-- Reading has come to a place in a text, and for the text as it is then, writing has come to the
same place and has written the digits that were read. -/
structure Tracks (basic code bias i : Nat) (text digits : List Char) : Prop where
  large : 128 ≤ code
  place : i ≤ text.length
  grown : basic ≤ text.length
  fresh : i = 0 ↔ text.length = basic
  upTo : ∀ c ∈ text, c.toNat ≤ code
  below : ∀ c ∈ text.drop i, c.toNat < code
  walk : (text.take i).foldl (Encoder.pass basic code)
      (Encoder.turns text basic 128 (code - 128) (.start basic))
    = ⟨digits, 0, bias, text.length⟩

section Tracks

variable {basic code bias i : Nat} {text digits : List Char}

/-- **From one place to a later one**, all characters and all ends of walks are counted. -/
theorem walk_to (h : Tracks basic code bias i text digits) {code' place : Nat}
    (hplace : place ≤ text.length) (hlater : code < code' ∨ code = code' ∧ i ≤ place) :
    (text.take place).foldl (Encoder.pass basic code')
        (Encoder.turns text basic 128 (code' - 128) (.start basic))
      = ⟨digits, (code' - code) * (text.length + 1) + place - i, bias, text.length⟩ := by
  rcases hlater with hcode | ⟨rfl, hi⟩
  · -- the walk for `code` ends, and those in between see no character of their own code
    have hi := h.place
    have hrest : Encoder.turns text basic 128 (code - 128 + 1) (.start basic)
        = ⟨digits, text.length - i + 1, bias, text.length⟩ := by
      have hlarge := h.large
      rw [Encoder.turns, Encoder.turn, Nat.add_sub_of_le hlarge]
      rw [← List.take_append_drop i text, List.foldl_append, List.take_append_drop, h.walk,
        foldl_pass_below h.below, List.length_drop, Nat.zero_add]
    have hsplit : code' - 128 = (code - 128 + 1) + (code' - code - 1) := by
      have hlarge := h.large
      omega
    have hstart : 128 + (code - 128 + 1) = code + 1 := by
      have hlarge := h.large
      omega
    rw [hsplit, turns_add, hrest, hstart,
      turns_below fun c hc => Nat.lt_succ_of_le (h.upTo c hc),
      foldl_pass_below fun c hc => Nat.lt_of_le_of_lt (h.upTo c (List.mem_of_mem_take hc)) hcode,
      List.length_take_of_le hplace]
    have hcount : text.length - i + 1 + (code' - code - 1) * (text.length + 1) + place
        = (code' - code) * (text.length + 1) + place - i := by
      obtain ⟨d, hd⟩ : ∃ d, code' - code = d + 1 := ⟨code' - code - 1, by omega⟩
      rw [hd, Nat.add_sub_cancel, Nat.succ_mul]
      omega
    simp only [hcount]
  · obtain ⟨d, rfl⟩ := Nat.exists_eq_add_of_le hi
    rw [List.take_add, List.foldl_append, h.walk,
      foldl_pass_below fun c hc => h.below c (List.mem_of_mem_take hc), List.length_take_of_le]
    · simp
    · rw [List.length_drop]
      omega

/-- **One number** is read, a character is inserted, and the number is what writing writes for this
character. -/
theorem Tracks.insert (h : Tracks basic code bias i text digits) {q code' place : Nat}
    (hvalid : code'.isValidChar)
    (hcode : code' = code + (i + q) / (text.length + 1))
    (hplace : place = (i + q) % (text.length + 1)) :
    Tracks basic code' (adapt q (text.length + 1) (i = 0)) (place + 1)
      (text.insertIdx place (Char.ofNat code')) (digits ++ encodeNumber bias 36 q) := by
  have hle : place ≤ text.length := by
    rw [hplace]
    exact Nat.le_of_lt_succ (Nat.mod_lt _ (Nat.succ_pos _))
  have hchar : (Char.ofNat code').toNat = code' := toNat_ofNat hvalid
  have hdiv := Nat.div_add_mod (i + q) (text.length + 1)
  rw [← hplace] at hdiv
  have hlater : code < code' ∨ code = code' ∧ i ≤ place := by
    rcases Nat.eq_zero_or_pos ((i + q) / (text.length + 1)) with hzero | hpos
    · rw [hzero] at hcode hdiv
      omega
    · omega
  have hcount : (code' - code) * (text.length + 1) + place - i = q := by
    rw [hcode, Nat.add_sub_cancel_left, Nat.mul_comm, hdiv, Nat.add_sub_cancel_left]
  have hlength : (text.insertIdx place (Char.ofNat code')).length = text.length + 1 :=
    List.length_insertIdx_of_le_length hle _
  have hfresh : decide (i = 0) = decide (text.length = basic) := decide_eq_decide.2 h.fresh
  have hlarge := h.large
  have hgrown := h.grown
  have hsplit := insertIdx_eq hle (Char.ofNat code')
  have htake : (text.take place).length = place := List.length_take_of_le hle
  refine ⟨by omega, by omega, by omega, by omega, fun c hc => ?_, fun c hc => ?_, ?_⟩
  · rcases (List.mem_insertIdx hle).1 hc with rfl | hc
    · exact Nat.le_of_eq hchar
    · exact Nat.le_trans (h.upTo c hc) (by omega)
  · rw [hsplit, List.drop_append, htake, List.drop_of_length_le (by omega)] at hc
    simp only [Nat.add_sub_cancel_left, List.drop_succ_cons, List.drop_zero, List.nil_append] at hc
    rcases hlater with hcode | ⟨hcode, hi⟩
    · exact Nat.lt_of_le_of_lt (h.upTo c (List.mem_of_mem_drop hc)) hcode
    · rw [← hcode]
      refine h.below c ?_
      rw [← Nat.add_sub_of_le hi, ← List.drop_drop] at hc
      exact List.mem_of_mem_drop hc
  · have hwalk : (text.insertIdx place (Char.ofNat code')).take (place + 1)
        = text.take place ++ [Char.ofNat code'] := by
      rw [hsplit, List.take_append, htake, List.take_of_length_le (by omega)]
      simp
    rw [hwalk, List.foldl_append, turns_insertIdx hle (by omega), walk_to h hle hlater, hcount,
      List.foldl_cons, List.foldl_nil, Encoder.pass, if_neg (by omega), if_pos hchar, hlength,
      hfresh]

/-- **All numbers**, one after the other. -/
theorem Tracks.insertAll {cs result : List Char} (h : Tracks basic code bias i text digits)
    (hcs : ∀ c ∈ cs, IsSmall c) (hread : insertAll code bias i text cs = some result) :
    ∃ code bias i, Tracks basic code bias i result (digits ++ cs) := by
  fun_induction Punycode.insertAll code bias i text cs generalizing digits with
  | case1 code bias i text =>
    cases hread
    rw [List.append_nil]
    exact ⟨code, bias, i, h⟩
  | case2 => cases hread
  | case3 => cases hread
  | case4 code bias i text c rest j after hnumber count code' _ hvalid =>
    rename_i ih
    obtain ⟨q, hdigits, rfl⟩ := encodeNumber_decodeNumber hnumber hcs
    rw [Nat.add_sub_cancel_left] at hread ih
    have hafter : ∀ d ∈ after, IsSmall d := fun d hd => hcs d (by
      rw [hdigits]
      exact List.mem_append_right _ hd)
    have hnext := h.insert (q := q) hvalid rfl rfl
    obtain ⟨code, bias, i, hresult⟩ := ih hnext hafter hread
    rw [List.append_assoc, ← hdigits] at hresult
    exact ⟨code, bias, i, hresult⟩
  | case5 => cases hread

end Tracks

/-! ## 4. Writing visits only the codes of the text -/

section Run

variable {text : List Char} {basic code : Nat} {e : Encoder}

theorem handled_foldl_pass (cs : List Char) : (cs.foldl (Encoder.pass basic code) e).handled
    = e.handled + cs.countP fun c => c.toNat = code := by
  induction cs generalizing e with
  | nil => rfl
  | cons c cs ih =>
    rw [List.foldl_cons, ih, Encoder.pass]
    by_cases hc : c.toNat = code
    · rw [if_neg (by omega), if_pos hc, List.countP_cons_of_pos (by simpa using hc)]
      simp only [Nat.add_assoc, Nat.add_comm 1]
    · rw [List.countP_cons_of_neg (by simpa using hc), if_neg hc]
      split <;> rfl

/-- A number of characters that one more code adds to. -/
theorem countP_succ {start : Nat} (h : ∀ c ∈ text, c.toNat < start ∨ code ≤ c.toNat)
    (hstart : start ≤ code) : (text.countP fun c => c.toNat < code + 1)
      = (text.countP fun c => c.toNat < start) + text.countP fun c => c.toNat = code := by
  induction text with
  | nil => rfl
  | cons c text ih =>
    have hc := h c List.mem_cons_self
    simp only [List.countP_cons, ih fun d hd => h d (List.mem_cons_of_mem c hd), decide_eq_true_eq]
    split_ifs <;> omega

/-- **Codes that are left out are made up for**: visiting the codes of the text writes what visiting
all codes does. -/
theorem output_run {codes : List Nat} {start n : Nat} (hsorted : codes.Pairwise (· < ·))
    (hfirst : ∀ m ∈ codes, start ≤ m) (hlast : ∀ m ∈ codes, m < start + n)
    (hcodes : ∀ c ∈ text, start ≤ c.toNat → c.toNat ∈ codes)
    (hhandled : e.handled = text.countP fun c => c.toNat < start) :
    (Encoder.run text basic codes start e).output
      = (Encoder.turns text basic start n e).output := by
  induction codes generalizing start n e with
  | nil =>
    have hbelow : ∀ c ∈ text, c.toNat < start := fun c hc => by
      by_contra hlarge
      cases hcodes c hc (Nat.not_lt.1 hlarge)
    rw [turns_below hbelow, Encoder.run]
  | cons code codes ih =>
    obtain ⟨hless, hsorted⟩ := List.pairwise_cons.1 hsorted
    have hcode := hfirst code List.mem_cons_self
    have hbound := hlast code List.mem_cons_self
    have hgap : ∀ c ∈ text, c.toNat < start ∨ code ≤ c.toNat := by
      intro c hc
      by_cases hlarge : start ≤ c.toNat
      · rcases List.mem_cons.1 (hcodes c hc hlarge) with heq | hmem
        · exact .inr (Nat.le_of_eq heq.symm)
        · exact .inr (Nat.le_of_lt (hless _ hmem))
      · exact .inl (Nat.lt_of_not_le hlarge)
    have hn : n = (code - start) + 1 + (start + n - (code + 1)) := by omega
    have hskip : Encoder.turns text basic start (code - start) e
        = { e with delta := e.delta + (code - start) * (e.handled + 1) } := by
      rw [turns_unseen fun c hc => by have := hgap c hc; omega, hhandled]
    have hturn : Encoder.turns text basic start (code - start + 1) e
        = Encoder.turn text basic code
          { e with delta := e.delta + (code - start) * (e.handled + 1) } := by
      rw [Encoder.turns, hskip, Nat.add_sub_of_le hcode]
    have hnext : start + (code - start + 1) = code + 1 := by omega
    rw [hn, turns_add, hturn, hnext]
    refine ih hsorted (fun m hm => hless m hm) (fun m hm => ?_) (fun c hc hlarge => ?_) ?_
    · have := hlast m (List.mem_cons_of_mem code hm)
      omega
    · exact (List.mem_cons.1 (hcodes c hc (by omega))).resolve_left (by omega)
    · rw [countP_succ hgap hcode, ← hhandled]
      exact handled_foldl_pass text

end Run

/-! ## 5. Texts -/

/-- Sorted numbers, each of them once, increase strictly. -/
theorem pairwise_eraseDups {codes : List Nat} (h : codes.Pairwise (· ≤ ·)) :
    codes.eraseDups.Pairwise (· < ·) := by
  induction hlength : codes.length using Nat.strongRecOn generalizing codes with
  | ind n ih =>
    cases codes with
    | nil => exact List.Pairwise.nil
    | cons code codes =>
      obtain ⟨hle, hcodes⟩ := List.pairwise_cons.1 h
      have hshort : (codes.filter fun m => !m == code).length < n := by
        rw [← hlength, List.length_cons]
        exact Nat.lt_succ_of_le (List.length_filter_le _ _)
      rw [List.eraseDups_cons, List.pairwise_cons]
      refine ⟨fun m hm => ?_, ih _ hshort (hcodes.filter _) rfl⟩
      obtain ⟨hm, hne⟩ := List.mem_filter.1 (List.mem_eraseDups.1 hm)
      exact Nat.lt_of_le_of_ne (hle m hm) fun heq => by simp [heq] at hne

theorem filter_insertAll {code bias i : Nat} {text cs result : List Char} (hcode : 128 ≤ code)
    (h : insertAll code bias i text cs = some result) :
    (result.filter fun c => c.toNat < 128) = text.filter fun c => c.toNat < 128 := by
  fun_induction insertAll code bias i text cs with
  | case1 code bias i text =>
    cases h
    rfl
  | case2 => cases h
  | case3 => cases h
  | case4 code bias i text c rest j after _ count code' _ hvalid ih =>
    have hcode' : 128 ≤ code' := Nat.le_trans hcode (Nat.le_add_right _ _)
    have hplace : j % count ≤ text.length := Nat.le_of_lt_succ (Nat.mod_lt j (Nat.succ_pos _))
    have hlarge : ¬ (Char.ofNat code').toNat < 128 := by
      rw [toNat_ofNat hvalid]
      exact Nat.not_lt.2 hcode'
    rw [ih hcode' h, insertIdx_eq hplace, List.filter_append,
      List.filter_cons_of_neg (by simpa using hlarge), ← List.filter_append, List.take_append_drop]
  | case5 => cases h

/-- A text is what stands before its last hyphen, the hyphen, and what stands after it. -/
theorem splitBasic_eq (cs : List Char) : cs = (splitBasic cs).1
    ++ (if (splitBasic cs).1.isEmpty then [] else ['-']) ++ (splitBasic cs).2 := by
  simp only [splitBasic]
  split
  · rfl
  · rename_i hhead
    have hcs := List.takeWhile_append_dropWhile (p := (· ≠ '-')) (l := cs.reverse)
    cases hrest : cs.reverse.dropWhile (· ≠ '-') with
    | nil =>
      rw [hrest] at hhead
      exact absurd rfl hhead
    | cons c rest =>
      have hc : c = '-' := by
        have hfirst := List.head?_dropWhile_not (· ≠ '-') cs.reverse
        rw [hrest] at hfirst
        simpa using hfirst
      rw [hrest, hc] at hcs
      have hsplit := congrArg List.reverse hcs
      rw [List.reverse_reverse, List.reverse_append, List.reverse_cons] at hsplit
      rw [List.reverse_cons, List.dropLast_concat]
      exact hsplit.symm

/-- **What is decoded is encoded as it was.** -/
theorem encode_decode? {cs text : List Char} (h : decode? cs = some text)
    (hcs : ∀ c ∈ cs, IsSmall c) : encode text = cs := by
  simp only [decode?] at h
  split at h
  swap
  · cases h
  rename_i hbasic
  have hsmall : ∀ c ∈ (splitBasic cs).1, c.toNat < 128 := fun c hc =>
    of_decide_eq_true (List.all_eq_true.1 hbasic c hc)
  have hfilter : (text.filter fun c => c.toNat < 128) = (splitBasic cs).1 := by
    rw [filter_insertAll (Nat.le_refl 128) h]
    exact List.filter_eq_self.2 fun c hc => decide_eq_true (hsmall c hc)
  have hrest : ∀ c ∈ (splitBasic cs).2, IsSmall c := fun c hc => hcs c (by
    rw [splitBasic_eq cs]
    exact List.mem_append_right _ hc)
  have hstart : Tracks (splitBasic cs).1.length 128 72 0 (splitBasic cs).1 [] :=
    ⟨Nat.le_refl _, Nat.zero_le _, Nat.le_refl _, iff_of_true rfl rfl,
      fun c hc => Nat.le_of_lt (hsmall c hc), hsmall, rfl⟩
  obtain ⟨code, bias, i, hend⟩ := hstart.insertAll hrest h
  -- the last walk ends without another number
  have hturns : (Encoder.turns text (splitBasic cs).1.length 128 (code - 128 + 1)
      (.start (splitBasic cs).1.length)).output = (splitBasic cs).2 := by
    have hwalk := walk_to hend (Nat.le_refl _) (.inr ⟨rfl, hend.place⟩)
    rw [List.take_length] at hwalk
    rw [Encoder.turns, Encoder.turn, Nat.add_sub_of_le hend.large, hwalk]
    rfl
  have hcodes : ∀ m, m ∈ ((text.filter fun c => 128 ≤ c.toNat).map Char.toNat).mergeSort.eraseDups
      ↔ ∃ c ∈ text, 128 ≤ c.toNat ∧ c.toNat = m := by
    intro m
    rw [List.mem_eraseDups, List.mem_mergeSort, List.mem_map]
    simp only [List.mem_filter, decide_eq_true_eq, and_assoc]
  have hsorted : ((text.filter fun c => 128 ≤ c.toNat).map Char.toNat).mergeSort.Pairwise
      (· ≤ ·) :=
    (List.pairwise_mergeSort (fun a b c => by simpa using Nat.le_trans)
      (fun a b => by simpa using Nat.le_total a b) _).imp fun h => by simpa using h
  have hrun := @output_run text (splitBasic cs).1.length (.start (splitBasic cs).1.length) _ 128
    (code - 128 + 1) (pairwise_eraseDups hsorted) (fun m hm => ?_) (fun m hm => ?_)
    (fun c hc hlarge => (hcodes _).2 ⟨c, hc, hlarge, rfl⟩) ?_
  · simp only [encode, hfilter]
    exact (congrArg _ (hrun.trans hturns)).trans (splitBasic_eq cs).symm
  · obtain ⟨c, -, hlarge, rfl⟩ := (hcodes m).1 hm
    exact hlarge
  · obtain ⟨c, hc, -, rfl⟩ := (hcodes m).1 hm
    have := hend.upTo c hc
    omega
  · rw [List.countP_eq_length_filter, hfilter]
    rfl

/-! ## 6. Lengths -/

theorem length_insertAll {code bias i : Nat} {text cs result : List Char}
    (h : insertAll code bias i text cs = some result) :
    result.length ≤ text.length + cs.length := by
  fun_induction insertAll code bias i text cs with
  | case1 code bias i text =>
    cases h
    exact Nat.le_add_right _ _
  | case2 => cases h
  | case3 => cases h
  | case4 code bias i text c rest j after hnumber count code' _ hvalid ih =>
    have hplace : j % count ≤ text.length := Nat.le_of_lt_succ (Nat.mod_lt j (Nat.succ_pos _))
    have hshort := decodeNumber_length hnumber
    have hlength := ih h
    rw [List.length_insertIdx_of_le_length hplace] at hlength
    omega
  | case5 => cases h

theorem length_splitBasic (cs : List Char) :
    (splitBasic cs).1.length + (splitBasic cs).2.length ≤ cs.length := by
  have hlength := congrArg List.length (splitBasic_eq cs)
  rw [List.length_append, List.length_append] at hlength
  omega

/-- Decoding makes no text longer. -/
theorem length_decode? {cs text : List Char} (h : decode? cs = some text) :
    text.length ≤ cs.length := by
  simp only [decode?] at h
  split at h
  · exact Nat.le_trans (length_insertAll h) (length_splitBasic cs)
  · cases h

end MultiSigner.Idna.Punycode
