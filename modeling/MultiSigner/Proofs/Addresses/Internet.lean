/-
# How internet addresses are written and read

The readers of internet addresses are described by grammars: `Ipv4.Spells` and `Ipv6.Spells` say in
which ways an address can be written, without a reader.  `IpAddress.ofString?_eq_v4` and
`IpAddress.ofString?_eq_v6` say that a text is read as an address just if it is one of these ways,
and `Ipv6.spells_text` that the text which is written for an address is among them; so it is read
back.

An address of version 6 lists its groups, and one gap may stand for groups of zero.  The reader of
groups tries an address of version 4 before each group and goes on as long as it can.  What follows
therefore matters: groups stop where neither a colon and a digit follow nor anything that would
change the group before (`Breaks`), and an address stops where no character of addresses follows
(`Ends`).
-/
import Mathlib.Data.List.Induction
import Mathlib.Data.List.TakeWhile
import Mathlib.Data.Option.Basic
import MultiSigner.Net.Socket
import MultiSigner.Proofs.Saving.Text

namespace MultiSigner.Net

/-! ## 1. Readers -/

/-- How a text is split where the characters of one kind end. -/
theorem span_eq_iff {p : Char → Bool} {cs ds rest : List Char} :
    cs.takeWhile p = ds ∧ cs.dropWhile p = rest ↔
      cs = ds ++ rest ∧ (∀ c ∈ ds, p c = true) ∧ ∀ c ∈ rest.head?, p c = false := by
  constructor
  · rintro ⟨rfl, rfl⟩
    refine ⟨List.takeWhile_append_dropWhile.symm, fun c hc => List.mem_takeWhile_imp hc, ?_⟩
    intro c hc
    have hend := List.head?_dropWhile_not p cs
    rw [Option.mem_def.1 hc] at hend
    exact hend
  · rintro ⟨rfl, hds, hrest⟩
    exact span_append hds hrest

namespace Reader

variable {α β : Type} {cs rest : List Char}

/-- What is taken one after the other. -/
theorem bind_eq_some {r : Reader α} {f : α → Reader β} {b : β} :
    (r >>= f) cs = some (b, rest) ↔ ∃ a mid, r cs = some (a, mid) ∧ f a mid = some (b, rest) := by
  show (r cs).bind (fun p => f p.1 p.2) = _ ↔ _
  rw [Option.bind_eq_some_iff, Prod.exists]

theorem pure_eq_some {a b : α} : (pure a : Reader α) cs = some (b, rest) ↔ a = b ∧ cs = rest := by
  show some (a, cs) = _ ↔ _
  rw [Option.some_inj, Prod.mk.injEq]

theorem guard_eq_some {c : Prop} [Decidable c] {u : Unit} :
    (guard c : Reader Unit) cs = some (u, rest) ↔ c ∧ cs = rest := by
  by_cases hc : c
  · rw [guard, if_pos hc, pure_eq_some]
    simp [hc]
  · rw [guard, if_neg hc]
    exact iff_of_false nofun fun h => hc h.1

theorem char_eq_some {c : Char} {u : Unit} : char c cs = some (u, rest) ↔ cs = c :: rest := by
  cases cs with
  | nil => simp [char]
  | cons d ds => by_cases h : d = c <;> simp [char, h]

theorem map_eq_some {r : Reader α} {f : α → β} {b : β} :
    (f <$> r) cs = some (b, rest) ↔ ∃ a, r cs = some (a, rest) ∧ f a = b := by
  rw [map_eq_pure_bind, bind_eq_some]
  simp only [pure_eq_some]
  exact ⟨fun ⟨a, _, hr, hf, hmid⟩ => ⟨a, hmid ▸ hr, hf⟩, fun ⟨a, hr, hf⟩ => ⟨a, _, hr, hf, rfl⟩⟩

/-- What is taken in one of two ways, the first of which goes before. -/
theorem orElse_eq_some {r q : Reader α} {p : α × List Char} :
    (r <|> q) cs = some p ↔ r cs = some p ∨ r cs = none ∧ q cs = some p := by
  show (r cs).orElse (fun _ => q cs) = _ ↔ _
  cases r cs with
  | none => simp
  | some a => simp

/-- What is taken of a text that is read as a whole. -/
theorem whole_eq_some {r : Reader α} {s : String} {a : α} :
    r.whole s = some a ↔ r s.toList = some (a, []) := by
  rw [whole]
  split <;> simp_all

theorem digits_eq_some {ds : List Char} : digits cs = some (ds, rest) ↔
    cs = ds ++ rest ∧ Decimal.isDigits ds = true ∧ ∀ c ∈ rest.head?, c.isDigit = false := by
  rw [Decimal.isDigits_iff, and_assoc, and_left_comm, ← span_eq_iff, digits]
  split
  · rename_i hnone
    rw [List.isEmpty_iff] at hnone
    exact iff_of_false nofun fun ⟨hne, htake, _⟩ => hne (htake.symm.trans hnone)
  · rename_i hne
    rw [Option.some_inj, Prod.mk.injEq]
    exact ⟨fun h => ⟨fun hnil => hne (List.isEmpty_iff.2 (h.1.trans hnil)), h⟩, fun h => h.2⟩

/-- What is taken for a number below a bound. -/
theorem below_eq_some {bound n : Nat} : below bound cs = some (n, rest) ↔
    ∃ ds, cs = ds ++ rest ∧ Decimal.ofDigits? ds = some n ∧ n < bound ∧
      ∀ c ∈ rest.head?, c.isDigit = false := by
  simp only [below, bind_eq_some, digits_eq_some, guard_eq_some, pure_eq_some,
    Decimal.ofDigits?_eq_some_iff]
  constructor
  · rintro ⟨ds, _, ⟨rfl, hds, hrest⟩, -, _, ⟨hn, rfl⟩, rfl, rfl⟩
    exact ⟨ds, rfl, ⟨hds, rfl⟩, hn, hrest⟩
  · rintro ⟨ds, rfl, ⟨hds, rfl⟩, hn, hrest⟩
    exact ⟨ds, rest, ⟨rfl, hds, hrest⟩, (), rest, ⟨hn, rfl⟩, rfl, rfl⟩

end Reader

open Reader

/-! ## 2. Version 4 -/

/-- The text is that of a byte: digits without zeros in front. -/
structure IsByte (ds : List Char) (b : UInt8) : Prop where
  digits : Decimal.isDigits ds = true
  short : ds.length = 1 ∨ (ds.length ≤ 3 ∧ ds.head? ≠ some '0')
  value : Nat.ofDigitChars 10 ds 0 = b.toNat

namespace Ipv4

variable {cs rest : List Char} {ip : Ipv4}

theorem readByte_eq_some {b : UInt8} : readByte cs = some (b, rest) ↔
    ∃ ds, cs = ds ++ rest ∧ IsByte ds b ∧ ∀ c ∈ rest.head?, c.isDigit = false := by
  simp only [readByte, bind_eq_some, digits_eq_some, guard_eq_some, pure_eq_some]
  constructor
  · rintro ⟨ds, _, ⟨rfl, hds, hrest⟩, -, _, ⟨hshort, rfl⟩, -, _, ⟨hsmall, rfl⟩, rfl, rfl⟩
    exact ⟨ds, rfl, ⟨hds, hshort, by rw [UInt8.toNat_ofNat']; omega⟩, hrest⟩
  · rintro ⟨ds, rfl, hds, hrest⟩
    have hsmall := b.toNat_lt
    refine ⟨ds, rest, ⟨rfl, hds.digits, hrest⟩, (), rest, ⟨hds.short, rfl⟩, (), rest, ⟨?_, rfl⟩,
      ?_, rfl⟩
    · rw [hds.value]
      exact hsmall
    · rw [hds.value, UInt8.ofNat_toNat]

/-- How an address can be written: four numbers with dots between them. -/
def Spells (ip : Ipv4) (t : List Char) : Prop :=
  ∃ a b c d, IsByte a ip.a ∧ IsByte b ip.b ∧ IsByte c ip.c ∧ IsByte d ip.d ∧
    t = a ++ '.' :: (b ++ '.' :: (c ++ '.' :: d))

/-- An address starts with a digit. -/
theorem Spells.head {t : List Char} (h : ip.Spells t) : ∀ c ∈ t.head?, c.isDigit = true := by
  obtain ⟨a, b, c, d, ha, -, -, -, rfl⟩ := h
  obtain ⟨hne, hdigits⟩ := Decimal.isDigits_iff.1 ha.digits
  obtain ⟨x, a, rfl⟩ := List.exists_cons_of_ne_nil hne
  rintro _ ⟨⟩
  exact hdigits _ List.mem_cons_self

/-- It has no colons. -/
theorem Spells.colon_notMem {t : List Char} (h : ip.Spells t) : ':' ∉ t := by
  obtain ⟨a, b, c, d, ha, hb, hc, hd, rfl⟩ := h
  have hcolon : ∀ {ds : List Char} {x : UInt8}, IsByte ds x → ':' ∉ ds := fun hx hmem =>
    absurd ((Decimal.isDigits_iff.1 hx.digits).2 _ hmem) (by decide)
  simp [hcolon ha, hcolon hb, hcolon hc, hcolon hd]

/-- **What is taken for an address of version 4.** -/
theorem read_eq_some : read cs = some (ip, rest) ↔
    ∃ t, cs = t ++ rest ∧ ip.Spells t ∧ ∀ c ∈ rest.head?, c.isDigit = false := by
  have hdot : ∀ {cs : List Char}, ∀ c ∈ ('.' :: cs).head?, c.isDigit = false := by
    rintro _ c ⟨⟩
    rfl
  simp only [read, bind_eq_some, readByte_eq_some, char_eq_some, pure_eq_some]
  constructor
  · rintro ⟨a, _, ⟨x, rfl, ha, -⟩, -, _, rfl, b, _, ⟨y, rfl, hb, -⟩, -, _, rfl, c, _,
      ⟨z, rfl, hc, -⟩, -, _, rfl, d, _, ⟨w, rfl, hd, hrest⟩, rfl, rfl⟩
    exact ⟨_, by simp, ⟨x, y, z, w, ha, hb, hc, hd, rfl⟩, hrest⟩
  · rintro ⟨_, rfl, ⟨x, y, z, w, ha, hb, hc, hd, rfl⟩, hrest⟩
    exact ⟨ip.a, _, ⟨x, by simp, ha, hdot⟩, (), _, rfl, ip.b, _, ⟨y, rfl, hb, hdot⟩, (), _, rfl,
      ip.c, _, ⟨z, rfl, hc, hdot⟩, (), _, rfl, ip.d, _, ⟨w, rfl, hd, hrest⟩, rfl, rfl⟩

theorem isByte_digits (b : UInt8) : IsByte (Decimal.digits b.toNat) b where
  digits := Decimal.isDigits_digits _
  short := by
    have hlength : (Decimal.digits b.toNat).length ≤ 3 :=
      (Nat.length_toDigits_le_iff (by decide) (by decide)).2 (by have := b.toNat_lt; omega)
    by_cases hb : b.toNat = 0
    · exact .inl (by rw [hb]; rfl)
    · exact .inr ⟨hlength, Json.head?_digits hb⟩
  value := Nat.ofDigitChars_ten_toDigits

theorem spells_text (ip : Ipv4) : ip.Spells ip.text.toList := by
  have htext : ∀ b : UInt8, (toString b).toList = Decimal.digits b.toNat := fun b =>
    String.toList_ofList
  refine ⟨_, _, _, _, isByte_digits _, isByte_digits _, isByte_digits _, isByte_digits _, ?_⟩
  show (toString ip.a ++ "." ++ toString ip.b ++ "." ++ toString ip.c ++ "."
    ++ toString ip.d).toList = _
  simp only [String.toList_append, htext, List.append_assoc]
  rfl

end Ipv4

/-! ## 3. Version 6 -/

/-- The character is a hexadecimal digit. -/
def isHex (c : Char) : Bool :=
  (Hex.digitValue? c).isSome

theorem isHex_of_isDigit {c : Char} (h : c.isDigit = true) : isHex c = true := by
  have hrange : '0' ≤ c ∧ c ≤ '9' := by simpa [Char.isDigit, Char.le_def] using h
  rw [isHex, Hex.digitValue?, if_pos hrange]
  rfl

/-- What is read as a number consists of digits. -/
theorem isHex_of_number? {ds : List Char} : ∀ {n : Nat}, Hex.number? ds = some n →
    ∀ c ∈ ds, isHex c = true := by
  induction ds using List.reverseRecOn with
  | nil => nofun
  | append_singleton ds d ih =>
    intro n h c hc
    rw [Hex.number?, List.foldl_append] at h
    obtain ⟨m, hfront, h⟩ := Option.bind_eq_some_iff.1 h
    obtain ⟨v, hlast, -⟩ := Option.bind_eq_some_iff.1 h
    rcases List.mem_append.1 hc with hc | hc
    · exact ih hfront c hc
    · rw [List.mem_singleton.1 hc, isHex, hlast]
      rfl

/-- The text is that of a group: up to four hexadecimal digits. -/
structure IsGroup (ds : List Char) (g : UInt16) : Prop where
  ne_nil : ds ≠ []
  short : ds.length ≤ 4
  value : (Hex.number? ds).map UInt16.ofNat = some g

theorem IsGroup.hex {ds : List Char} {g : UInt16} (h : IsGroup ds g) :
    ∀ c ∈ ds, isHex c = true := by
  obtain ⟨n, hn, -⟩ := Option.map_eq_some_iff.1 h.value
  exact isHex_of_number? hn

namespace Reader

variable {cs rest : List Char}

theorem group_eq_some {g : UInt16} : group cs = some (g, rest) ↔
    ∃ ds, cs = ds ++ rest ∧ IsGroup ds g ∧ ∀ c ∈ rest.head?, isHex c = false := by
  constructor
  · intro h
    simp only [group] at h
    split at h
    · cases h
    rename_i hds
    rw [not_or, Nat.not_lt] at hds
    obtain ⟨n, hn, hg⟩ := Option.map_eq_some_iff.1 h
    obtain ⟨rfl, rfl⟩ := Prod.mk.inj hg
    obtain ⟨hsplit, -, hend⟩ := span_eq_iff.1 ⟨rfl, rfl⟩
    exact ⟨_, hsplit, ⟨fun h => hds.1 (List.isEmpty_iff.2 h), hds.2, by rw [hn]; rfl⟩, hend⟩
  · rintro ⟨ds, rfl, hds, hend⟩
    obtain ⟨htake, hdrop⟩ : (ds ++ rest).takeWhile (fun c => (Hex.digitValue? c).isSome) = ds ∧
        (ds ++ rest).dropWhile (fun c => (Hex.digitValue? c).isSome) = rest :=
      span_append hds.hex hend
    obtain ⟨n, hn, rfl⟩ := Option.map_eq_some_iff.1 hds.value
    have hlong : ¬ (ds.isEmpty = true ∨ 4 < ds.length) := by
      rw [not_or, Nat.not_lt, List.isEmpty_iff]
      exact ⟨hds.ne_nil, hds.short⟩
    simp only [group, htake, hdrop, if_neg hlong, hn, Option.map_some]

end Reader

theorem digitValue?_digitChar : ∀ n < 16, Hex.digitValue? (Nat.digitChar n) = some n := by decide

/-- The digits of a number are read as the number. -/
theorem number?_toDigits (n : Nat) : Hex.number? (Nat.toDigits 16 n) = some n := by
  induction n using Nat.strongRecOn with
  | ind n ih =>
    by_cases h : n < 16
    · rw [Nat.toDigits_of_lt_base h]
      simp [Hex.number?, digitValue?_digitChar n h]
    · rw [Nat.toDigits_of_base_le (by decide) (Nat.not_lt.1 h)]
      have hfront := ih (n / 16) (by omega)
      rw [Hex.number?] at hfront ⊢
      rw [List.foldl_append, hfront]
      simp only [List.foldl_cons, List.foldl_nil, digitValue?_digitChar (n % 16) (by omega),
        Option.bind_eq_bind, Option.bind_some, Option.pure_def]
      rw [Nat.div_add_mod]

theorem isGroup_groupText (g : UInt16) : IsGroup (Ipv6.groupText g) g where
  ne_nil := Nat.toDigits_ne_nil
  short := (Nat.length_toDigits_le_iff (by decide) (by decide)).2 (by have := g.toNat_lt; omega)
  value := by rw [Ipv6.groupText, number?_toDigits, Option.map_some, UInt16.ofNat_toNat]

/-- Nothing follows that could belong to an address. -/
def Ends (rest : List Char) : Prop :=
  ∀ c ∈ rest.head?, isHex c = false ∧ c ≠ '.' ∧ c ≠ ':'

/-- Groups do not go on: the address ends, or two colons follow. -/
def Breaks (rest : List Char) : Prop :=
  Ends rest ∨ ∃ after, rest = ':' :: ':' :: after

theorem Breaks.head {rest : List Char} (h : Breaks rest) :
    ∀ c ∈ rest.head?, isHex c = false ∧ c ≠ '.' := by
  rcases h with h | ⟨after, rfl⟩
  · exact fun c hc => ⟨(h c hc).1, (h c hc).2.1⟩
  · rintro c ⟨⟩
    decide

theorem not_isDigit_of_not_isHex {rest : List Char} (h : ∀ c ∈ rest.head?, isHex c = false) :
    ∀ c ∈ rest.head?, c.isDigit = false := fun c hc =>
  Bool.eq_false_iff.2 fun hdigit => Bool.eq_false_iff.1 (h c hc) (isHex_of_isDigit hdigit)

/-- Digits that no dot follows do not start an address of version 4. -/
theorem Ipv4.read_eq_none {ds tail : List Char} (hds : ∀ c ∈ ds, isHex c = true)
    (htail : ∀ c ∈ tail.head?, isHex c = false ∧ c ≠ '.') : Ipv4.read (ds ++ tail) = none := by
  refine Option.eq_none_iff_forall_ne_some.2 fun ⟨ip, rest⟩ h => ?_
  obtain ⟨t, hsplit, ⟨a, b, c, d, ha, -, -, -, rfl⟩, -⟩ := Ipv4.read_eq_some.1 h
  have hdigits : ∀ c ∈ a, isHex c = true := fun c hc =>
    isHex_of_isDigit ((Decimal.isDigits_iff.1 ha.digits).2 c hc)
  have htails := (span_append hds fun c hc => (htail c hc).1).2
  rw [hsplit, List.append_assoc, List.cons_append,
    (span_append hdigits (by rintro c ⟨⟩; decide)).2] at htails
  exact (htail '.' (by rw [← htails]; rfl)).2 rfl

theorem Reader.group_eq_none {tail : List Char} (htail : ∀ c ∈ tail.head?, isHex c = false) :
    group tail = none := by
  refine Option.eq_none_iff_forall_ne_some.2 fun ⟨g, rest⟩ h => ?_
  obtain ⟨ds, rfl, hds, -⟩ := group_eq_some.1 h
  cases ds with
  | nil => exact hds.ne_nil rfl
  | cons d ds => exact Bool.eq_false_iff.1 (htail d rfl) (hds.hex d List.mem_cons_self)

namespace Ipv6

/-- What stands before a group, unless it is the first one. -/
def lead (first : Bool) : List Char :=
  if first then [] else [':']

/-- The two groups that an address of version 4 stands for. -/
def pairs (ip : Ipv4) : List UInt16 :=
  [.ofNat (256 * ip.a.toNat + ip.b.toNat), .ofNat (256 * ip.c.toNat + ip.d.toNat)]

/-- How groups can be written; an address of version 4 may stand for the last two. -/
inductive Lists : Bool → List UInt16 → Bool → List Char → Prop
  | nil {first : Bool} : Lists first [] false []
  | ipv4 {first : Bool} {ip : Ipv4} {t : List Char} (spelled : ip.Spells t) :
      Lists first (pairs ip) true (lead first ++ t)
  | cons {first short : Bool} {g : UInt16} {gs : List UInt16} {ds t : List Char}
      (digits : IsGroup ds g) (others : Lists false gs short t) :
      Lists first (g :: gs) short (lead first ++ (ds ++ t))

/-- How an address can be written: all groups, or those around a gap that stands for groups of
zero. -/
inductive Spells (ip : Ipv6) : List Char → Prop
  | full {gs : List UInt16} {short : Bool} {t : List Char} (groups : Lists true gs short t)
      (all : ofList? gs = some ip) : Spells ip t
  | gap {front back : List UInt16} {short : Bool} {t u : List Char}
      (before : Lists true front false t) (after : Lists true back short u)
      (room : front.length + back.length ≤ 7)
      (all : ofList? (front ++ List.replicate (8 - front.length - back.length) 0 ++ back)
        = some ip) : Spells ip (t ++ ':' :: ':' :: u)

variable {first short : Bool} {gs : List UInt16} {cs t rest : List Char} {ip : Ipv6}

theorem separated_eq_some {α : Type} {r : Reader α} {a : α} :
    separated first r cs = some (a, rest) ↔
      ∃ mid, cs = lead first ++ mid ∧ r mid = some (a, rest) := by
  cases first with
  | true =>
    rw [separated, lead]
    exact ⟨fun h => ⟨cs, rfl, h⟩, by rintro ⟨_, rfl, h⟩; exact h⟩
  | false =>
    show (char ':' >>= fun _ => r) cs = _ ↔ _
    simp only [bind_eq_some, char_eq_some]
    exact ⟨fun ⟨_, mid, hcs, h⟩ => ⟨mid, hcs, h⟩, fun ⟨mid, hcs, h⟩ => ⟨(), mid, hcs, h⟩⟩

theorem separated_eq_none {α : Type} {r : Reader α}
    (h : ∀ mid, cs = lead first ++ mid → r mid = none) : separated first r cs = none := by
  refine Option.eq_none_iff_forall_ne_some.2 fun ⟨a, rest⟩ hsome => ?_
  obtain ⟨mid, hcs, hr⟩ := separated_eq_some.1 hsome
  rw [h mid hcs] at hr
  cases hr

/-- Where groups do not go on, none is read. -/
theorem head_of_break (h : Breaks rest) {mid : List Char} (hmid : rest = lead first ++ mid) :
    ∀ c ∈ mid.head?, isHex c = false ∧ c ≠ '.' := by
  cases first with
  | true =>
    rw [hmid] at h
    exact h.head
  | false =>
    rcases h with h | ⟨after, hafter⟩
    · exact absurd rfl (h ':' (by rw [hmid]; rfl)).2.2
    · rw [hafter] at hmid
      cases hmid
      rintro c ⟨⟩
      decide

/-- Further groups start with a colon. -/
theorem Lists.head (h : Lists false gs short t) (hrest : Breaks rest) :
    ∀ c ∈ (t ++ rest).head?, isHex c = false ∧ c ≠ '.' := by
  cases h with
  | nil => exact hrest.head
  | ipv4 _ => rintro c ⟨⟩; decide
  | cons _ _ => rintro c ⟨⟩; decide

/-- What is read where a group comes that no address of version 4 takes the place of. -/
theorem readGroups_cons {room : Nat} {g : UInt16} {mid : List Char}
    (hv4 : separated first Ipv4.read cs = none)
    (hgroup : separated first group cs = some (g, mid)) :
    readGroups first (room + 1) cs =
      ((g :: (readGroups false room mid).1.1, (readGroups false room mid).1.2),
        (readGroups false room mid).2) := by
  rw [readGroups]
  simp only [hv4, hgroup, ite_self]

/-- **Groups are read as they can be written.** -/
theorem readGroups_of_lists (h : Lists first gs short t) :
    ∀ {room : Nat}, gs.length ≤ room → Breaks rest →
      readGroups first room (t ++ rest) = ((gs, short), rest) := by
  -- an address of version 4 is tried before each group, and must not be found where a group is
  induction h with
  | @nil first =>
    intro room _ hrest
    cases room with
    | zero => rfl
    | succ room =>
      have hv4 : separated first Ipv4.read rest = none := separated_eq_none fun mid hmid =>
        @Ipv4.read_eq_none [] _ nofun (head_of_break hrest hmid)
      have hgroup : separated first group rest = none := separated_eq_none fun mid hmid =>
        group_eq_none fun c hc => (head_of_break hrest hmid c hc).1
      rw [List.nil_append, readGroups]
      simp only [hv4, hgroup, ite_self]
  | @ipv4 first ip t ht =>
    intro room hroom hrest
    have hv4 : separated first Ipv4.read (lead first ++ t ++ rest) = some (ip, rest) :=
      separated_eq_some.2 ⟨t ++ rest, by rw [List.append_assoc], Ipv4.read_eq_some.2
        ⟨t, rfl, ht, not_isDigit_of_not_isHex fun c hc => (hrest.head c hc).1⟩⟩
    obtain ⟨room, rfl⟩ : ∃ n, room = n + 2 := ⟨room - 2, by simp [pairs] at hroom; omega⟩
    rw [readGroups]
    simp only [hv4, Nat.zero_lt_succ, if_true]
    rfl
  | @cons first short g gs ds t hds ht ih =>
    intro room hroom hrest
    obtain ⟨room, rfl⟩ : ∃ n, room = n + 1 := ⟨room - 1, by simp at hroom; omega⟩
    have hmid : lead first ++ (ds ++ t) ++ rest = lead first ++ (ds ++ (t ++ rest)) := by
      simp only [List.append_assoc]
    have hv4 : separated first Ipv4.read (lead first ++ (ds ++ t) ++ rest) = none := by
      refine separated_eq_none fun mid h => ?_
      rw [hmid, List.append_cancel_left_eq] at h
      rw [← h]
      exact Ipv4.read_eq_none hds.hex (ht.head hrest)
    have hgroup : separated first group (lead first ++ (ds ++ t) ++ rest) = some (g, t ++ rest) :=
      separated_eq_some.2 ⟨_, hmid, group_eq_some.2
        ⟨ds, rfl, hds, fun c hc => (ht.head hrest c hc).1⟩⟩
    rw [readGroups_cons hv4 hgroup, ih (Nat.le_of_succ_le_succ hroom) hrest]

/-- **Groups that are read are written so.** -/
theorem lists_of_readGroups : ∀ {first : Bool} {room : Nat} {cs rest : List Char}
    {gs : List UInt16} {short : Bool}, readGroups first room cs = ((gs, short), rest) →
      ∃ t, cs = t ++ rest ∧ Lists first gs short t ∧ gs.length ≤ room := by
  -- the reader recurs on the room that is left, not on the groups
  intro first room
  induction room generalizing first with
  | zero =>
    intro cs rest gs short h
    cases h
    exact ⟨[], rfl, .nil, Nat.le_refl _⟩
  | succ room ih =>
    intro cs rest gs short h
    rw [readGroups] at h
    cases hv4 : (if 0 < room then separated first Ipv4.read cs else none) with
    | some p =>
      obtain ⟨hroom, hv4'⟩ : 0 < room ∧ separated first Ipv4.read cs = some p := by
        simpa using hv4
      obtain ⟨mid, rfl, hread⟩ := separated_eq_some.1 hv4'
      obtain ⟨t, rfl, ht, -⟩ := Ipv4.read_eq_some.1 hread
      rw [hv4] at h
      cases h
      exact ⟨lead first ++ t, by rw [List.append_assoc], .ipv4 ht, Nat.succ_le_succ hroom⟩
    | none =>
      rw [hv4] at h
      cases hgroup : separated first group cs with
      | none =>
        rw [hgroup] at h
        cases h
        exact ⟨[], rfl, .nil, Nat.zero_le _⟩
      | some p =>
        obtain ⟨text, rfl, hread⟩ := separated_eq_some.1 hgroup
        obtain ⟨ds, rfl, hds, -⟩ := group_eq_some.1 hread
        rw [hgroup] at h
        cases h
        obtain ⟨t, hsplit, ht, hlength⟩ := @ih false p.2 _ _ _ rfl
        exact ⟨lead first ++ (ds ++ t), by rw [List.append_assoc, List.append_assoc, ← hsplit],
          .cons hds ht, Nat.succ_le_succ hlength⟩

theorem ofList?_eq_some : ofList? gs = some ip ↔ gs = ip.groups.toList := by
  rw [ofList?]
  split
  · rename_i hlength
    rw [Option.some_inj]
    constructor
    · rintro rfl
      rfl
    · rintro rfl
      rfl
  · rename_i hlength
    refine iff_of_false nofun ?_
    rintro rfl
    exact hlength (by simp)

theorem length_of_ofList? (h : ofList? gs = some ip) : gs.length = 8 := by
  rw [ofList?_eq_some.1 h]
  simp

/-- **Addresses are read as they can be written.** -/
theorem read_of_spells (h : ip.Spells t) (hrest : Ends rest) :
    read (t ++ rest) = some (ip, rest) := by
  cases h with
  | full hgroups hall =>
    have hlength := length_of_ofList? hall
    rw [read, readGroups_of_lists hgroups hlength.le (.inl hrest)]
    simp only [hlength, if_true, hall, Option.map_some]
  | @gap front back short t u hbefore hafter hroom hall =>
    have hfront : front.length ≠ 8 := by omega
    have hread : readGroups true 8 (t ++ ':' :: ':' :: u ++ rest)
        = ((front, false), ':' :: ':' :: (u ++ rest)) := by
      rw [List.append_assoc]
      exact readGroups_of_lists hbefore (by omega) (.inr ⟨_, rfl⟩)
    have hback : readGroups true (7 - front.length) (u ++ rest) = ((back, short), rest) :=
      readGroups_of_lists hafter (by omega) (.inl hrest)
    rw [read, hread]
    simp only [if_neg hfront, if_neg Bool.false_ne_true, hback, hall, Option.map_some]

/-- **An address that is read is written so.** -/
theorem spells_of_read (h : read cs = some (ip, rest)) : ∃ t, cs = t ++ rest ∧ ip.Spells t := by
  rw [read] at h
  obtain ⟨⟨⟨front, short⟩, mid⟩, hfront⟩ : ∃ p, readGroups true 8 cs = p := ⟨_, rfl⟩
  obtain ⟨t, rfl, hlists, hfrontRoom⟩ := lists_of_readGroups hfront
  simp only [hfront] at h
  split at h
  · obtain ⟨ip', hip, hpair⟩ := Option.map_eq_some_iff.1 h
    cases hpair
    exact ⟨t, rfl, .full hlists hip⟩
  rename_i hnotAll
  split at h
  · cases h
  rename_i hshort
  split at h
  · rename_i after
    obtain ⟨⟨⟨back, short'⟩, rest'⟩, hback⟩ : ∃ p, readGroups true (7 - front.length) after = p :=
      ⟨_, rfl⟩
    obtain ⟨u, rfl, hlists', hlength⟩ := lists_of_readGroups hback
    simp only [hback] at h
    obtain ⟨ip', hip, hpair⟩ := Option.map_eq_some_iff.1 h
    cases hpair
    rw [Bool.not_eq_true] at hshort
    subst hshort
    exact ⟨t ++ ':' :: ':' :: u, by simp, .gap hlists hlists' (by omega) hip⟩
  · cases h

/-! ## 4. How addresses are written -/

theorem lists_flatMap : ∀ gs : List UInt16,
    Lists false gs false (gs.flatMap fun g => ':' :: groupText g)
  | [] => .nil
  | g :: gs => .cons (isGroup_groupText g) (lists_flatMap gs)

theorem intercalate_cons {α : Type} (sep d : List α) : ∀ ds : List (List α),
    sep.intercalate (d :: ds) = d ++ ds.flatMap (sep ++ ·)
  | [] => by simp
  | e :: ds => by
    rw [List.intercalate_cons_cons, intercalate_cons sep e ds, List.flatMap_cons]
    simp only [List.append_assoc]

theorem lists_groupsText : ∀ gs : List UInt16, Lists true gs false (groupsText gs)
  | [] => .nil
  | g :: gs => by
    have htext : groupsText (g :: gs) = lead true ++ (groupText g
        ++ gs.flatMap fun g => ':' :: groupText g) := by
      rw [groupsText, List.map_cons, intercalate_cons, List.flatMap_map]
      rfl
    rw [htext]
    exact .cons (isGroup_groupText g) (lists_flatMap gs)

/-- The groups that are left out are zero. -/
theorem longestZeros_le (gs : List UInt16) :
    (longestZeros gs).2 ≤ zeroRun (gs.drop (longestZeros gs).1) := by
  refine List.foldlRecOn (motive := fun best : Nat × Nat => best.2 ≤ zeroRun (gs.drop best.1))
    (List.range gs.length) _ (Nat.zero_le _) fun best hbest i _ => ?_
  dsimp only
  split
  · exact Nat.le_refl _
  · exact hbest

theorem take_of_zeroRun {gs : List UInt16} {count : Nat} (h : count ≤ zeroRun gs) :
    gs.take count = List.replicate count 0 := by
  have hrun : gs.takeWhile (· = 0) = List.replicate (zeroRun gs) 0 :=
    List.eq_replicate_of_mem fun g hg => by simpa using List.mem_takeWhile_imp hg
  calc gs.take count = (gs.takeWhile (· = 0) ++ gs.dropWhile (· = 0)).take count := by
        rw [List.takeWhile_append_dropWhile]
    _ = (gs.takeWhile (· = 0)).take count := List.take_append_of_le_length h
    _ = List.replicate count 0 := by rw [hrun, List.take_replicate, Nat.min_eq_left h]

/-- What is left when the longest run of zeros is left out. -/
theorem groups_of_longestZeros {gs : List UInt16} {start count : Nat}
    (h : longestZeros gs = (start, count)) (hcount : 1 < count) :
    gs = gs.take start ++ List.replicate count 0 ++ gs.drop (start + count) ∧
      start + count ≤ gs.length := by
  have hle : count ≤ zeroRun (gs.drop start) := by
    have hle := longestZeros_le gs
    rwa [h] at hle
  have hlength : count ≤ (gs.drop start).length := hle.trans (List.takeWhile_prefix _).length_le
  rw [List.length_drop] at hlength
  refine ⟨?_, by omega⟩
  rw [← take_of_zeroRun hle, ← List.drop_drop, List.append_assoc, List.take_append_drop,
    List.take_append_drop]

/-- A group that is put together again from its bytes. -/
theorem ofNat_bytes (g : UInt16) : UInt16.ofNat (256 * (UInt8.ofNat (g.toNat / 256)).toNat
    + (UInt8.ofNat (g.toNat % 256)).toNat) = g := by
  have hg := g.toNat_lt
  apply UInt16.toNat_inj.1
  rw [UInt16.toNat_ofNat', UInt8.toNat_ofNat', UInt8.toNat_ofNat']
  omega

theorem pairs_of_mapped? {v4 : Ipv4} (h : ip.mapped? = some v4) :
    ip.groups.toList = [0, 0, 0, 0, 0, 0xffff] ++ pairs v4 := by
  rw [mapped?] at h
  split at h
  · rename_i x y hgroups
    cases h
    rw [hgroups, pairs, ofNat_bytes, ofNat_bytes]
    rfl
  · cases h

/-- **An address is written in one of the ways in which it can be.** -/
theorem spells_text (ip : Ipv6) : ip.Spells ip.text.toList := by
  rw [text]
  split
  · rename_i v4 hmapped
    have hfour : IsGroup ['f', 'f', 'f', 'f'] 0xffff := ⟨by decide, by decide, by decide⟩
    have hback : Lists true (0xffff :: pairs v4) true
        (lead true ++ (['f', 'f', 'f', 'f'] ++ (lead false ++ v4.text.toList))) :=
      .cons hfour (.ipv4 v4.spells_text)
    rw [String.toList_append]
    exact .gap .nil hback (Nat.le_of_ble_eq_true rfl)
      (ofList?_eq_some.2 (pairs_of_mapped? hmapped).symm)
  obtain ⟨⟨start, count⟩, hzeros⟩ : ∃ p, longestZeros ip.groups.toList = p := ⟨_, rfl⟩
  simp only [hzeros]
  split
  · rename_i hcount
    obtain ⟨hgroups, hend⟩ := groups_of_longestZeros hzeros hcount
    rw [Vector.length_toList] at hend
    rw [String.toList_ofList, List.append_assoc]
    have hfront : (ip.groups.toList.take start).length = start := by simp; omega
    have hback : (ip.groups.toList.drop (start + count)).length = 8 - (start + count) := by simp
    have hgap : 8 - start - (8 - (start + count)) = count := by omega
    refine .gap (lists_groupsText _) (lists_groupsText _) ?_ ?_
    · rw [hfront, hback]
      omega
    · rw [ofList?_eq_some, hfront, hback, hgap, ← hgroups]
  · rw [String.toList_ofList]
    exact .full (lists_groupsText _) (ofList?_eq_some.2 rfl)

/-! ## 5. What the texts of addresses have in common -/

theorem count_lead (first : Bool) :
    (lead first).count ':' + (if first then 1 else 0) = 1 := by
  cases first <;> rfl

theorem Lists.count (h : Lists first gs short t) :
    gs.length ≤ t.count ':' + (if first then 1 else 0) + (if short then 1 else 0) := by
  induction h with
  | nil => exact Nat.zero_le _
  | @ipv4 first ip t ht =>
    have hlead := count_lead first
    rw [List.count_append, pairs, List.length_cons, List.length_singleton, if_pos rfl]
    omega
  | @cons first short g gs ds t hds ht ih =>
    have hlead := count_lead first
    rw [if_neg Bool.false_ne_true] at ih
    rw [List.count_append, List.count_append, List.length_cons]
    omega

/-- An address of version 6 has more than one colon. -/
theorem Spells.count (h : ip.Spells t) : 2 ≤ t.count ':' := by
  cases h with
  | @full gs short t hgroups hall =>
    have hcount := hgroups.count
    rw [length_of_ofList? hall, if_pos rfl] at hcount
    split at hcount <;> omega
  | gap _ _ _ _ =>
    rw [List.count_append, List.count_cons_self, List.count_cons_self]
    omega

/-- Groups start with a digit. -/
theorem Lists.head_first (h : Lists true gs short t) : ∀ c ∈ t.head?, isHex c = true := by
  cases h with
  | nil => nofun
  | ipv4 ht => exact fun c hc => isHex_of_isDigit (ht.head c hc)
  | @cons _ _ g gs ds t hds ht =>
    intro c hc
    obtain ⟨d, ds, rfl⟩ := List.exists_cons_of_ne_nil hds.ne_nil
    cases hc
    exact hds.hex _ List.mem_cons_self

/-- An address of version 6 starts with a digit or a colon. -/
theorem Spells.head (h : ip.Spells t) : ∀ c ∈ t.head?, isHex c = true ∨ c = ':' := by
  intro c hc
  cases h with
  | full hgroups _ => exact .inl (hgroups.head_first c hc)
  | @gap front back short t u hbefore _ _ _ =>
    cases t with
    | nil =>
      cases hc
      exact .inr rfl
    | cons d t => exact .inl (hbefore.head_first c hc)

/-- Groups other than an address of version 4 do not start with one. -/
theorem Lists.read_eq_none (h : Lists true gs short t) (hother : short = true → gs.length ≠ 2)
    (hrest : Breaks rest) : Ipv4.read (t ++ rest) = none := by
  cases h with
  | nil => exact @Ipv4.read_eq_none [] _ nofun hrest.head
  | ipv4 _ => exact absurd rfl (hother rfl)
  | cons hds ht =>
    rw [lead, if_pos rfl, List.nil_append, List.append_assoc]
    exact Ipv4.read_eq_none hds.hex (ht.head hrest)

/-- An address of version 6 does not start with one of version 4. -/
theorem Spells.read_eq_none (h : ip.Spells t) : Ipv4.read t = none := by
  cases h with
  | full hgroups hall =>
    have hlength := length_of_ofList? hall
    have hnone : Ipv4.read (t ++ []) = none :=
      hgroups.read_eq_none (fun _ => by omega) (.inl nofun)
    rwa [List.append_nil] at hnone
  | gap hbefore _ _ _ => exact hbefore.read_eq_none nofun (.inr ⟨_, rfl⟩)

end Ipv6

namespace IpAddress

variable {s : String}

/-- **Which texts denote an address of version 4.** -/
theorem ofString?_eq_v4 {ip : Ipv4} : ofString? s = some (.v4 ip) ↔ ip.Spells s.toList := by
  rw [ofString?, whole_eq_some, read, orElse_eq_some]
  simp only [map_eq_some]
  constructor
  · rintro (⟨ip', hread, hip⟩ | ⟨-, ip', -, hip⟩)
    · cases hip
      obtain ⟨t, htext, ht, -⟩ := Ipv4.read_eq_some.1 hread
      rwa [htext, List.append_nil]
    · cases hip
  · exact fun h => .inl ⟨ip, Ipv4.read_eq_some.2 ⟨_, (List.append_nil _).symm, h, nofun⟩, rfl⟩

/-- **Which texts denote an address of version 6.** -/
theorem ofString?_eq_v6 {ip : Ipv6} : ofString? s = some (.v6 ip) ↔ ip.Spells s.toList := by
  rw [ofString?, whole_eq_some, read, orElse_eq_some]
  simp only [map_eq_some]
  constructor
  · rintro (⟨ip', -, hip⟩ | ⟨-, ip', hread, hip⟩)
    · cases hip
    · cases hip
      obtain ⟨t, htext, ht⟩ := Ipv6.spells_of_read hread
      rwa [htext, List.append_nil]
  · intro h
    refine .inr ⟨?_, ip, ?_, rfl⟩
    · refine Option.eq_none_iff_forall_ne_some.2 fun ⟨a, rest⟩ hsome => ?_
      obtain ⟨ip', hread, -⟩ := map_eq_some.1 hsome
      rw [h.read_eq_none] at hread
      cases hread
    · have hread : Ipv6.read (s.toList ++ []) = some (ip, []) := Ipv6.read_of_spells h nofun
      rwa [List.append_nil] at hread

/-- A text with a colon is no address of version 4. -/
theorem ofString?_ne_v4 {ip : Ipv4} (h : ':' ∈ s.toList) : ofString? s ≠ some (.v4 ip) :=
  fun hip => (ofString?_eq_v4.1 hip).colon_notMem h

/-- A text that starts with a bracket is no address of version 6. -/
theorem ofString?_ne_v6 {ip : Ipv6} (h : s.toList.head? = some '[') :
    ofString? s ≠ some (.v6 ip) := fun hip =>
  absurd ((ofString?_eq_v6.1 hip).head '[' h) (by decide)

end IpAddress

/-! ## 6. Addresses with ports -/

/-- The zone of an address, if it names one. -/
inductive IsZone : List Char → Prop
  | none : IsZone []
  | number {ds : List Char} {n : Nat} (digits : Decimal.ofDigits? ds = some n)
      (small : n < 0x100000000) : IsZone ('%' :: ds)

/-- How the host of an address with a port can be written. -/
inductive IsSocketHost : List Char → Prop
  | v4 {ip : Ipv4} {t : List Char} (spelled : ip.Spells t) : IsSocketHost t
  | v6 {ip : Ipv6} {t zone : List Char} (spelled : ip.Spells t) (scope : IsZone zone) :
      IsSocketHost ('[' :: (t ++ zone ++ [']']))

theorem port_of_below {cs : List Char} {n : Nat} (h : below 65536 cs = some (n, [])) :
    Decimal.ofDigits? cs = some n ∧ n < 65536 := by
  obtain ⟨ds, rfl, hds, hn, -⟩ := below_eq_some.1 h
  rw [List.append_nil]
  exact ⟨hds, hn⟩

/-- **What an address with a port consists of.** -/
theorem SocketAddress.parts_of_ofString? {s : String} {a : SocketAddress}
    (h : ofString? s = some a) : ∃ host port n, s.toList = host ++ ':' :: port ∧
      IsSocketHost host ∧ Decimal.ofDigits? port = some n ∧ n < 65536 := by
  rw [ofString?, whole_eq_some, orElse_eq_some] at h
  rcases h with h | ⟨-, h⟩
  · simp only [readV4, bind_eq_some, char_eq_some, pure_eq_some] at h
    obtain ⟨ip, _, hip, -, port, rfl, n, _, hport, -, rfl⟩ := h
    obtain ⟨t, htext, ht, -⟩ := Ipv4.read_eq_some.1 hip
    exact ⟨t, port, n, htext, .v4 ht, port_of_below hport⟩
  · simp only [readV6, bind_eq_some, char_eq_some, pure_eq_some, orElse_eq_some] at h
    obtain ⟨-, body, htext, ip, behind, hip, scope, _, hscope, -, _, rfl, -, port, rfl, n, _,
      hport, -, rfl⟩ := h
    obtain ⟨t, rfl, ht⟩ := Ipv6.spells_of_read hip
    obtain ⟨zone, rfl, hzone⟩ : ∃ zone, behind = zone ++ ']' :: ':' :: port ∧ IsZone zone := by
      rcases hscope with ⟨-, mid, rfl, hscope⟩ | ⟨-, -, rfl⟩
      · obtain ⟨ds, rfl, hds, hsmall, -⟩ := below_eq_some.1 hscope
        exact ⟨'%' :: ds, rfl, .number hds hsmall⟩
      · exact ⟨[], rfl, .none⟩
    exact ⟨_, port, n, by rw [htext]; simp, .v6 ht hzone, port_of_below hport⟩

end MultiSigner.Net
