import MultiSigner.Text.Decimal
import MultiSigner.Text.Hex
/-!
# Internet addresses

Addresses of both versions, how they are written, and which texts are read as one.

## Contents

1. Readers of text.
2. Version 4.
3. Version 6.
4. Addresses of either version.
-/

namespace MultiSigner.Net

/-! ## 1. Readers of text -/

/-- A reader takes something off the front of a text, or fails. -/
abbrev Reader := StateT (List Char) Option

namespace Reader

/-- Takes one given character. -/
def char (c : Char) : Reader Unit := fun cs =>
  match cs with
  | d :: rest => if d = c then some ((), rest) else none
  | [] => none

/-- Takes as many decimal digits as there are, at least one. -/
def digits : Reader (List Char) := fun cs =>
  let ds := cs.takeWhile Char.isDigit
  if ds.isEmpty then none else some (ds, cs.dropWhile Char.isDigit)

/-- Takes a decimal number below `bound`. -/
def below (bound : Nat) : Reader Nat := do
  let n := Nat.ofDigitChars 10 (← digits) 0
  guard (n < bound)
  return n

/-- Takes up to four hexadecimal digits. -/
def group : Reader UInt16 := fun cs =>
  let isHex := fun c => (Hex.digitValue? c).isSome
  let ds := cs.takeWhile isHex
  if ds.isEmpty ∨ 4 < ds.length then none
  else (Hex.number? ds).map fun n => (UInt16.ofNat n, cs.dropWhile isHex)

/-- Reads a whole text. -/
def whole {α : Type} (r : Reader α) (s : String) : Option α :=
  match r s.toList with
  | some (a, []) => some a
  | _ => none

end Reader

/-! ## 2. Version 4 -/

/-- An address of version 4. -/
structure Ipv4 where
  a : UInt8
  b : UInt8
  c : UInt8
  d : UInt8
  deriving Repr, DecidableEq

namespace Ipv4

/-- Takes a number below 256 without zeros in front. -/
def readByte : Reader UInt8 := do
  let ds ← Reader.digits
  guard (ds.length = 1 ∨ (ds.length ≤ 3 ∧ ds.head? ≠ some '0'))
  let n := Nat.ofDigitChars 10 ds 0
  guard (n < 256)
  return UInt8.ofNat n

/-- Takes four numbers with dots between them. -/
def read : Reader Ipv4 := do
  let a ← readByte
  Reader.char '.'
  let b ← readByte
  Reader.char '.'
  let c ← readByte
  Reader.char '.'
  return ⟨a, b, c, ← readByte⟩

/-- Four numbers with dots between them. -/
def text (ip : Ipv4) : String :=
  s!"{ip.a}.{ip.b}.{ip.c}.{ip.d}"

/-- Whether the address is one of the host itself. -/
def isLoopback (ip : Ipv4) : Bool :=
  ip.a = 127

/-- Whether the address belongs to a private network. -/
def isPrivate (ip : Ipv4) : Bool :=
  ip.a = 10 || (ip.a = 172 && 16 ≤ ip.b && ip.b ≤ 31) || (ip.a = 192 && ip.b = 168)

end Ipv4

/-! ## 3. Version 6 -/

/-- An address of version 6. -/
structure Ipv6 where
  groups : Vector UInt16 8
  deriving Repr, DecidableEq

namespace Ipv6

/-- The address with the given groups, if there are eight. -/
def ofList? (gs : List UInt16) : Option Ipv6 :=
  if h : gs.length = 8 then some ⟨⟨gs.toArray, by simpa using h⟩⟩ else none

/-- Takes a colon where groups came before, and then what `r` takes. -/
def separated {α : Type} (first : Bool) (r : Reader α) : Reader α := do
  if !first then Reader.char ':'
  r

/-- Takes up to `room` groups; an address of version 4 may stand for the last two.  Tells whether
one does. -/
def readGroups (first : Bool) : Nat → List Char → (List UInt16 × Bool) × List Char
  | 0, cs => (([], false), cs)
  | room + 1, cs =>
    match (if 0 < room then separated first Ipv4.read cs else none) with
    | some (ip, rest) =>
      let pair := fun (hi lo : UInt8) => UInt16.ofNat (256 * hi.toNat + lo.toNat)
      (([pair ip.a ip.b, pair ip.c ip.d], true), rest)
    | none =>
      match separated first Reader.group cs with
      | none => (([], false), cs)
      | some (g, rest) =>
        let ((gs, short), rest) := readGroups false room rest
        ((g :: gs, short), rest)

/-- Takes eight groups; two colons in a row stand for one or more groups of zero. -/
def read : Reader Ipv6 := fun cs =>
  let ((front, short), rest) := readGroups true 8 cs
  if front.length = 8 then (ofList? front).map (·, rest)
  else if short then none
  else match rest with
    | ':' :: ':' :: rest =>
      let ((back, _), rest) := readGroups true (7 - front.length) rest
      (ofList? (front ++ List.replicate (8 - front.length - back.length) 0 ++ back)).map (·, rest)
    | _ => none

/-- A group in hexadecimal digits, as few as possible. -/
def groupText (g : UInt16) : List Char :=
  Nat.toDigits 16 g.toNat

/-- Groups with colons between them. -/
def groupsText (gs : List UInt16) : List Char :=
  [':'].intercalate (gs.map groupText)

/-- How many groups of zero a list starts with. -/
def zeroRun (gs : List UInt16) : Nat :=
  (gs.takeWhile (· = 0)).length

/-- The start and the length of the longest run of zeros, the first one of several. -/
def longestZeros (gs : List UInt16) : Nat × Nat :=
  (List.range gs.length).foldl (fun best i =>
    let run := zeroRun (gs.drop i)
    if best.2 < run then (i, run) else best) (0, 0)

/-- The address of version 4 that is mapped into this one. -/
def mapped? (ip : Ipv6) : Option Ipv4 :=
  match ip.groups.toList with
  | [0, 0, 0, 0, 0, 0xffff, x, y] =>
    some ⟨UInt8.ofNat (x.toNat / 256), UInt8.ofNat (x.toNat % 256),
      UInt8.ofNat (y.toNat / 256), UInt8.ofNat (y.toNat % 256)⟩
  | _ => none

/-- Groups with colons between them, the longest run of zeros left out. -/
def text (ip : Ipv6) : String :=
  match ip.mapped? with
  | some v4 => "::ffff:" ++ v4.text
  | none =>
    let gs := ip.groups.toList
    let (start, count) := longestZeros gs
    if 1 < count then
      String.ofList (groupsText (gs.take start) ++ [':', ':'] ++ groupsText (gs.drop (start + count)))
    else String.ofList (groupsText gs)

/-- Whether the address is the one of the host itself. -/
def isLoopback (ip : Ipv6) : Bool :=
  ip.groups.toList = [0, 0, 0, 0, 0, 0, 0, 1]

/-- Whether the address belongs to a local network. -/
def isUniqueLocal (ip : Ipv6) : Bool :=
  match ip.groups.toList with
  | g :: _ => g.toNat / 512 = 0x7e
  | [] => false

end Ipv6

/-! ## 4. Addresses of either version -/

/-- An internet address. -/
inductive IpAddress
  | v4 (ip : Ipv4)
  | v6 (ip : Ipv6)
  deriving Repr, DecidableEq

namespace IpAddress

/-- Takes an address of either version. -/
def read : Reader IpAddress :=
  (IpAddress.v4 <$> Ipv4.read) <|> (IpAddress.v6 <$> Ipv6.read)

/-- The address that a text denotes. -/
def ofString? (s : String) : Option IpAddress :=
  read.whole s

/-- How an address is written. -/
def text : IpAddress → String
  | v4 ip => ip.text
  | v6 ip => ip.text

/-- Whether only the host itself, or a private network, can reach the address. -/
def isProtected : IpAddress → Bool
  | v4 ip => ip.isLoopback || ip.isPrivate
  | v6 ip => ip.isLoopback || ip.isUniqueLocal

end IpAddress
end MultiSigner.Net
