import MultiSigner.DomainName.Basic
import MultiSigner.Idna.Processing
import MultiSigner.Text.Decimal
/-!
# Writing domain names

Two forms: `DomainName.ascii`, in which bytes that could be misread are escaped, and
`DomainName.display`, which also shows internationalized labels as text.

## Contents

1. Bytes.
2. Labels.
3. Names.
-/

namespace MultiSigner.DomainName

/-! ## 1. Bytes -/

/-- Whether a byte stands for itself in a label. -/
def isPlainByte (first : Bool) (b : UInt8) : Bool :=
  let c := Char.ofNat b.toNat
  b < 128 && (c.isAlpha || c.isDigit || c = '_' || (!first && c = '-') || (first && c = '*'))

/-- Writes a byte of a label: as it is, after a backslash, or as three octal digits. -/
def byteChars (first : Bool) (b : UInt8) : List Char :=
  if isPlainByte first b then [Char.ofNat b.toNat]
  else if 0x20 < b ∧ b < 0x7f then ['\\', Char.ofNat b.toNat]
  else
    let n := b.toNat
    ['\\', Nat.digitChar (n / 64), Nat.digitChar (n / 8 % 8), Nat.digitChar (n % 8)]

/-! ## 2. Labels -/

/-- A label with escapes. -/
def asciiLabelChars : List UInt8 → List Char
  | [] => []
  | b :: bs => byteChars true b ++ bs.flatMap (byteChars false)

/-- The characters of a label in UTF-8. -/
def labelText? (l : List UInt8) : Option (List Char) :=
  if l.all (· < 128) then some (l.map fun b => Char.ofNat b.toNat)
  else (String.fromUTF8? ⟨l.toArray⟩).map String.toList

/-- The bytes that internationalized labels start with. -/
def internationalMark : List UInt8 := [120, 110, 45, 45]

/-- A label as text: an internationalized one that can be decoded in its own script, any other one
with escapes. -/
def displayLabelChars (l : List UInt8) : List Char :=
  if internationalMark.isPrefixOf l then
    ((labelText? l).bind Idna.toUnicode?).getD (asciiLabelChars l)
  else asciiLabelChars l

/-! ## 3. Names -/

/-- Labels with dots between them, and another dot at the end of absolute names. -/
def joinLabels (write : List UInt8 → List Char) (n : DomainName) : List Char :=
  ['.'].intercalate (n.labels.map write)
    ++ (if n.absolute then ['.'] else [])

/-- The name with internationalized labels undecoded. -/
def ascii (n : DomainName) : String :=
  String.ofList (joinLabels asciiLabelChars n)

/-- The name as text. -/
def display (n : DomainName) : String :=
  String.ofList (joinLabels displayLabelChars n)

instance : ToString DomainName := ⟨display⟩

end MultiSigner.DomainName
