import MultiSigner.Idna.Mapping
import MultiSigner.Idna.Punycode
import MultiSigner.Idna.Direction
import MultiSigner.Unicode.Category
import MultiSigner.Unicode.Composition
/-!
# Internationalized names

The two conversions of a name: `Idna.toAscii?` into labels that a name server knows, and
`Idna.toUnicode?` into readable text.  Both map the characters, compose the text, and check every
label; labels that start with `xn--` are decoded on the way.

## Contents

1. Splitting at dots.
2. Checking labels.
3. Processing a name.
4. The two conversions.
-/

namespace MultiSigner.Idna

/-! ## 1. Splitting at dots -/

/-- The parts of a text between its dots. -/
def splitDots : List Char → List (List Char)
  | [] => [[]]
  | c :: cs =>
    if c = '.' then [] :: splitDots cs
    else match splitDots cs with
      | [] => [[c]]
      | l :: ls => (c :: l) :: ls

/-- The parts with dots between them. -/
def joinDots (labels : List (List Char)) : List Char :=
  ['.'].intercalate labels

/-! ## 2. Checking labels -/

/-- Whether a composed label may be used: it does not start with a mark, and its characters may
stand in a label. -/
def isValidLabel (rules : Rules) : List Char → Bool
  | [] => true
  | c :: cs => !Unicode.isMark c && (c :: cs).all (isAllowed rules)

/-! ## 3. Processing a name -/

/-- The mark of labels in their ASCII form. -/
def asciiMark : List Char := ['x', 'n', '-', '-']

/-- What becomes of a label: its text, and whether it makes the name bidirectional. -/
structure Processed where
  text : List Char
  bidirectional : Bool
  valid : Bool
  deriving Repr, DecidableEq

/-- Processes a label of the mapped and composed text. -/
def processLabel (rules : Rules) (label : List Char) : Processed :=
  if asciiMark.isPrefixOf label then
    match Punycode.decode? (label.drop 4) with
    | none => ⟨[], true, false⟩
    | some text =>
      ⟨text, hasRightToLeft text, Unicode.isComposed text
        && isValidLabel { rules with transitional := false } text⟩
  else ⟨label, hasRightToLeft label, isValidLabel rules label⟩

/-- Maps and composes a text. -/
def mapText (rules : Rules) (cs : List Char) : List Char :=
  Unicode.compose (cs.flatMap (replacement rules))

/-- The processed text of a name, if nothing is wrong with it. -/
def process? (rules : Rules) (cs : List Char) : Option (List Char) := do
  let labels := (splitDots (mapText rules cs)).map (processLabel rules)
  let text := joinDots (labels.map Processed.text)
  guard (!cs.any (isRefused rules))
  guard (labels.all Processed.valid)
  guard (!labels.any Processed.bidirectional || (splitDots text).all keepsDirection)
  return text

/-! ## 4. The two conversions -/

/-- Whether labels and name have a length that name servers accept.  One dot at the end does not
count. -/
def isOfLength (cs : List Char) : Bool :=
  let cs := if cs.getLast? = some '.' then cs.dropLast else cs
  cs.length ≤ 253 && (splitDots cs).all fun l => !l.isEmpty && l.length ≤ 63

/-- The ASCII form of a label. -/
def labelToAscii (label : List Char) : List Char :=
  if label.all fun c => c.toNat < 128 then label else asciiMark ++ Punycode.encode label

/-- The ASCII form of a name, by the older standard and within the rules of host names. -/
def toAscii? (cs : List Char) : Option (List Char) := do
  let text ← process? ⟨true, true⟩ cs
  let ascii := joinDots ((splitDots text).map labelToAscii)
  guard (isOfLength ascii)
  return ascii

/-- The readable form of a name, by the newer standard and with any characters. -/
def toUnicode? (cs : List Char) : Option (List Char) :=
  process? ⟨false, false⟩ cs

end MultiSigner.Idna
