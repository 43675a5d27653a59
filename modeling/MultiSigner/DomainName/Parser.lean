import MultiSigner.DomainName.Basic
import MultiSigner.Idna.Processing
/-!
# Reading domain names

A name is written as labels with dots between them; a backslash takes the next character as it is,
or stands with three octal digits for a character.  Labels may be internationalized.  If one of
them can not be converted, the whole name is read once more with labels in ASCII, and the error is
the one of that reading.

## Contents

1. What can be wrong.
2. Labels.
3. Names.
-/

namespace MultiSigner.DomainName

/-! ## 1. What can be wrong -/

/-- Why a text is no domain name. -/
inductive ParseError
  | unrecognizedChar (c : Char)
  | illegalChar (c : Char)
  | malformedLabel (label : List Char)
  | labelTooLong (length : Nat)
  | nameTooLong
  deriving Repr, DecidableEq

/-- The wording of a parse error. -/
def ParseError.message : ParseError → String
  | unrecognizedChar c => "unrecognized char: " ++ String.singleton c
  | illegalChar c => "illegal char: " ++ String.singleton c
  | malformedLabel label => "Malformed label: " ++ String.ofList label
  | labelTooLong n => s!"Label exceeds maximum length 63: {n}"
  | nameTooLong => "labels exceed maximum length of 255"

/-! ## 2. Labels -/

/-- Letters and digits of ASCII. -/
def isAlphanumeric (c : Char) : Bool :=
  c.isAlpha || c.isDigit

/-- Whether a character may start a label in ASCII. -/
def isFirstChar (c : Char) : Bool :=
  isAlphanumeric c || c = '_' || c = '*' || c = '.'

/-- Whether a character may stand further on in a label in ASCII. -/
def isLaterChar (c : Char) : Bool :=
  isAlphanumeric c || c = '_' || c = '-' || c = '.'

/-- A label in ASCII. -/
def asciiLabel (cs : List Char) : Except ParseError (List UInt8) :=
  let wellFormed := match cs with
    | [] => false
    | c :: rest => isFirstChar c && rest.all isLaterChar
  if !wellFormed then .error (.malformedLabel cs)
  else if 63 < cs.length then .error (.labelTooLong cs.length)
  else .ok (cs.map fun c => UInt8.ofNat c.toNat)

/-- A label that may be internationalized.  Labels that start with an underscore, and the lone
asterisk, are in ASCII; a label that has no ASCII form is malformed. -/
def internationalLabel (cs : List Char) : Except ParseError (List UInt8) :=
  if cs.head? = some '_' ∨ cs = ['*'] then asciiLabel cs
  else match Idna.toAscii? cs with
    | none => .error (.malformedLabel cs)
    | some ascii => asciiLabel ascii

/-! ## 3. Names -/

/-- What the next character belongs to. -/
inductive Place
  | label
  | escape
  | octal (digits : List Nat)
  deriving Repr, DecidableEq

/-- The labels that were read, latest first, and the characters of the one that is read. -/
structure Progress where
  labels : List (List UInt8)
  current : List Char
  place : Place
  deriving Repr, DecidableEq

/-- The value of an octal digit. -/
def octalDigit (c : Char) : Except ParseError Nat :=
  if '0' ≤ c ∧ c ≤ '7' then .ok (c.toNat - 48) else .error (.illegalChar c)

/-- Ends a label. -/
def Progress.endLabel (encode : List Char → Except ParseError (List UInt8)) (p : Progress) :
    Except ParseError Progress := do
  let labels := (← encode p.current.reverse) :: p.labels
  if 255 < (DomainName.mk labels true).size then .error .nameTooLong
  else return ⟨labels, [], .label⟩

/-- Takes a character outside of escapes. -/
def Progress.plain (encode : List Char → Except ParseError (List UInt8)) (p : Progress) (c : Char) :
    Except ParseError Progress :=
  if c = '.' then p.endLabel encode
  else if c = '\\' then .ok { p with place := .escape }
  else if Unicode.isControl c || Unicode.isSpace c then .error (.unrecognizedChar c)
  else .ok { p with current := c :: p.current }

/-- Takes a character of an octal escape, after the given digits. -/
def Progress.octal (p : Progress) (digits : List Nat) (c : Char) : Except ParseError Progress :=
  if Unicode.isNumber c then do
    let digits := digits ++ [← octalDigit c]
    if digits.length < 3 then return { p with place := .octal digits }
    else
      let code := digits.foldl (fun n d => 8 * n + d) 0
      return { p with current := Char.ofNat code :: p.current, place := .label }
  else .error (.unrecognizedChar c)

/-- Takes one character. -/
def Progress.step (encode : List Char → Except ParseError (List UInt8)) (p : Progress) (c : Char) :
    Except ParseError Progress :=
  match p.place with
  | .label => p.plain encode c
  | .escape =>
    if Unicode.isNumber c then p.octal [] c
    else .ok { p with current := c :: p.current, place := .label }
  | .octal digits => p.octal digits c

/-- Reads a name with one way to read labels.  An escape that is not finished is dropped. -/
def parseWith (encode : List Char → Except ParseError (List UInt8)) (cs : List Char) :
    Except ParseError DomainName :=
  if cs = ['.'] then .ok root
  else do
    let p ← cs.foldlM (Progress.step encode) ⟨[], [], .label⟩
    let p ← if p.current.isEmpty then pure p else p.endLabel encode
    return ofLabels p.labels.reverse (cs.getLast? == some '.')

/-- Reads a name. -/
def parse (s : String) : Except ParseError DomainName :=
  match parseWith internationalLabel s.toList with
  | .ok n => .ok n
  | .error _ => parseWith asciiLabel s.toList

/-- The name that a text denotes, if it does. -/
def ofString? (s : String) : Option DomainName :=
  (parse s).toOption

end MultiSigner.DomainName
