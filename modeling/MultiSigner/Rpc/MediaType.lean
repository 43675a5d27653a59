import MultiSigner.DomainName.Parser
/-!
# Media types

Which bodies are taken for JSON by the type that their sender gives: `application/json`, or any
`application` type with the suffix `json`.  Parameters may follow, and have to be well formed.

## Contents

1. Places in a media type.
2. Reading.
3. JSON.
-/

namespace MultiSigner.Rpc

/-! ## 1. Places -/

/-- A media type, in small letters. -/
structure MediaType where
  type : List Char := []
  subtype : List Char := []
  /-- What follows the last plus sign of the subtype. -/
  suffix : Option (List Char) := none
  deriving Repr, DecidableEq

namespace MediaType

/-- What the next character belongs to. -/
inductive Place
  | type
  | subtype
  | parameter
  | parameterName
  | valueStart
  | value
  | quotedStart
  | quoted
  | afterQuoted
  deriving Repr, DecidableEq

/-- The characters of words. -/
def isTokenChar (c : Char) : Bool :=
  c.isAlpha || c.isDigit || "!#$%&'*+-.^_`|~".toList.contains c

/-- The characters between quotes. -/
def isQuotedChar (c : Char) : Bool :=
  31 < c.toNat && c.toNat ≠ 127

/-! ## 2. Reading -/

/-- Takes one character of the parameters. -/
def parameterStep : Place → Char → Option Place
  | .parameter, c =>
    if c = ' ' then some .parameter else if isTokenChar c then some .parameterName else none
  | .parameterName, c =>
    if c = '=' then some .valueStart else if isTokenChar c then some .parameterName else none
  | .valueStart, c =>
    if c = '"' then some .quotedStart else if isTokenChar c then some .value else none
  | .value, c =>
    if c = ';' then some .parameter else if isTokenChar c then some .value else none
  | .quotedStart, c => if isQuotedChar c then some .quoted else none
  | .quoted, c =>
    if c = '"' then some .afterQuoted else if isQuotedChar c then some .quoted else none
  | .afterQuoted, c =>
    if c = ';' then some .parameter else if c = ' ' then some .afterQuoted else none
  | .type, _ => none
  | .subtype, _ => none

/-- Takes one character.  Words are collected with their latest character first. -/
def step : MediaType × Place → Char → Option (MediaType × Place)
  | (m, .type), c =>
    if c = '/' ∧ m.type ≠ [] then some (m, .subtype)
    else if isTokenChar c then some ({ m with type := c :: m.type }, .type)
    else none
  | (m, .subtype), c =>
    if (c = ';' ∨ c = ' ') ∧ m.subtype ≠ [] then some (m, .parameter)
    else if isTokenChar c then some ({ m with subtype := c :: m.subtype }, .subtype)
    else none
  | (m, place), c => (parameterStep place c).map fun p => (m, p)

/-- Whether a media type may end at a place. -/
def mayEnd : Place → Bool
  | .type => false
  | .parameterName => false
  | .quotedStart => false
  | .quoted => false
  | _ => true

/-- Parts the subtype from its suffix; a plus sign in front parts nothing.  Words stand with their
latest character first. -/
def splitSuffix (m : MediaType) : MediaType :=
  let suffix := m.subtype.takeWhile (· ≠ '+')
  match m.subtype.dropWhile (· ≠ '+') with
  | _ :: c :: rest => { m with subtype := c :: rest, suffix := some suffix }
  | _ => m

/-- Small letters in reading order. -/
def word (reversed : List Char) : List Char :=
  reversed.reverse.map Char.toLower

/-- The media type that a text denotes. -/
def ofString? (s : String) : Option MediaType := do
  let (m, place) ← s.toList.foldlM step ({}, .type)
  guard (mayEnd place)
  let m := splitSuffix m
  return ⟨word m.type, word m.subtype, m.suffix.map word⟩

/-! ## 3. JSON -/

/-- Whether a body of this type is JSON. -/
def isJson (m : MediaType) : Bool :=
  m.type == "application".toList
    && (m.subtype == "json".toList || m.suffix == some "json".toList)

/-- Whether the header of a request says that its body is JSON. -/
def saysJson (header : Option String) : Bool :=
  match header with
  | none => false
  | some s => s.toList.all (fun c => c.toNat < 128) && (ofString? s).any isJson

end MediaType
end MultiSigner.Rpc
