import MultiSigner.Idna.MappingTable
/-!
# What becomes of the characters of a name

Each character of an internationalized name is kept, left out, replaced, or refused.  Characters of
ASCII follow a rule of their own, the others the mapping table.

`Idna.Rules` says how strict the reading is: whether names keep to the characters of host names,
and whether the four deviations are replaced as in the older standard.
-/

namespace MultiSigner.Idna

/-- How names are read. -/
structure Rules where
  /-- Names keep to letters, digits and hyphens. -/
  hostNames : Bool
  /-- Deviations are replaced. -/
  transitional : Bool
  deriving Repr, DecidableEq

/-- What a character is in a name. -/
inductive Status
  | valid
  | ignored
  | mapped (replacement : List Char)
  /-- Replaced by the older standard and kept by the newer one. -/
  | deviation (replacement : List Char)
  | disallowed
  /-- Kept, but no character of host names. -/
  | unusual
  /-- Replaced, but by something that is not made for host names. -/
  | unusualMapped (replacement : List Char)
  deriving Repr, DecidableEq

/-- The four characters in which the standards differ: sharp s, final sigma, and the two that join
or do not join. -/
def deviation? (c : Char) : Option (List Char) :=
  if c.toNat = 0xdf then some ['s', 's']
  else if c.toNat = 0x3c2 then some ['σ']
  else if c.toNat = 0x200c ∨ c.toNat = 0x200d then some []
  else none

/-- The status of an ASCII character. -/
def asciiStatus (c : Char) : Status :=
  if c.isUpper then .mapped [c.toLower]
  else if c.isLower ∨ c.isDigit ∨ c = '-' ∨ c = '.' then .valid
  else .unusual

/-- A part of the longer replacements. -/
def sequence (reference : Nat) : List Char :=
  (mappingSequences.slice (reference / 32) (reference % 32)).map Char.ofNat

/-- The status of a character that the table has from `start` on. -/
def tableStatus (c start kind reference : Nat) : Status :=
  match kind with
  | 0 => .valid
  | 1 => .ignored
  | 3 => .mapped [Char.ofNat (reference + (c - start))]
  | 4 => .mapped (sequence reference)
  | 5 => .unusual
  | 6 => .unusualMapped [Char.ofNat (reference + (c - start))]
  | 7 => .unusualMapped (sequence reference)
  | 8 => if (c - start) % 2 = 0 then .mapped [Char.ofNat (c + 1)] else .valid
  | _ => .disallowed

/-- The status of a character. -/
def status (c : Char) : Status :=
  if c.toNat < 128 then asciiStatus c
  else match deviation? c with
    | some replacement => .deviation replacement
    | none =>
      match mappingTable.floor? c.toNat with
      | some (start, v) => tableStatus c.toNat start (v / 0x1000000) (v % 0x1000000)
      | none => .disallowed

/-- What stands for a character in the mapped text. -/
def replacement (rules : Rules) (c : Char) : List Char :=
  match status c with
  | .ignored => []
  | .mapped cs => cs
  | .unusualMapped cs => cs
  | .deviation cs => if rules.transitional then cs else [c]
  | _ => [c]

/-- Whether a character must not stand in a text that is to be mapped. -/
def isRefused (rules : Rules) (c : Char) : Bool :=
  match status c with
  | .disallowed => true
  | .unusual => rules.hostNames
  | .unusualMapped _ => rules.hostNames
  | _ => false

/-- Whether a character may stand in a label after mapping. -/
def isAllowed (rules : Rules) (c : Char) : Bool :=
  match status c with
  | .valid => true
  | .deviation _ => !rules.transitional
  | .unusual => !rules.hostNames
  | _ => false

end MultiSigner.Idna
