import MultiSigner.Json.Draft
/-!
# Reading typed values from JSON

Decoders go through a draft in the order of the text and stop at the first fault: `syntax` where
the text breaks off, `data` where it says something of another shape.  What no one asks for is
skipped, and only has to be free of breaks.

Structures are read from objects or from arrays (fields in order).  `Json.Field` describes one
field by how it changes a structure that starts out with its default values.

## Contents

1. Faults and single values.
2. Lists, maps and enumerations.
3. Structures.
-/

namespace MultiSigner.Json

/-! ## 1. Faults and single values -/

/-- Why a text can not be read as a value of some type. -/
inductive Fault
  /-- The text is no JSON. -/
  | syntaxError
  /-- The text is JSON, of another shape. -/
  | dataError
  deriving Repr, DecidableEq, Inhabited

namespace Draft

/-- The fault of a value that stands where another one is wanted. -/
def mismatch : Draft → Fault
  | .cut => .syntaxError
  | .string none => .syntaxError
  | .real false => .syntaxError
  | _ => .dataError

/-- Passes over a value. -/
def skip (v : Draft) : Except Fault Unit :=
  if v.isBroken then .error .syntaxError else .ok ()

/-- A text. -/
def toText : Draft → Except Fault String
  | .string (some s) => .ok s
  | v => .error v.mismatch

/-- A truth value. -/
def toBool : Draft → Except Fault Bool
  | .bool b => .ok b
  | v => .error v.mismatch

/-- A number from zero to below `bound`. -/
def toNatBelow (bound : Nat) : Draft → Except Fault Nat
  | .integer n => if 0 ≤ n ∧ n.toNat < bound then .ok n.toNat else .error .dataError
  | v => .error v.mismatch

/-- Null or a value. -/
def toOption {α : Type} (decode : Draft → Except Fault α) : Draft → Except Fault (Option α)
  | .null => .ok none
  | v => some <$> decode v

/-- A value in another notation, which `convert` reads from its text. -/
def toTextVia {α : Type} (convert : String → Option α) (v : Draft) : Except Fault α := do
  match convert (← v.toText) with
  | some a => .ok a
  | none => .error .dataError

/-! ## 2. Lists, maps and enumerations -/

/-- A list. -/
def toList {α : Type} (decode : Draft → Except Fault α) : Draft → Except Fault (List α)
  | .array items => items.mapM decode
  | v => .error v.mismatch

/-- The members of an object whose keys are any texts, each inserted in turn. -/
def toMap {κ α μ : Type} (readKey : String → Option κ) (decode : Draft → Except Fault α)
    (insert : μ → κ → α → μ) (empty : μ) : Draft → Except Fault μ
  | .object members => members.foldlM (fun m (key, v) =>
      match key with
      | none => .error .syntaxError
      | some text =>
        match readKey text with
        | none => .error .dataError
        | some k => do return insert m k (← decode v)) empty
  | v => .error v.mismatch

/-- One of a number of names, alone or as the only key of an object whose value is null. -/
def toName {α : Type} (find : String → Option α) : Draft → Except Fault α
  | .string (some s) =>
    match find s with
    | some a => .ok a
    | none => .error .dataError
  | .object ((key, v) :: more) =>
    match key with
    | none => .error .syntaxError
    | some s =>
      match find s, v with
      | none, _ => .error .dataError
      | some a, .null => if more.isEmpty then .ok a else .error .syntaxError
      | some _, v => .error v.mismatch
  | .object [] => .error .syntaxError
  | .array _ => .error .syntaxError
  | .string none => .error .syntaxError
  | _ => .error .syntaxError

end Draft

/-! ## 3. Structures -/

/-- A field of a structure: its name, whether it has to be there, and what its value changes. -/
structure Field (σ : Type) where
  name : String
  required : Bool
  read : Draft → σ → Except Fault σ

/-- A field that may be left out. -/
def Field.mayBe {σ α : Type} (name : String) (decode : Draft → Except Fault α)
    (set : σ → α → σ) : Field σ :=
  ⟨name, false, fun v s => do return set s (← decode v)⟩

/-- A field that has to be there. -/
def Field.mustBe {σ α : Type} (name : String) (decode : Draft → Except Fault α)
    (set : σ → α → σ) : Field σ :=
  ⟨name, true, fun v s => do return set s (← decode v)⟩

namespace Draft

/-- Reads the members of an object into a structure.  `seen` holds the names that were read; a name
must not come twice, and names that belong to no field are passed over. -/
def readMembers {σ : Type} (fields : List (Field σ)) :
    List (Option String × Draft) → List String → σ → Except Fault (List String × σ)
  | [], seen, s => .ok (seen, s)
  | (none, _) :: _, _, _ => .error .syntaxError
  | (some key, v) :: rest, seen, s =>
    match fields.find? (·.name == key) with
    | none => do
      v.skip
      readMembers fields rest seen s
    | some field =>
      if seen.contains key then .error .dataError
      else do
        let s ← field.read v s
        readMembers fields rest (key :: seen) s

/-- Reads the items of an array into the fields of a structure, in order. -/
def readItems {σ : Type} : List (Field σ) → List Draft → σ → Except Fault σ
  | [], [], s => .ok s
  | [], _ :: _, _ => .error .syntaxError
  | f :: fields, [], s => if f.required then .error .dataError else readItems fields [] s
  | f :: fields, v :: rest, s => do
    let s ← f.read v s
    readItems fields rest s

/-- Reads a structure; `initial` has the values of the fields that are left out. -/
def toStructure {σ : Type} (fields : List (Field σ)) (initial : σ) : Draft → Except Fault σ
  | .object members => do
    let (seen, s) ← readMembers fields members [] initial
    if fields.any fun f => f.required && !seen.contains f.name then .error .dataError
    else return s
  | .array items => readItems fields items initial
  | v => .error v.mismatch

/-- Reads the whole of a text, after whose value nothing may follow. -/
def decodeText {α : Type} (decode : Draft → Except Fault α) (text : String) : Except Fault α :=
  match Draft.read text with
  | .trailing v => do
    let _ ← decode v
    .error .syntaxError
  | r => decode r.result

/-! ## 4. Loose access -/

/-- The value of the first member of the given name. -/
def member? (name : String) : Draft → Option Draft
  | .object members => (members.find? fun m => m.1 == some name).map (·.2)
  | _ => none

end Draft
end MultiSigner.Json
