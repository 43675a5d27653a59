/-!
# JSON values

The values that are written: state documents, events, request and reply bodies.  Numbers are
integers, the members of an object stand in the order in which they are written.  What is read is
described by `Json.Draft`, which may be an incomplete text.
-/

namespace MultiSigner

/-- A JSON value without fractions. -/
inductive Json
  | null
  | bool (b : Bool)
  | number (n : Int)
  | string (s : String)
  | array (items : List Json)
  | object (members : List (String × Json))
  deriving Inhabited

namespace Json

/-- An array of strings. -/
def strings (lines : List String) : Json :=
  .array (lines.map .string)

/-- A natural number. -/
def nat (n : Nat) : Json :=
  .number (Int.ofNat n)

/-- A value or null. -/
def optional {α : Type} (encode : α → Json) : Option α → Json
  | none => .null
  | some a => encode a

/-- The member of the given name, if there is just a value for it. -/
def member (name : String) {α : Type} (encode : α → Json) : Option α → List (String × Json)
  | none => []
  | some a => [(name, encode a)]

end Json
end MultiSigner
