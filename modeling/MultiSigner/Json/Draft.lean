import MultiSigner.Json.Token
import MultiSigner.Json.Value
/-!
# JSON texts as far as they can be read

`Json.Draft` is what a text says up to the first place where it breaks off; there stands the leaf
`cut`, and every container around it ends with it.  Someone who goes through a draft from the front
therefore finds a value of an unwanted shape before a mistake that comes later in the text, and the
other way round.

The reader takes one token at a time (`Draft.Reader.step`), so a text of any depth is read by one
fold over its tokens.

## Contents

1. Drafts.
2. The reader: what is open, and what may come next.
3. Whole texts.
-/

namespace MultiSigner.Json

/-! ## 1. Drafts -/

/-- A JSON value that was read, perhaps not to its end. -/
inductive Draft
  | null
  | bool (b : Bool)
  | integer (n : Int)
  | real (finite : Bool)
  | string (text : Option String)
  | array (items : List Draft)
  | object (members : List (Option String × Draft))
  /-- The text breaks off here. -/
  | cut
  deriving Inhabited

namespace Draft

/-! ## 2. The reader -/

/-- A container around the value that is being read, with what stands before it, latest first. -/
inductive Context
  | item (before : List Draft)
  | member (before : List (Option String × Draft)) (key : Option String)

/-- Where the reader stands. -/
inductive Reader
  /-- A value has to come. -/
  | value (around : List Context)
  /-- An array was opened. -/
  | firstItem (around : List Context)
  /-- An item was read. -/
  | afterItem (items : List Draft) (around : List Context)
  /-- An object was opened. -/
  | firstKey (around : List Context)
  /-- A key has to come. -/
  | key (before : List (Option String × Draft)) (around : List Context)
  /-- A key was read. -/
  | colon (before : List (Option String × Draft)) (key : Option String) (around : List Context)
  /-- A member was read. -/
  | afterMember (members : List (Option String × Draft)) (around : List Context)
  /-- The text is complete. -/
  | complete (v : Draft)
  /-- Something follows the complete text. -/
  | trailing (v : Draft)
  /-- The text is broken. -/
  | stopped (v : Draft)

/-- Puts a value into the container around it. -/
def Context.fill (v : Draft) : Context → Draft
  | .item before => .array (before.reverse ++ [v])
  | .member before k => .object (before.reverse ++ [(k, v)])

/-- The whole value when reading ends with `v` inside the given containers. -/
def enclose (v : Draft) (around : List Context) : Draft :=
  around.foldl Context.fill v

namespace Reader

/-- The reader after a complete value. -/
def deliver (v : Draft) : List Context → Reader
  | [] => .complete v
  | .item before :: around => .afterItem (v :: before) around
  | .member before k :: around => .afterMember ((k, v) :: before) around

/-- What the reader has if nothing more can be read. -/
def result : Reader → Draft
  | value around => enclose .cut around
  | firstItem around => enclose (.array [.cut]) around
  | afterItem items around => enclose (.array (items.reverse ++ [.cut])) around
  | firstKey around => enclose (.object [(none, .cut)]) around
  | key before around => enclose (.object (before.reverse ++ [(none, .cut)])) around
  | colon before k around => enclose (.object (before.reverse ++ [(k, .cut)])) around
  | afterMember members around => enclose (.object (members.reverse ++ [(none, .cut)])) around
  | complete v => v
  | trailing v => v
  | stopped v => v

/-- A token where a value is due. -/
def beginValue (around : List Context) : Token → Reader
  | .openArray => .firstItem around
  | .openObject => .firstKey around
  | .null => deliver .null around
  | .bool b => deliver (.bool b) around
  | .integer n => deliver (.integer n) around
  | .real finite => deliver (.real finite) around
  | .string text => deliver (.string text) around
  | _ => .stopped (enclose .cut around)

/-- Takes one token. -/
def step : Reader → Token → Reader
  | value around, t => beginValue around t
  | firstItem around, .closeArray => deliver (.array []) around
  | firstItem around, t => beginValue (.item [] :: around) t
  | afterItem items around, .comma => .value (.item items :: around)
  | afterItem items around, .closeArray => deliver (.array items.reverse) around
  | firstKey around, .closeObject => deliver (.object []) around
  | firstKey around, .string text => .colon [] text around
  | key before around, .string text => .colon before text around
  | colon before k around, .colon => .value (.member before k :: around)
  | afterMember members around, .comma => .key members around
  | afterMember members around, .closeObject => deliver (.object members.reverse) around
  | complete v, _ => .trailing v
  | trailing v, _ => .trailing v
  | stopped v, _ => .stopped v
  | r, _ => .stopped r.result

end Reader

/-! ## 3. Whole texts -/

/-- The reader at the end of a text. -/
def read (text : String) : Reader :=
  (lex text.toList).foldl Reader.step (.value [])

/-- What a text says, whatever follows its first value. -/
def ofText (text : String) : Draft :=
  (read text).result

mutual

/-- Whether a draft ends in a break. -/
def isBroken : Draft → Bool
  | .cut => true
  | .array items => anyBroken items
  | .object members => anyMemberBroken members
  | _ => false

/-- Whether one of some items ends in a break. -/
def anyBroken : List Draft → Bool
  | [] => false
  | v :: vs => isBroken v || anyBroken vs

/-- Whether one of some members ends in a break. -/
def anyMemberBroken : List (Option String × Draft) → Bool
  | [] => false
  | (_, v) :: ms => isBroken v || anyMemberBroken ms

end

end Draft

mutual

/-- The draft that says the same as a value. -/
def draft : Json → Draft
  | .null => .null
  | .bool b => .bool b
  | .number n => .integer n
  | .string s => .string (some s)
  | .array items => .array (draftItems items)
  | .object members => .object (draftMembers members)

/-- The drafts of some items. -/
def draftItems : List Json → List Draft
  | [] => []
  | v :: vs => draft v :: draftItems vs

/-- The drafts of some members. -/
def draftMembers : List (String × Json) → List (Option String × Draft)
  | [] => []
  | (k, v) :: ms => (some k, draft v) :: draftMembers ms

end

end MultiSigner.Json
