import MultiSigner.Json.Value
import MultiSigner.Text.Decimal
import MultiSigner.Text.Hex
/-!
# Writing JSON

Two layouts: `Json.compact` on one line, `Json.pretty` with two spaces per level.  Strings are
written the same way in both: the quote, the backslash and the control characters are escaped,
everything else stands for itself.

## Contents

1. Strings and numbers.
2. One line.
3. Two spaces per level.
-/

namespace MultiSigner.Json

/-! ## 1. Strings and numbers -/

/-- Writes one character of a string. -/
def escape (c : Char) : List Char :=
  if c = '"' then ['\\', '"']
  else if c = '\\' then ['\\', '\\']
  else if c = '\n' then ['\\', 'n']
  else if c = '\r' then ['\\', 'r']
  else if c = '\t' then ['\\', 't']
  else if c.toNat = 8 then ['\\', 'b']
  else if c.toNat = 12 then ['\\', 'f']
  else if c.toNat < 32 then
    ['\\', 'u', '0', '0', Hex.digit (c.toNat / 16), Hex.digit (c.toNat % 16)]
  else [c]

/-- Writes a string with its quotes. -/
def quote (cs : List Char) : List Char :=
  '"' :: (cs.flatMap escape ++ ['"'])

/-- Writes an integer. -/
def integer (n : Int) : List Char :=
  if n < 0 then '-' :: Decimal.digits n.natAbs else Decimal.digits n.natAbs

/-! ## 2. One line -/

mutual

/-- Writes a value without any blanks. -/
def compactChars : Json → List Char
  | .null => "null".toList
  | .bool true => "true".toList
  | .bool false => "false".toList
  | .number n => integer n
  | .string s => quote s.toList
  | .array [] => ['[', ']']
  | .array (v :: vs) => '[' :: (compactChars v ++ compactItems vs)
  | .object [] => ['\x7b', '\x7d']
  | .object ((k, v) :: ms) =>
    '\x7b' :: (quote k.toList ++ ':' :: (compactChars v ++ compactMembers ms))

/-- The items after the first one, and the closing bracket. -/
def compactItems : List Json → List Char
  | [] => [']']
  | v :: vs => ',' :: (compactChars v ++ compactItems vs)

/-- The members after the first one, and the closing brace. -/
def compactMembers : List (String × Json) → List Char
  | [] => ['\x7d']
  | (k, v) :: ms => ',' :: (quote k.toList ++ ':' :: (compactChars v ++ compactMembers ms))

end

/-- Writes a value on one line. -/
def compact (v : Json) : String :=
  String.ofList (compactChars v)

/-! ## 3. Two spaces per level -/

/-- A line break and the indentation of a level. -/
def newline (depth : Nat) : List Char :=
  '\n' :: List.replicate (2 * depth) ' '

mutual

/-- Writes a value that stands at the given level. -/
def prettyChars (depth : Nat) : Json → List Char
  | .null => "null".toList
  | .bool true => "true".toList
  | .bool false => "false".toList
  | .number n => integer n
  | .string s => quote s.toList
  | .array [] => ['[', ']']
  | .array (v :: vs) =>
    '[' :: (newline (depth + 1) ++ (prettyChars (depth + 1) v ++ prettyItems depth vs))
  | .object [] => ['\x7b', '\x7d']
  | .object ((k, v) :: ms) =>
    '\x7b' :: (newline (depth + 1) ++ (quote k.toList ++
      ':' :: ' ' :: (prettyChars (depth + 1) v ++ prettyMembers depth ms)))

/-- The items after the first one, and the closing bracket. -/
def prettyItems (depth : Nat) : List Json → List Char
  | [] => newline depth ++ [']']
  | v :: vs => ',' :: (newline (depth + 1) ++ (prettyChars (depth + 1) v ++ prettyItems depth vs))

/-- The members after the first one, and the closing brace. -/
def prettyMembers (depth : Nat) : List (String × Json) → List Char
  | [] => newline depth ++ ['\x7d']
  | (k, v) :: ms =>
    ',' :: (newline (depth + 1) ++ (quote k.toList ++
      ':' :: ' ' :: (prettyChars (depth + 1) v ++ prettyMembers depth ms)))

end

/-- Writes a value over several lines. -/
def pretty (v : Json) : String :=
  String.ofList (prettyChars 0 v)

end MultiSigner.Json
