/-!
# Packed tables

Character properties are step functions: a list of places where the value changes.  A table holds
such a list as rows of hexadecimal digits, each row a number that is read from the left.  An entry
is a key followed by the value that holds from that key on.  Rows are filled up with keys that are
greater than any that is looked up.

## Contents

1. Tables of keys and values.
2. Plain sequences.
-/

namespace MultiSigner.Unicode

/-! ## 1. Keys and values -/

/-- Rows of entries, in the order of their keys. -/
structure PackedTable where
  keyDigits : Nat
  valueDigits : Nat
  entriesPerRow : Nat
  rows : List Nat

namespace PackedTable

/-- The bits that an entry takes. -/
def entryBits (t : PackedTable) : Nat :=
  4 * (t.keyDigits + t.valueDigits)

/-- The entry at a place counted from the right end of a row. -/
def entryAt (t : PackedTable) (row place : Nat) : Nat × Nat :=
  let entry := (row >>> (t.entryBits * place)) % (1 <<< t.entryBits)
  (entry >>> (4 * t.valueDigits), entry % (1 <<< (4 * t.valueDigits)))

/-- The key that a row starts with. -/
def rowKey (t : PackedTable) (row : Nat) : Nat :=
  (t.entryAt row (t.entriesPerRow - 1)).1

/-- The last row that starts at or before a key; `best` is the last one that was seen. -/
def findRow (t : PackedTable) (key : Nat) : Option Nat → List Nat → Option Nat
  | best, [] => best
  | best, row :: rows => if key < t.rowKey row then best else t.findRow key (some row) rows

/-- The rightmost entry at or before a key, among the places from `place` on; `count` places are
left. -/
def findEntry (t : PackedTable) (key row : Nat) : Nat → Nat → Option (Nat × Nat)
  | 0, _ => none
  | count + 1, place =>
    let entry := t.entryAt row place
    if key < entry.1 then t.findEntry key row count (place + 1) else some entry

/-- The last entry at or before a key. -/
def floor? (t : PackedTable) (key : Nat) : Option (Nat × Nat) :=
  (t.findRow key none t.rows).bind fun row => t.findEntry key row t.entriesPerRow 0

/-- The value that holds at a key; before the first entry it is zero. -/
def value (t : PackedTable) (key : Nat) : Nat :=
  match t.floor? key with
  | some (_, v) => v
  | none => 0

/-- The value of the entry with just this key. -/
def valueAt? (t : PackedTable) (key : Nat) : Option Nat :=
  match t.floor? key with
  | some (k, v) => if k = key then some v else none
  | none => none

end PackedTable

/-! ## 2. Sequences -/

/-- Rows of values. -/
structure PackedSequence where
  valueDigits : Nat
  valuesPerRow : Nat
  rows : List Nat

namespace PackedSequence

/-- The value at an index. -/
def get (s : PackedSequence) (i : Nat) : Nat :=
  let row := s.rows.getD (i / s.valuesPerRow) 0
  let place := s.valuesPerRow - 1 - i % s.valuesPerRow
  (row >>> (4 * s.valueDigits * place)) % (1 <<< (4 * s.valueDigits))

/-- The values at `count` indices from `start` on. -/
def slice (s : PackedSequence) (start count : Nat) : List Nat :=
  (List.range count).map fun i => s.get (start + i)

end PackedSequence
end MultiSigner.Unicode
