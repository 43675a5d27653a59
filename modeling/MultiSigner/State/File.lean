import MultiSigner.State.Document
import MultiSigner.State.Same
/-!
# State files

A state file is read once, and written whenever the state says something that the file does not.
Writing first empties the file.  `Disk` is what stands at the path, `WriteOutcome` how far a write
gets; the functions here tell what a store makes of either.

A write may stop anywhere, also within a character; then the bytes that arrived are no text.

Main statement: `Disk.ofBytes_firstBytes` (a text of which all bytes arrive is there).

## Contents

1. Files and writes.
2. Stores.
3. Opening and saving.
-/

namespace MultiSigner

/-! ## 1. Files and writes -/

/-- What stands at the path of a state file. -/
inductive Disk
  | missing
  | file (text : String)
  /-- A file of bytes that are no text. -/
  | garbled (bytes : List UInt8)
  /-- A directory, or a path that leads through a file: nothing can be read or written. -/
  | unusable
  deriving Repr, DecidableEq

/-- How far a write gets. -/
inductive WriteOutcome
  | done
  | notCreated
  /-- Only the first bytes arrive. -/
  | notWritten (count : Nat)
  /-- Everything is handed over, but only the first bytes arrive before it fails. -/
  | notFlushed (count : Nat)
  deriving Repr, DecidableEq

namespace Disk

/-- A file with the given bytes. -/
def ofBytes (bytes : List UInt8) : Disk :=
  match String.fromUTF8? ⟨bytes.toArray⟩ with
  | some text => file text
  | none => garbled bytes

theorem ofBytes_ne_unusable (bytes : List UInt8) : ofBytes bytes ≠ unusable := by
  unfold ofBytes
  split <;> exact nofun

/-- The first bytes of a text. -/
def firstBytes (count : Nat) (text : String) : List UInt8 :=
  text.toUTF8.data.toList.take count

/-- Writes a whole file; tells whether that worked. -/
def write (d : Disk) (outcome : WriteOutcome) (text : String) : Bool × Disk :=
  match d, outcome with
  | unusable, _ => (false, unusable)
  | d, .notCreated => (false, d)
  | _, .notWritten count => (false, ofBytes (firstBytes count text))
  | _, .notFlushed count => (false, ofBytes (firstBytes count text))
  | _, .done => (true, file text)

/-- Where all bytes of a text arrive, the text is there. -/
theorem ofBytes_firstBytes {count : Nat} {text : String} (h : text.utf8ByteSize ≤ count) :
    ofBytes (firstBytes count text) = file text := by
  have hall : firstBytes count text = text.toUTF8.data.toList := List.take_of_length_le h
  have hread : String.fromUTF8? text.toUTF8 = some text := dif_pos text.isValidUTF8
  rw [hall, ofBytes, Array.toArray_toList, hread]

end Disk

/-! ## 2. Stores -/

/-- A state, and the one that its file holds. -/
structure StateStore where
  state : State
  saved : State
  deriving Inhabited

namespace StateStore

/-- The text that has to be written, if the state says something new. -/
def pending (s : StateStore) : Except Error (Option String) :=
  if s.state.same s.saved then .ok none
  else some <$> s.state.documentText

/-- The store after its state was written. -/
def confirmed (s : StateStore) : StateStore :=
  { s with saved := s.state }

/-- The store of a file with the given text. -/
def ofText (text : String) : Except Error StateStore := do
  let s ← State.ofDocumentText text
  return ⟨s, s⟩

/-! ## 3. Opening and saving -/

/-- The text of a file that says nothing. -/
def emptyText : Except Error String :=
  State.empty.documentText

/-- Opens the store of a file; a missing file is created.  Bytes that are no text are no document. -/
def openDisk (d : Disk) (outcome : WriteOutcome) : Except Error StateStore × Disk :=
  match d with
  | .unusable => (.error .io, d)
  | .garbled _ => (.error .invalidJson, d)
  | .file text => (ofText text, d)
  | .missing =>
    match emptyText with
    | .error e => (.error e, d)
    | .ok text =>
      match d.write outcome text with
      | (true, d) => (ofText text, d)
      | (false, d) => (.error .io, d)

/-- Saves the state, if it says something new. -/
def saveDisk (s : StateStore) (d : Disk) (outcome : WriteOutcome) :
    Except Error Unit × StateStore × Disk :=
  match s.pending with
  | .error e => (.error e, s, d)
  | .ok none => (.ok (), s, d)
  | .ok (some text) =>
    match d.write outcome text with
    | (true, d) => (.ok (), s.confirmed, d)
    | (false, d) => (.error .io, s, d)

end StateStore
end MultiSigner
