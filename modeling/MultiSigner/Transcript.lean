/-!
# Transcripts

The lines that a command reports, in order.  They are printed, or sent back to a remote caller.
-/

namespace MultiSigner

/-- Lines of human readable output. -/
structure Transcript where
  lines : List String := []
  deriving Repr, DecidableEq, Inhabited

namespace Transcript

/-- The transcript without lines. -/
def empty : Transcript := ⟨[]⟩

/-- Adds a line. -/
def line (t : Transcript) (s : String) : Transcript :=
  ⟨t.lines ++ [s]⟩

/-- Adds the lines of another transcript. -/
def append (t u : Transcript) : Transcript :=
  ⟨t.lines ++ u.lines⟩

/-- Whether a line stands in the transcript. -/
def contains (t : Transcript) (s : String) : Bool :=
  t.lines.contains s

/-- Whether there are no lines. -/
def isEmpty (t : Transcript) : Bool :=
  t.lines.isEmpty

/-- The text: every line and a line break after it. -/
def text (t : Transcript) : String :=
  t.lines.foldl (fun acc s => acc ++ s ++ "\n") ""

theorem lines_line (t : Transcript) (s : String) : (t.line s).lines = t.lines ++ [s] := rfl

theorem lines_append (t u : Transcript) : (t.append u).lines = t.lines ++ u.lines := rfl

end Transcript
end MultiSigner
