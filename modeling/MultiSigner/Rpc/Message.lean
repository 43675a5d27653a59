import MultiSigner.Error
import MultiSigner.Json.Decode
import MultiSigner.Json.Printer
/-!
# Bodies of requests and replies

A request holds the arguments of a command; a reply holds the lines that it reported, and its
failure if it failed.

## Contents

1. Requests.
2. Replies.
-/

namespace MultiSigner.Rpc

open Json (Draft Fault)

/-! ## 1. Requests -/

/-- The body of a request. -/
def requestJson (args : List String) : Json :=
  .object [("args", Json.strings args)]

/-- The arguments in the body of a request. -/
def decodeRequest : Draft → Except Fault (List String) :=
  Draft.toStructure [.mustBe "args" (Draft.toList Draft.toText) fun _ v => v] []

/-! ## 2. Replies -/

/-- The lines of a command, and the failure if it failed. -/
structure CommandReply where
  lines : List String := []
  failure : Option String := none
  deriving Repr, DecidableEq

/-- The body of a reply. -/
def CommandReply.json (r : CommandReply) : Json :=
  .object (Json.member "error" .string r.failure ++ [("output", Json.strings r.lines)])

/-- The lines in the body of a reply to a command that did not fail. -/
def decodeLines : Draft → Except Fault (List String) :=
  Draft.toStructure [.mustBe "output" (Draft.toList Draft.toText) fun _ v => v] []

/-- The body of a reply to a command that failed. -/
def decodeFailure : Draft → Except Fault CommandReply :=
  Draft.toStructure [
    .mustBe "error" Draft.toText fun r v => { r with failure := some v },
    .mayBe "output" (Draft.toList Draft.toText) fun r v => { r with lines := v }] {}

end MultiSigner.Rpc
