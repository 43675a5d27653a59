/-
# Commands for a daemon elsewhere

A command that is sent to a daemon takes a long way: its arguments are written as a request and read
again, its lines and its failure are written as a reply and read again, and the status of the reply
decides as what it is read.  None of this shows (`Client.agrees_with_local`): the caller gets the
lines that the command would have added, and a failure with the wording that it would have had, and
the daemon's session is what it would have left.

* `decodeRequest_requestJson`, `decodeLines_json`, `decodeFailure_json`: both directions of what is
  sent, each for all texts.
* `not_success_failureStatus`: no failure has the status of a success, so no reply is taken for one
  of the other kind (`Client.interpret_respond`).
* `Client.executeAt_eq`: what is left is the command itself, where nothing was reported before it.
-/
import MultiSigner.Proofs.Saving.Shapes
import MultiSigner.Proofs.Transcripts
import MultiSigner.Rpc.Client

namespace MultiSigner.Rpc

open Json (Draft Fits Field draft)
open Json.Draft (readSlots toStructure_slots toList_strings)

variable {ω : Type}

/-! ## 1. What is sent is read back -/

theorem fits_requestJson (args : List String) : Fits (requestJson args) := by
  refine .object fun m hm => ?_
  rw [List.mem_singleton.1 hm]
  exact Json.fits_strings args

/-- **Arguments are read back**, whatever texts they are. -/
theorem decodeRequest_requestJson (args : List String) :
    decodeRequest (draft (requestJson args)) = .ok args := by
  refine toStructure_slots [some (draft (Json.strings args))] (by decide) rfl ?_
  simp only [readSlots, Field.mustBe, toList_strings]
  rfl

theorem fits_json (r : CommandReply) : Fits r.json := by
  refine .object fun m hm => ?_
  rcases List.mem_append.1 hm with hm | hm
  · exact Json.fits_member "error" r.failure m hm
  · rw [List.mem_singleton.1 hm]
    exact Json.fits_strings r.lines

/-- **Lines are read back** from the reply to a command that did not fail. -/
theorem decodeLines_json (lines : List String) :
    decodeLines (draft (CommandReply.json ⟨lines, none⟩)) = .ok lines := by
  refine toStructure_slots [some (draft (Json.strings lines))] (by decide) rfl ?_
  simp only [readSlots, Field.mustBe, toList_strings]
  rfl

/-- **A failure is read back** with the lines that were reported before it. -/
theorem decodeFailure_json (lines : List String) (failure : String) :
    decodeFailure (draft (CommandReply.json ⟨lines, some failure⟩))
      = .ok ⟨lines, some failure⟩ := by
  refine toStructure_slots [some (.string (some failure)), some (draft (Json.strings lines))]
    (by decide) rfl ?_
  simp only [readSlots, Field.mustBe, Field.mayBe, toList_strings]
  rfl

/-! ## 2. The status of a reply -/

/-- **No failure has the status of a success.** -/
theorem not_success_failureStatus (e : Error) :
    ¬ (200 ≤ failureStatus e ∧ failureStatus e < 300) := by
  have hfailure : 300 ≤ failureStatus e := by
    unfold failureStatus
    split
    case h_8 =>
      generalize e.kind = kind
      cases kind <;> decide
    all_goals decide
  omega

/-- **A reply says how the command went**: its lines, and the wording of its failure. -/
theorem Client.interpret_respond (lines : List String) (result : Except Error Unit) :
    Client.interpret (respond lines result).status (respond lines result).body.content
      = (lines, result.mapError fun e => .remote e.message) := by
  cases result with
  | ok _ =>
    show Client.interpret 200 (CommandReply.json ⟨lines, none⟩).compact = _
    rw [Client.interpret, if_pos (by decide), Draft.decodeText_compact _ (fits_json _),
      decodeLines_json]
    rfl
  | error e =>
    show Client.interpret (failureStatus e) (CommandReply.json ⟨lines, some e.message⟩).compact = _
    rw [Client.interpret, if_neg (not_success_failureStatus e),
      Draft.decodeText_compact _ (fits_json _), decodeFailure_json]
    rfl

/-! ## 3. The exchange -/

namespace Client

variable {args : List String}

/-- The daemon takes the arguments from a request that is not too long. -/
theorem readArguments_request (hbody : (request args).body.utf8ByteSize ≤ bodyLimit) :
    readArguments (request args) = .ok args := by
  have hjson : MediaType.saysJson (request args).contentType = true :=
    (by decide : MediaType.saysJson (some "application/json") = true)
  rw [readArguments, hjson, Bool.not_true, if_neg Bool.false_ne_true, if_neg (Nat.not_lt.2 hbody)]
  rw [request, Draft.ofText_compact (fits_requestJson args), decodeRequest_requestJson]

theorem handle_request (c : Controller ω) (args : List String) (s : Session ω) :
    handle c (request args) s = command c (request args) s := by
  have hpath : pathOnly (request args).path = "/command" :=
    (by decide : pathOnly "/command" = "/command")
  rw [handle, hpath]
  exact if_pos rfl

/-- What is sent to a daemon is run where nothing was reported before. -/
theorem executeAt_eq (c : Controller ω) (s : Session ω) (hcommand : args.head? ≠ some daemonCommand)
    (hbody : (request args).body.utf8ByteSize ≤ bodyLimit) :
    executeAt c args s
      = (((c.execute args { s with transcript := .empty }).2.transcript.lines,
          (c.execute args { s with transcript := .empty }).1.mapError fun e => .remote e.message),
        (c.execute args { s with transcript := .empty }).2) := by
  rw [executeAt, handle_request, command, readArguments_request hbody]
  simp only [runArguments, if_neg hcommand, interpret_respond]

/-- **A command does the same elsewhere.**  Sent to a daemon, in a request that is not too long, it
adds the lines that it adds there, it fails if and only if it fails there, with the wording that its
failure has there, and it leaves what it leaves there; only what was reported before stays with the
one who reported it. -/
theorem agrees_with_local (c : Controller ω) (args : List String) (s : Session ω)
    (hcommand : args.head? ≠ some daemonCommand)
    (hbody : (request args).body.utf8ByteSize ≤ bodyLimit) :
    ∃ lines, (c.execute args s).2.transcript.lines = s.transcript.lines ++ lines ∧
      executeAt c args s = ((lines, (c.execute args s).1.mapError fun e => .remote e.message),
        { (c.execute args s).2 with transcript := ⟨lines⟩ }) := by
  refine ⟨(c.execute args { s with transcript := .empty }).2.transcript.lines, ?_, ?_⟩
  · rw [c.execute_eq args s]
    rfl
  · rw [executeAt_eq c s hcommand hbody, c.execute_eq args s]
    rfl

end Client

end MultiSigner.Rpc

namespace MultiSigner.Sample

open Rpc

/-- A group whose parent is not known. -/
def parentless : State :=
  document.modifyGroup zone fun g => { g with parent := "" }

/-- The command asks both signers before it finds out that there is no parent to ask. -/
theorem agrees_with_local_on_parentless :
    let args := ["wait-ds", "x."]
    let s := { session parentless 0 with transcript := ⟨["before"]⟩ }
    args.head? ≠ some daemonCommand ∧
      (Client.request args).body.utf8ByteSize ≤ bodyLimit ∧
      (controller.execute args s).1 = .error (.missingAddress "parent of x.") ∧
      (controller.execute args s).2.transcript.lines = ["before", "a: DNSKEY 256 3 8 AQ== ttl 60",
        "b: DNSKEY 256 3 8 AQ== ttl 60"] ∧
      ∃ lines, (controller.execute args s).2.transcript.lines = s.transcript.lines ++ lines ∧
        Client.executeAt controller args s
          = ((lines, (controller.execute args s).1.mapError fun e => .remote e.message),
            { (controller.execute args s).2 with transcript := ⟨lines⟩ }) := by
  intro args s
  have hcommand : args.head? ≠ some daemonCommand := by decide
  have hbody : (Client.request args).body.utf8ByteSize ≤ bodyLimit := by decide +kernel
  exact ⟨hcommand, hbody, by decide +kernel, by decide +kernel,
    Client.agrees_with_local controller args s hcommand hbody⟩

end MultiSigner.Sample
