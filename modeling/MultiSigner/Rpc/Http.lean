import MultiSigner.Net.Socket
import MultiSigner.Rpc.Router
import MultiSigner.Rpc.Status
/-!
# Messages between the daemon and its clients

Requests and responses as bytes: a head of lines, an empty line, and a body whose length the head
tells.  Each connection is used for one request.

Main statement: `Http.splitHead?_append` (a head is cut off at the first empty line, and what comes
later does not matter).

## Contents

1. Heads.
2. Reading a message.
3. Requests.
4. Responses.
-/

namespace MultiSigner.Rpc.Http

/-! ## 1. Heads -/

/-- The head of a message: its first line and its fields, with their names in small letters. -/
structure Head where
  first : String
  fields : List (String × String)
  deriving Repr, DecidableEq

namespace Head

/-- The value of a field. -/
def field? (h : Head) (name : String) : Option String :=
  (h.fields.find? fun f => f.1 == name).map Prod.snd

/-- Reads a field. -/
def readField (line : String) : Option (String × String) :=
  match line.toList.span (· ≠ ':') with
  | (name, ':' :: value) =>
    some ((String.ofList name).toLower, (String.ofList value).trimAscii.toString)
  | _ => none

/-- Reads a head. -/
def ofText? (text : String) : Option Head :=
  match text.splitOn "\r\n" with
  | [] => none
  | first :: lines => (lines.mapM readField).map fun fields => ⟨first, fields⟩

/-- The bytes of a head with the empty line after it. -/
def bytes (h : Head) : List UInt8 :=
  let lines := h.first :: h.fields.map fun (name, value) => s!"{name}: {value}"
  (lines.foldr (fun line text => line ++ "\r\n" ++ text) "\r\n").toUTF8.toList

/-- The words of the first line. -/
def words (h : Head) : List String :=
  h.first.splitOn " "

end Head

/-! ## 2. Reading a message -/

/-- Cuts off everything up to the first empty line. -/
def splitHead? : List UInt8 → Option (List UInt8 × List UInt8)
  | [] => none
  | b :: rest =>
    if (b :: rest).take 4 = [13, 10, 13, 10] then some ([], rest.drop 3)
    else (splitHead? rest).map fun (head, body) => (b :: head, body)

/-- The text of some bytes. -/
def text? (bytes : List UInt8) : Option String :=
  String.fromUTF8? ⟨bytes.toArray⟩

/-- What became of the bytes that were received so far. -/
inductive Reading
  /-- There is more to come. -/
  | partly
  | refused
  | whole (head : Head) (body : List UInt8)
  deriving Repr, DecidableEq

/-- The length of the body that a head announces. -/
def bodyLength (h : Head) : Option Nat :=
  match h.field? "content-length" with
  | none => some 0
  | some s => Decimal.below? 0x100000000 s.toList

/-- Reads a message. -/
def read (bytes : List UInt8) : Reading :=
  match splitHead? bytes with
  | none => .partly
  | some (head, body) =>
    match (text? head).bind Head.ofText? with
    | none => .refused
    | some h =>
      match bodyLength h with
      | none => .refused
      | some length => if body.length < length then .partly else .whole h (body.take length)

theorem splitHead?_append {bytes head body : List UInt8} (more : List UInt8)
    (h : splitHead? bytes = some (head, body)) :
    splitHead? (bytes ++ more) = some (head, body ++ more) := by
  induction bytes generalizing head with
  | nil => cases h
  | cons b rest ih =>
    simp only [splitHead?] at h
    by_cases hb : (b :: rest).take 4 = [13, 10, 13, 10]
    · rw [if_pos hb] at h
      cases h
      have hl : 3 ≤ rest.length := by
        have := congrArg List.length hb
        simp only [List.length_take, List.length_cons, List.length_nil] at this
        omega
      have ht : (b :: rest ++ more).take 4 = [13, 10, 13, 10] := by
        rw [List.take_append_of_le_length (by simp only [List.length_cons]; omega), hb]
      simp only [List.cons_append] at ht ⊢
      simp only [splitHead?, if_pos ht, List.drop_append_of_le_length hl]
    · rw [if_neg hb] at h
      cases hs : splitHead? rest with
      | none => rw [hs] at h; cases h
      | some p =>
        rw [hs] at h
        cases h
        have hl : 4 ≤ (b :: rest).length := by
          revert hs
          match rest with
          | [] => intro hs; cases hs
          | [_] => intro hs; simp [splitHead?] at hs
          | [_, _] => intro hs; simp [splitHead?] at hs
          | _ :: _ :: _ :: _ => intro _; simp only [List.length_cons]; omega
        have ht : ¬ (b :: rest ++ more).take 4 = [13, 10, 13, 10] := by
          rw [List.take_append_of_le_length hl]
          exact hb
        simp only [List.cons_append] at ht ⊢
        simp only [splitHead?, if_neg ht, ih hs, Option.map_some]

/-! ## 3. Requests -/

/-- The bytes of a request to a host. -/
def requestBytes (host : String) (r : Request) : List UInt8 :=
  let body := r.body.toUTF8.toList
  let type := match r.contentType with
    | some t => [("content-type", t)]
    | none => []
  Head.bytes ⟨s!"{r.method} {r.path} HTTP/1.1",
    ("host", host) :: type ++ [("content-length", toString body.length)]⟩ ++ body

/-- Reads a request. -/
def request? (h : Head) (body : List UInt8) : Option Request :=
  match h.words, text? body with
  | [method, path, _], some content => some ⟨method, path, h.field? "content-type", content⟩
  | _, _ => none

/-! ## 4. Responses -/

/-- The bytes of a response. -/
def responseBytes (r : Response) : List UInt8 :=
  let body := r.body.content.toUTF8.toList
  let type := match r.contentType with
    | some t => [("content-type", t)]
    | none => []
  Head.bytes ⟨s!"HTTP/1.1 {r.status} {statusName r.status}",
    type ++ [("content-length", toString body.length), ("connection", "close")]⟩ ++ body

/-- The status of a response and its content. -/
def response? (h : Head) (body : List UInt8) : Option (Nat × String) :=
  match h.words, text? body with
  | _ :: status :: _, some content =>
    (Decimal.below? 1000 status.toList).map fun s => (s, content)
  | _, _ => none

end MultiSigner.Rpc.Http
