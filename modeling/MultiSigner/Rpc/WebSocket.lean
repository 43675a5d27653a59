import MultiSigner.Digest.Sha1
import MultiSigner.Rpc.Http
/-!
# Connections of observers

An observer asks for a connection to be kept open.  The daemon shows that it understood by a digest
of the observer's key, and then sends every event as a frame of text.

## Contents

1. Requests.
2. Frames.
-/

namespace MultiSigner.Rpc.WebSocket

/-! ## 1. Requests -/

/-- The path of observers. -/
def path : String := "/ws"

/-- Whether a field is the given word, or holds it among others. -/
def mentions (h : Http.Head) (field word : String) : Bool :=
  match h.field? field with
  | some value => ((value.toLower.splitOn ",").map fun w => w.trimAscii.toString).contains word
  | none => false

/-- The key of an observer, or how its request is answered. -/
def key (method : String) (h : Http.Head) : Except Response String :=
  if method ≠ "GET" || !mentions h "connection" "upgrade" then .error (getOnly method (noUpgrade method))
  else if !mentions h "upgrade" "websocket" then
    .error (.ofText 400 "`Upgrade` header did not include 'websocket'")
  else if !mentions h "sec-websocket-version" "13" then
    .error (.ofText 400 "`Sec-WebSocket-Version` header did not include '13'")
  else
    match h.field? "sec-websocket-key" with
    | some k => .ok k
    | none => .error (.ofText 400 "`Sec-WebSocket-Key` header missing")

/-- What is digested with the key. -/
def salt : String := "258EAFA5-E914-47DA-95CA-C5AB0DC85B11"

/-- What shows that a key was understood. -/
def proofOf (key : String) : String :=
  Base64.encodeString (Digest.Sha1.digest (key ++ salt).toUTF8.toList)

/-- The head that keeps the connection open. -/
def welcome (key : String) : Http.Head :=
  ⟨"HTTP/1.1 101 Switching Protocols", [("connection", "upgrade"), ("upgrade", "websocket"),
    ("sec-websocket-accept", proofOf key)]⟩

/-! ## 2. Frames -/

/-- The length of a frame's content. -/
def lengthBytes (n : Nat) : List UInt8 :=
  if n < 126 then [UInt8.ofNat n]
  else if n < 0x10000 then 126 :: Digest.bytesOf 2 n
  else 127 :: Digest.bytesOf 8 n

/-- A frame of text. -/
def textFrame (text : String) : List UInt8 :=
  let content := text.toUTF8.toList
  0x81 :: lengthBytes content.length ++ content

/-- The frame of an event. -/
def eventFrame (e : Event) : List UInt8 :=
  textFrame e.json.compact

end MultiSigner.Rpc.WebSocket
