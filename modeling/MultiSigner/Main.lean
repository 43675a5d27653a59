import MultiSigner.CommandLine
import MultiSigner.Dialogue
import MultiSigner.Net.Endpoint
import MultiSigner.Rpc.Observer
import MultiSigner.Rpc.WebSocket
import MultiSigner.Wire.Signature
import Std.Async.DNS
import Std.Async.Signal
import Std.Async.TCP
import Std.Async.Timer
import Std.Sync.Mutex
import Std.Time
/-!
# The program

Files, the clock and the network.  What is read, sent and answered is decided elsewhere; here it is
carried out.

## Contents

1. Time and files.
2. Connections.
3. Name servers.
4. Carrying out operations.
5. The daemon.
6. Processes.
-/

namespace MultiSigner.Program

open Std.Async

/-! ## 1. Time and files -/

/-- The time. -/
def now : IO Timestamp := do
  return ⟨(← Std.Time.Timestamp.now).toNanosecondsSinceUnixEpoch.val, 0⟩

/-- Two random bytes as a number. -/
def randomId : IO UInt16 := do
  return UInt16.ofNat (Digest.numberOf (← IO.getRandomBytes 2).toList)

/-- What stands at a path. -/
def diskAt (path : String) : IO Disk := do
  try
    return .ofBytes (← IO.FS.readBinFile path).toList
  catch
    | .noFileOrDirectory _ _ _ => return .missing
    | _ => return .unusable

/-- The text of a file that can be read. -/
def readFile? (path : String) : IO (Option String) := do
  match ← diskAt path with
  | .file text => return some text
  | _ => return none

/-- Writes a whole file. -/
def writeFile (path text : String) : IO WriteOutcome := do
  try
    IO.FS.writeFile path text
    return .done
  catch _ => return .notCreated

/-- Opens the state file; a missing one is created. -/
def openStore (path : String) : IO (Except Error StateStore) := do
  let disk ← diskAt path
  let outcome ← match disk, StateStore.emptyText with
    | .missing, .ok text => writeFile path text
    | _, _ => pure .done
  return (StateStore.openDisk disk outcome).1

/-! ## 2. Connections -/

/-- An address as sockets take it. -/
def socketAddress (ip : Std.Net.IPAddr) (port : Nat) : Std.Net.SocketAddress :=
  match ip with
  | .v4 a => .v4 ⟨a, UInt16.ofNat port⟩
  | .v6 a => .v6 ⟨a, UInt16.ofNat port⟩

/-- An internet address as sockets take it. -/
def ipAddress : Net.IpAddress → Std.Net.IPAddr
  | .v4 ip => .v4 (.ofParts ip.a ip.b ip.c ip.d)
  | .v6 ip => .v6 ⟨ip.groups⟩

/-- The address of a server. -/
def resolve : Net.Endpoint → Async Std.Net.SocketAddress
  | .address a => return socketAddress (ipAddress a.ip) a.port
  | .host name port => do
    match (← DNS.getAddrInfo name "")[0]? with
    | some ip => return socketAddress ip port
    | none => throw (IO.userError "no address")

/-- Receives until `enough` of what came makes something, or until the other side ends. -/
partial def receive {α : Type} (client : TCP.Socket.Client) (enough : ByteArray → Option α)
    (sofar : ByteArray) : Async (Option α) := do
  match enough sofar with
  | some a => return some a
  | none =>
    match ← client.recv? 65536 with
    | some more => receive client enough (sofar ++ more)
    | none => return none

/-- Sends bytes to a server and receives until `enough` is there. -/
def exchange {α : Type} (endpoint : Net.Endpoint) (bytes : List UInt8)
    (enough : ByteArray → Option α) : Async (Except String α) := do
  try
    let client ← TCP.Socket.Client.mk
    client.connect (← resolve endpoint)
    client.send ⟨bytes.toArray⟩
    match ← receive client enough .empty with
    | some a => return .ok a
    | none => return .error "unexpected end of file"
  catch e => return .error e.toString

/-- Says what kind of failure it was. -/
def prefixing {α : Type} (kind : String) (action : Async (Except String α)) :
    Async (Except String α) := do
  return (← action).mapError (kind ++ ·)

/-- Gives up after a number of seconds. -/
def within {α : Type} (seconds : Nat) (late : String) (action : Async (Except String α)) :
    IO (Except String α) :=
  have : Inhabited (Except String α) := ⟨.error late⟩
  (Async.race action (do sleep (.ofNat (1000 * seconds)); return .error late)).block

/-! ## 3. Name servers -/

/-- The first message of those that have their length in front. -/
def firstMessage (bytes : ByteArray) : Option (Array UInt8) :=
  let length := 256 * (bytes.toList.headD 0).toNat + (bytes.toList.getD 1 0).toNat
  if bytes.size < 2 || bytes.size < 2 + length then none
  else some (bytes.extract 2 (2 + length)).data

/-- Sends a message to a name server and receives the response. -/
def talk (config : Config) (server : String) (message : List UInt8) :
    IO (Except String (Array UInt8)) :=
  match Net.Endpoint.ofString server with
  | .error fault => return .error fault.message
  | .ok endpoint => within config.dnsTimeout "timed out" (prefixing "io error: "
      (exchange endpoint (Digest.bytesOf 2 message.length ++ message) firstMessage))

/-- Asks a name server. -/
def askServer (config : Config) (server : String) (zone : DomainName) (kind : RecordKind) :
    IO (Except String Answer) := do
  let reply ← talk config server (Wire.query (← randomId) zone kind)
  return reply.bind fun bytes =>
    match Wire.Response.ofBytes? bytes with
    | some r => .ok (r.answer zone kind)
    | none => .error Wire.Signature.Fault.unreadable.message

/-- Sends a signed update to a name server. -/
def updateServer (config : Config) (server : String) (key : SigningKey) (m : UpdateMessage) :
    IO (Except String UpdateResponse) := do
  let id ← randomId
  let time := ((← now).nanos / Timestamp.second).toNat
  let signed := Wire.Signature.sign key time id (Wire.update id m)
  let reply ← talk config server signed.bytes
  return reply.bind fun bytes =>
    match Wire.Signature.verify key time signed.digest bytes with
    | .ok v => .ok ⟨⟨v.response.header.code⟩, v.text⟩
    | .error fault => .error fault.message

/-! ## 4. Operations -/

/-- Replies to a request. -/
def reply (config : Config) : OutsideRequest → IO OutsideReply
  | .query server zone kind => return .answer (← askServer config server zone kind)
  | .update server key m => return .response (← updateServer config server key m)
  | .write text => do
    match ← writeFile config.statePath text with
    | .done => return .written true
    | _ => return .written false

/-- Runs something on a dialogue until every request has its reply. -/
partial def converse {α : Type} (config : Config) (run : Dialogue → α × Dialogue) (start : Timestamp)
    (written : State) (replies : List (Timestamp × OutsideReply)) : IO (α × Dialogue) := do
  let (a, d) := run { clock := start, replies := replies, written := written }
  match d.unanswered with
  | none => return (a, d)
  | some request =>
    let answer ← reply config request
    converse config run start written (replies ++ [(← now, answer)])

/-- Runs something on a session. -/
def carryOut {α : Type} (config : Config)
    (f : Session Dialogue → α × Session Dialogue) (s : Session Dialogue) :
    IO (α × Session Dialogue) := do
  let run := fun d =>
    let (a, t) := f { s with world := d }
    ((a, t), t.world)
  return (← converse config run (← now) s.world.written []).1

/-! ## 5. The daemon -/

/-- What the connections and the clock of a daemon share. -/
structure Daemon where
  config : Config
  controller : Controller Dialogue
  shared : Std.Mutex (Session Dialogue × Rpc.Observer.Feed)

namespace Daemon

/-- Does something while nothing else is done. -/
def alone {α : Type} (d : Daemon) (f : Session Dialogue → α × Session Dialogue) : IO α :=
  d.shared.atomically do
    let (s, feed) ← get
    let (a, t) ← carryOut d.config f { s with transcript := .empty, events := [], deliveries := [] }
    set ({ t with scheduler := t.scheduler.settle }, feed.publish t.events)
    return a

/-- Lets a second pass, again and again. -/
partial def passTime (d : Daemon) : Async Unit := do
  sleep (.ofNat 1000)
  d.alone fun s => ((), d.controller.wakeDue { s with scheduler := s.scheduler.tick })
  passTime d

/-- Sends an observer what it has not seen, again and again. -/
partial def tellObserver (d : Daemon) (client : TCP.Socket.Client) (seen : Nat) : Async Unit := do
  let feed ← (d.shared.atomically do return (← get).2 : IO Rpc.Observer.Feed)
  for e in feed.since seen do
    client.send ⟨(Rpc.WebSocket.eventFrame e).toArray⟩
  sleep (.ofNat 100)
  tellObserver d client feed.count

/-- Tells an observer the status of all groups and then what happens. -/
def observe (d : Daemon) (client : TCP.Socket.Client) (key : String) : Async Unit := do
  client.send ⟨(Rpc.WebSocket.welcome key).bytes.toArray⟩
  let (current, seen) ← (d.shared.atomically do
    let (s, feed) ← get
    return (Controller.current s, feed.count) : IO (List Event × Nat))
  for e in current do
    client.send ⟨(Rpc.WebSocket.eventFrame e).toArray⟩
  tellObserver d client seen

/-- Answers a request. -/
def respond (d : Daemon) (head : Rpc.Http.Head) (body : List UInt8) : IO Rpc.Response :=
  match Rpc.Http.request? head body with
  | none =>
    return Rpc.failed Rpc.Refusal.broken.status Rpc.Refusal.broken.message []
  | some r => d.alone fun s => Rpc.handle d.controller r s

/-- Whether what came is a whole message, or can not become one. -/
def enough (bytes : ByteArray) : Option Rpc.Http.Reading :=
  match Rpc.Http.read bytes.toList with
  | .partly => none
  | r => some r

/-- Serves a connection. -/
def serve (d : Daemon) (client : TCP.Socket.Client) : Async Unit := do
  match ← receive client enough .empty with
  | some (.whole head body) =>
    match head.words with
    | [method, path, _] =>
      if Rpc.pathOnly path = Rpc.WebSocket.path then
        match Rpc.WebSocket.key method head with
        | .ok key => observe d client key
        | .error r => client.send ⟨(Rpc.Http.responseBytes r).toArray⟩
      else
        client.send ⟨(Rpc.Http.responseBytes (← d.respond head body)).toArray⟩
    | _ => pure ()
  | _ => pure ()
  client.shutdown

/-- Accepts connections, again and again. -/
partial def listen (d : Daemon) (server : TCP.Socket.Server) : Async Unit := do
  let client ← server.accept
  background (do try serve d client catch _ => pure ())
  listen d server

/-- Starts the automation of the groups that start with the daemon.  Requests may be answered after
it is read which they are, and after each of them. -/
def autostart (d : Daemon) : IO Unit := do
  for zone in ← d.alone fun s => (Controller.autostartZones s.state, s) do
    let _ ← d.alone (Controller.startOne zone)

/-- Runs until it is interrupted. -/
def run (d : Daemon) : IO (Except Error Unit) := do
  let server ← TCP.Socket.Server.mk
  server.bind (socketAddress (ipAddress d.config.bind.ip) d.config.bind.port)
  server.listen 128
  let interrupted ← Signal.Waiter.mk .sigint false
  let signal ← interrupted.wait
  let _ ← (listen d server).toIO
  d.autostart
  let _ ← (passTime d).toIO
  let _ ← signal.block
  d.alone d.controller.shutdown

end Daemon

/-! ## 6. Processes -/

/-- The session of a process that has opened its state file. -/
def session (config : Config) (store : StateStore) : IO (Session Dialogue) := do
  return CommandLine.session config store.state
    { clock := ← now, replies := [], written := store.saved }

/-- Runs a command on the state file. -/
def runOnce (config : Config) (args : List String) : IO Ending := do
  match ← openStore config.statePath with
  | .error e => return .ofResult [] (.error e)
  | .ok store =>
    let (result, s) ← carryOut config ((Controller.mk .once Dialogue.outside).execute args)
      (← session config store)
    return .ofResult s.transcript.lines result

/-- Runs the daemon. -/
def runDaemon (config : Config) : IO Ending := do
  match ← openStore config.statePath with
  | .error e => return .ofResult [] (.error e)
  | .ok store =>
    let shared ← Std.Mutex.new (← session config store, {})
    return .ofResult [] (← Daemon.run ⟨config, ⟨.daemon, Dialogue.outside⟩, shared⟩)

/-- A whole response. -/
def enoughResponse (bytes : ByteArray) : Option (Nat × String) :=
  match Rpc.Http.read bytes.toList with
  | .whole head body => Rpc.Http.response? head body
  | _ => none

/-- Sends a command to a daemon. -/
def forward (config : Config) (daemon : Net.SocketAddress) (args : List String) : IO Ending := do
  let bytes := Rpc.Http.requestBytes daemon.text (Rpc.Client.request args)
  let late := s!"no response from {daemon.text} within {config.rpcTimeout}s"
  let reply ← within config.rpcTimeout late (prefixing "error trying to connect: "
    (exchange (.address daemon) bytes enoughResponse))
  let (lines, result) := Rpc.Client.execute (fun _ => reply) args
  return .ofResult lines result

/-- Does what a process was started for. -/
def start (i : Invocation) : IO Ending := do
  let config ← match i.configPath? with
    | some path => pure (Config.ofFile (← readFile? path))
    | none => pure (.error .io)
  match i.assignment config with
  | .refuse message => return ⟨[], some message⟩
  | .forward config daemon args => forward config daemon args
  | .serve config => runDaemon config
  | .runOnce config args => runOnce config args

end MultiSigner.Program

open MultiSigner in
/-- Runs the program. -/
def main (args : List String) : IO UInt32 := do
  let ending ← Program.start ⟨"multisigner", args⟩
  IO.print ending.output
  if let some line := ending.errorLine then IO.eprintln line
  return UInt32.ofNat ending.status
