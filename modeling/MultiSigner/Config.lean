import MultiSigner.Error
import MultiSigner.Json.Decode
import MultiSigner.Net.Socket
/-!
# Configuration

What a process is told by its configuration file, which is JSON.  The interface for commands is not
protected by passwords, so it must not listen on a public address.
-/

namespace MultiSigner

/-- The settings of a process.  Times are in seconds. -/
structure Config where
  /-- The path of the state file. -/
  statePath : String
  /-- Where the daemon listens for commands. -/
  bind : Net.SocketAddress := ⟨.v4 ⟨127, 0, 0, 1⟩, 0, 7353⟩
  rpcTimeout : Nat := 120
  /-- The daemon that commands are sent to, instead of being run here. -/
  remote : Option Net.SocketAddress := none
  /-- The time between two steps of a group's automation. -/
  interval : Nat := 10
  /-- The longest time that an exchange with a name server may take. -/
  dnsTimeout : Nat := 30
  deriving Repr, DecidableEq

namespace Config

/-- The configuration with the given state file and nothing else set. -/
def ofStatePath (path : String) : Config := { statePath := path }

open Json (Draft Fault Field)

/-- An address with a port. -/
def decodeAddress : Draft → Except Fault Net.SocketAddress :=
  Draft.toTextVia Net.SocketAddress.ofString?

/-- A time in seconds. -/
def decodeSeconds : Draft → Except Fault Nat :=
  Draft.toNatBelow 0x10000000000000000

/-- Reads a configuration. -/
def decode : Draft → Except Fault Config :=
  Draft.toStructure [
    .mustBe "state_path" Draft.toText fun c v => { c with statePath := v },
    .mayBe "rpc_bind_addr" decodeAddress fun c v => { c with bind := v },
    .mayBe "rpc_timeout" decodeSeconds fun c v => { c with rpcTimeout := v },
    .mayBe "remote" (Draft.toOption decodeAddress) fun c v => { c with remote := v },
    .mayBe "automate_interval" decodeSeconds fun c v => { c with interval := v },
    .mayBe "dns_timeout" decodeSeconds fun c v => { c with dnsTimeout := v }] (ofStatePath "")

/-- Refuses configurations that listen on a public address. -/
def checkBind (c : Config) : Except Error Config :=
  if c.bind.ip.isProtected then .ok c else .error (.insecureBind c.bind.ip)

/-- The configuration that a file's text says; `none` stands for a file that can not be read. -/
def ofFile : Option String → Except Error Config
  | none => .error .io
  | some text =>
    match Draft.decodeText decode text with
    | .ok c => c.checkBind
    | .error _ => .error .invalidJson

end Config
end MultiSigner
