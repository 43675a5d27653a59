import MultiSigner.Error
import MultiSigner.Net.Endpoint
import MultiSigner.Text.Decimal
/-!
# Addresses of servers

Servers are stored as host and port with a colon between them; addresses of version 6 stand in
brackets.  An operator may leave out the port, which then is that of name servers.
-/

namespace MultiSigner.Command

/-- The port of name servers. -/
def defaultPort : Nat := 53

/-- Reads a port. -/
def parsePort (s : String) : Except Error Nat :=
  match Decimal.below? 65536 s.toList with
  | some n => .ok n
  | none => .error (.invalidArgument "port" s)

/-- The host part of an address. -/
def hostText (host : String) : String :=
  match Net.IpAddress.ofString? host with
  | some (.v6 ip) => s!"[{ip.text}]"
  | _ => host

/-- The address of a host and perhaps a port. -/
def serverAddress (host : String) (port : Option String) : Except Error String := do
  let port ← match port with
    | some s => parsePort s
    | none => .ok defaultPort
  if host.isEmpty then throw (.invalidArgument "address" "")
  return s!"{hostText host}:{port}"

/-- The address of a signer, which may be given with its port. -/
def signerAddress (s : String) : Except Error String :=
  if (Net.SocketAddress.ofString? s).isSome then .ok s
  else if (Net.IpAddress.ofString? s).isSome then serverAddress s none
  else
    match Net.splitAtLastColon s with
    | some (host, port) => serverAddress host (some port)
    | none => serverAddress s none

end MultiSigner.Command
