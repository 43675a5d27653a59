import MultiSigner.Net.Socket
/-!
# Where servers are

A server is named by a text with a host and a port, as it is stored for signers and parents.  The
host is an internet address or a name that has to be looked up.
-/

namespace MultiSigner.Net

/-- What stands before and after the last colon. -/
def splitAtLastColon (s : String) : Option (String × String) :=
  let reversed := s.toList.reverse
  match reversed.dropWhile (· ≠ ':') with
  | _ :: host =>
    some (String.ofList host.reverse, String.ofList (reversed.takeWhile (· ≠ ':')).reverse)
  | [] => none

/-- A server that can be connected to. -/
inductive Endpoint
  | address (a : SocketAddress)
  /-- A name that has to be looked up, and a port. -/
  | host (name : String) (port : Nat)
  deriving Repr, DecidableEq

/-- Why a text names no server. -/
inductive EndpointFault
  | noPort
  | badPort
  | zeroInName
  deriving Repr, DecidableEq

namespace EndpointFault

/-- The wording of a fault. -/
def message : EndpointFault → String
  | noPort => "invalid socket address"
  | badPort => "invalid port value"
  | zeroInName => "file name contained an unexpected NUL byte"

end EndpointFault

/-- The server that a text names. -/
def Endpoint.ofString (s : String) : Except EndpointFault Endpoint :=
  match SocketAddress.ofString? s with
  | some a => .ok (.address a)
  | none =>
    match splitAtLastColon s with
    | none => .error .noPort
    | some (name, port) =>
      match Decimal.below? 65536 port.toList with
      | none => .error .badPort
      | some p => if name.toList.contains '\x00' then .error .zeroInName else .ok (.host name p)

end MultiSigner.Net
