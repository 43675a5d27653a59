import MultiSigner.Net.Ip
/-!
# Addresses with ports

An internet address and a port, as it stands in a configuration file.
-/

namespace MultiSigner.Net

/-- An address to listen on or to connect to; addresses of version 6 may name a zone. -/
structure SocketAddress where
  ip : IpAddress
  scope : Nat
  port : Nat
  deriving Repr, DecidableEq

namespace SocketAddress

/-- Takes an address of version 4 and a port. -/
def readV4 : Reader SocketAddress := do
  let ip ← Ipv4.read
  Reader.char ':'
  return ⟨.v4 ip, 0, ← Reader.below 65536⟩

/-- Takes an address of version 6 in brackets, and a port. -/
def readV6 : Reader SocketAddress := do
  Reader.char '['
  let ip ← Ipv6.read
  let scope ← (do Reader.char '%'; Reader.below 0x100000000) <|> pure 0
  Reader.char ']'
  Reader.char ':'
  return ⟨.v6 ip, scope, ← Reader.below 65536⟩

/-- The address that a text denotes. -/
def ofString? (s : String) : Option SocketAddress :=
  (readV4 <|> readV6).whole s

/-- How an address and its port are written. -/
def text (a : SocketAddress) : String :=
  match a.ip with
  | .v4 ip => s!"{ip.text}:{a.port}"
  | .v6 ip =>
    if a.scope = 0 then s!"[{ip.text}]:{a.port}"
    else "[" ++ ip.text ++ "%" ++ toString a.scope ++ "]:" ++ toString a.port

end SocketAddress
end MultiSigner.Net
