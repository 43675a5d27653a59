import MultiSigner.Json.Value
import MultiSigner.State.Basic
/-!
# Events

What observers of the daemon are told: lines of a log, the status of a group, and that a signer is
gone.
-/

namespace MultiSigner

/-- News for observers. -/
inductive Event
  | log (line : String)
  /-- The stage of a group and its signers, each with whether it is leaving. -/
  | status (zone : DomainName) (stage : Stage) (signers : List (String × Bool))
  /-- A signer was removed from its group. -/
  | left (zone : DomainName) (signer : String)
  deriving Repr, DecidableEq

namespace Event

/-- The form in which events are sent. -/
def json : Event → Json
  | log line => .object [("log", .string line)]
  | status zone stage signers => .object [("fqdn", .string zone.display),
      ("stage", .string stage.name),
      ("signers", .array (signers.map fun (name, leaving) =>
        .object [("name", .string name), ("leaving", .bool leaving)]))]
  | left zone signer => .object [("fqdn", .string zone.display), ("left", .string signer)]

/-- The status of a group, under the name by which it was asked for. -/
def status? (s : State) (zone : DomainName) : Option Event :=
  (s.groups.get? zone).map fun g =>
    status zone g.stage (g.signers.map fun name =>
      (name, (s.signers.get? name).any Signer.leaving))

/-- The status of every group. -/
def statuses (s : State) : List Event :=
  s.groups.keys.filterMap (status? s)

end Event
end MultiSigner
