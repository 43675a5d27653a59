/-!
# What is in sync

The five questions that the status of a group answers, and the answers of the last time.
-/

namespace MultiSigner

/-- One of the five questions. -/
inductive SyncFlag
  | dnskeys
  | cds
  | parentDs
  | ns
  | parentNs
  deriving Repr, DecidableEq

/-- Every question, in the order in which they are reported. -/
def SyncFlag.all : List SyncFlag :=
  [dnskeys, cds, parentDs, ns, parentNs]

/-- How a question is called in reports and keys. -/
def SyncFlag.name : SyncFlag → String
  | dnskeys => "dnskeys"
  | cds => "cdscdnskeys"
  | parentDs => "parent-ds"
  | ns => "nses"
  | parentNs => "parent-ns"

/-- The answers for a group. -/
structure SyncFlags where
  dnskeys : Bool := false
  cds : Bool := false
  parentDs : Bool := false
  ns : Bool := false
  parentNs : Bool := false
  deriving Repr, DecidableEq, Inhabited

/-- All answers are no. -/
def SyncFlags.none : SyncFlags := {}

/-- The answer to one question. -/
def SyncFlags.get (f : SyncFlags) : SyncFlag → Bool
  | .dnskeys => f.dnskeys
  | .cds => f.cds
  | .parentDs => f.parentDs
  | .ns => f.ns
  | .parentNs => f.parentNs

end MultiSigner
