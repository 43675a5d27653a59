import MultiSigner.Operation.Push
/-!
# Asking the parent to take over name servers

A CSYNC record at every signer tells the parent that the name servers changed.  It holds the serial
number of the zone at that signer.
-/

namespace MultiSigner.Sync.DelegationRequest

open Operation

variable {ω : Type}

/-- The serial number in the first SOA record of an answer. -/
def serial? (a : Answer) : Option UInt32 :=
  a.records.findSome? fun r =>
    match r.data with
    | .soa serial => some serial
    | _ => none

/-- Asks a signer for its serial number. -/
def serial (zone : DomainName) (m : Member) : Operation ω UInt32 := do
  checkAddress m
  match serial? (← query m.signer.address zone .soa) with
  | some n => return n
  | none => throw (.transport m.signer.address "no SOA in answer")

/-- The changes for a signer. -/
def plan (ttl : UInt32) (m : Member) (serial : UInt32) : Plan where
  member := m
  changes := { inserts := [⟨ttl, .csync (.delegation serial)⟩] }
  applied := [s!"  Added CSYNC to {m.name}"]

/-- Publishes the request at every signer of a group. -/
def run (zone : DomainName) : Operation ω Unit := do
  let members ← groupMembers zone
  let g ← (← state).group zone
  let plans ← members.mapM fun m => do
    let n ← serial zone m
    line s!"{m.name}: SOA serial {n}"
    return plan g.ttl m n
  Push.push zone plans

/-- Takes the request out at every signer of a group. -/
def remove (zone : DomainName) : Operation ω Unit := do
  let members ← groupMembers zone
  Push.push zone (members.map fun m =>
    ⟨m, { removeKinds := [.csync] }, [s!"  Removed CSYNC from {m.name}"]⟩)

end MultiSigner.Sync.DelegationRequest
