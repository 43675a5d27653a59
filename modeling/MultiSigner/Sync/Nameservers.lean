import MultiSigner.Evaluation
import MultiSigner.Operation.Push
/-!
# Bringing the name servers of signers in line

Every signer serves the same set of names: all that are served now and those of the signers that
stay, without those of the signers that are leaving.  A name keeps the time to live of the first
signer that serves it; a new one gets that of the group.

## Contents

1. Origins.
2. The names to serve.
3. Plans and lines.
4. The operation.
-/

namespace MultiSigner.Sync.Nameservers

open Operation
open SignerView (staying)
open Evaluation (isOneOf leavingNames)

variable {ω : Type}

/-! ## 1. Origins -/

/-- Notes where the names of a signer were seen, unless they are known. -/
def recordOrigins (s : State) (v : SignerView) : State :=
  v.ns.foldl (fun s n => (s.recordNsOrigin n v.name).2) s

/-! ## 2. The names to serve -/

/-- Gives a name a time to live unless it has one. -/
def addTtl (m : OrderedMap DomainName UInt32) (n : DomainName) (ttl : UInt32) :
    OrderedMap DomainName UInt32 :=
  if m.contains n then m else m.insert n ttl

/-- The names that signers serve or stay under, with their times to live. -/
def candidates (views : List SignerView) (ttl : UInt32) : OrderedMap DomainName UInt32 :=
  let served := views.foldl (fun m v => v.ns.foldl (fun m n => addTtl m n v.nsTtl) m) .empty
  (staying views).foldl (fun m v => addTtl m v.nameserver ttl) served

/-- The names that every signer should serve. -/
def desired (views : List SignerView) (ttl : UInt32) : OrderedMap DomainName UInt32 :=
  (candidates views ttl).filter fun n _ => !isOneOf (leavingNames views) n

/-! ## 3. Plans -/

/-- The names of leaving signers that a signer serves. -/
def withdrawn (views : List SignerView) (v : SignerView) : List DomainName :=
  v.ns.filter (isOneOf (leavingNames views))

/-- The changes for a signer. -/
def plan (views : List SignerView) (ttl : UInt32) (v : SignerView) : Plan where
  member := v.member
  changes := {
    inserts := ((desired views ttl).entries.filter fun (n, _) => !isOneOf v.ns n).map
      fun (n, t) => ⟨t, .ns n⟩
    removes := (withdrawn views v).map fun n => ⟨v.nsTtl, .ns n⟩ }
  applied := [s!"  Add/rem'ed NSes to {v.name}"]

/-- What is reported about the names that are taken out. -/
def withdrawalLines (views : List SignerView) : List String :=
  views.flatMap fun v => (withdrawn views v).map fun n =>
    s!"removing {n} from {v.name}, leaving signer"

/-! ## 4. The operation -/

/-- Brings the name servers of a group's signers in line. -/
def run (zone : DomainName) : Operation ω Unit := do
  let views ← observeGroup zone [.ns]
  let g ← (← state).group zone
  modifyState fun s => views.foldl recordOrigins s
  lines (withdrawalLines views)
  Push.push zone (views.map (plan views g.ttl))

end MultiSigner.Sync.Nameservers
