import MultiSigner.Evaluation
import MultiSigner.Operation.Observe
/-!
# The status of a group

All signers and the parent are asked for what they serve, and the flags of the group are worked out
from the answers.  The flags are cleared before the first question, so that none of them outlives
a failure.
-/

namespace MultiSigner.Status

open Operation

variable {ω : Type}

/-- What a signer was found to serve. -/
def describe (origins : OrderedMap String String) (v : SignerView) : List String :=
  v.dnskeys.map (fun k =>
    s!"{v.name}: found DNSKEY {k.text}"
      ++ ((origins.get? k.fingerprint).map fun origin => s!" (origin: {origin})").getD "")
  ++ v.cds.map (fun d => s!"{v.name}: found CDS {d.text}")
  ++ v.cdnskeys.map (fun k => s!"{v.name}: found CDNSKEY {k.text}")
  ++ v.ns.map fun n => s!"{v.name}: found NS {n}"

/-- The document with other flags for a group. -/
def withFlags (zone : DomainName) (f : SyncFlags) (s : State) : State :=
  s.modifyGroup zone fun g => { g with synced := f }

/-- What the status asks a signer for. -/
def signerKinds : List RecordKind := [.dnskey, .cds, .cdnskey, .ns]

/-- What the status asks the parent for. -/
def parentKinds : List RecordKind := [.ds, .ns]

/-- Works out the flags of a group, and stores them. -/
def check (zone : DomainName) : Operation ω SyncFlags := do
  let members ← groupMembers zone
  modifyState (withFlags zone .none)
  let views ← members.mapM fun m => do
    let v ← observeSigner zone signerKinds m
    lines (describe (← state).dnskeyOrigin v)
    return v
  let parent ← observeParent zone parentKinds
  let e := Evaluation.ofViews zone views parent (← state).dnskeyOrigin
  lines e.lines
  let flags ← e.flags
  modifyState (withFlags zone flags)
  return flags

end MultiSigner.Status
