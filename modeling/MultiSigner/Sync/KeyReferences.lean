import MultiSigner.Operation.Push
import MultiSigner.Record.Ds
/-!
# Asking the parent to refer to keys

The CDS and CDNSKEY records of a zone tell its parent which keys to refer to.  Every signer that
stays publishes those of all signers that stay, in place of what it had before; when the parent has
taken them over, they are taken out again.

## Contents

1. Keys to refer to.
2. Publishing.
3. Taking out.
-/

namespace MultiSigner.Sync.KeyReferences

open Operation
open SignerView (staying)

variable {ω : Type}

/-! ## 1. Keys to refer to -/

/-- A key that the parent should refer to, and the signer that has it first. -/
structure Source where
  view : SignerView
  key : Dnskey

/-- The keys that the parent should refer to, each one once. -/
def sources (views : List SignerView) : List Source :=
  ((staying views).flatMap fun v => v.keySigningKeys.map fun k => ⟨v, k⟩).foldl
    (fun found s => if found.any fun f => f.key == s.key then found else found ++ [s]) []

/-- The records that ask for a reference to a key, and the line that tells of them. -/
structure Request where
  line : String
  records : List Record

/-- The request for one key. -/
def request (zone : DomainName) (s : Source) : Except Error Request := do
  let ds ← s.key.delegation zone .sha256
  let tag ← s.key.keyTag
  let cds : RecordData := .cds ds
  return ⟨s!"KSK {tag} of {s.view.name}: CDS {cds.text}",
    [⟨s.view.dnskeyTtl, cds⟩, ⟨s.view.dnskeyTtl, .cdnskey s.key⟩]⟩

/-- The requests for all keys. -/
def requests (zone : DomainName) (views : List SignerView) : Report Request :=
  (sources views).map (request zone)

/-! ## 2. Publishing -/

/-- The kinds of the records. -/
def kinds : List RecordKind := [.cds, .cdnskey]

/-- The changes for a signer. -/
def plan (records : List Record) (v : SignerView) : Plan where
  member := v.member
  changes := { inserts := records, removeKinds := kinds }
  applied := [s!"  Added CDS/CDNSKEYs to {v.name}"]

/-- Publishes the requests of a group. -/
def run (zone : DomainName) : Operation ω Unit := do
  let views ← observeGroup zone [.dnskey, .cds, .cdnskey]
  let requests := requests zone views
  tell (requests.map fun r => r.map Request.line)
  let records := requests.items.flatMap Request.records
  if records.isEmpty then line "No KSKs found, nothing to sync"
  else Push.push zone ((staying views).map (plan records))

/-! ## 3. Taking out -/

/-- Takes the requests of a group out. -/
def remove (zone : DomainName) : Operation ω Unit := do
  let members ← groupMembers zone
  Push.push zone (members.map fun m =>
    ⟨m, { removeKinds := kinds }, [s!"  Removed CDS/CDNSKEYs from {m.name}"]⟩)

end MultiSigner.Sync.KeyReferences
