import MultiSigner.Operation.Basic
/-!
# Observing a group

How the views of signers and of the parent come about: the servers are asked for one kind of record
after the other, and the first failure ends it all.
-/

namespace MultiSigner.Operation

variable {ω : Type}

/-- The signers of a group that has some. -/
def groupMembers (zone : DomainName) : Operation ω (List Member) := do
  let members ← (← state).members zone
  if members.isEmpty then throw (.groupHasNoSigners zone)
  return members

/-- Refuses signers without an address. -/
def checkAddress (m : Member) : Except Error Unit :=
  if m.signer.address.isEmpty then .error (.missingAddress m.name) else .ok ()

/-- Asks a signer for records of some kinds. -/
def observeSigner (zone : DomainName) (kinds : List RecordKind) (m : Member) :
    Operation ω SignerView := do
  checkAddress m
  kinds.foldlM (fun v kind => return v.absorb (← query m.signer.address zone kind))
    { member := m }

/-- The address of a server of the parent zone. -/
def parentAddress (zone : DomainName) : Operation ω String := do
  let g ← (← state).group zone
  if g.parent.isEmpty then throw (.missingAddress s!"parent of {zone}")
  return g.parent

/-- Asks the parent for records of some kinds. -/
def observeParent (zone : DomainName) (kinds : List RecordKind) : Operation ω ParentView := do
  let parent ← parentAddress zone
  kinds.foldlM (fun v kind => return v.absorb (← query parent zone kind)) {}

/-- Asks every signer of a group for records of some kinds. -/
def observeGroup (zone : DomainName) (kinds : List RecordKind) : Operation ω (List SignerView) := do
  (← groupMembers zone).mapM (observeSigner zone kinds)

end MultiSigner.Operation
