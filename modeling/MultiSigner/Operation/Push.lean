import MultiSigner.Operation.Observe
import MultiSigner.Text.Base64
/-!
# Pushing changes to signers

Changes are planned for each signer and then pushed.  Before the first update is sent, every signer
that has changes to get is checked for an address, a way to be updated and a credential; signers
without a usable credential are listed, and one of them is enough to send nothing at all.

## Contents

1. Plans.
2. Targets.
3. Pushing.
-/

namespace MultiSigner

/-! ## 1. Plans -/

/-- Changes for a signer, and the lines to report when they are made. -/
structure Plan where
  member : Member
  changes : ChangeSet := {}
  applied : List String := []
  deriving Repr

namespace Push

open Operation

variable {ω : Type}

/-! ## 2. Targets -/

/-- The credential of a signer. -/
def credential (s : State) (m : Member) : Except Error Credential :=
  match m.signer.credential with
  | none => .error (.missingCredential m.name)
  | some name =>
    match m.signer.kind with
    | .nsupdate =>
      match s.tsigKeys.get? name with
      | none => .error (.missingSecret name)
      | some secret =>
        match Base64.decodeString? secret with
        | none => .error (.invalidSecret name)
        | some bytes => .ok (.tsig name bytes)
    | .desec =>
      match s.tokens.get? name with
      | none => .error (.missingSecret name)
      | some text => .ok (.token name text)

/-- The signer as the target of an update. -/
def target (s : State) (m : Member) (c : Credential) : UpdateTarget where
  signer := m.name
  kind := m.signer.kind
  address := m.signer.address
  credential := c
  debug := s.debugUpdater

/-- Whether a signer can be updated at all. -/
def checkMember (m : Member) : Operation ω Unit := do
  checkAddress m
  let _ ← (← read).updaterFor m.signer.kind

/-- The plan with its target, or a line that tells why there is none. -/
def resolve (p : Plan) : Operation ω (Option (Plan × UpdateTarget)) := do
  checkMember p.member
  let s ← state
  match credential s p.member with
  | .ok c => return some (p, target s p.member c)
  | .error e =>
    line s!"Skipping signer {p.member.name}: {e.message}"
    return none

/-- All plans with their targets. -/
def resolveAll (plans : List Plan) : Operation ω (List (Plan × UpdateTarget)) := do
  let resolved ← plans.mapM resolve
  let found := resolved.filterMap id
  if found.length < plans.length then throw (.signersMisconfigured (plans.length - found.length))
  return found

/-! ## 3. Pushing -/

/-- Sends the changes of a plan. -/
def send (zone : DomainName) (p : Plan × UpdateTarget) : Operation ω Unit := do
  deliver ⟨zone, p.2, p.1.changes⟩
  lines p.1.applied

/-- Sends the changes of those plans that have some. -/
def push (zone : DomainName) (plans : List Plan) : Operation ω Unit := do
  let resolved ← resolveAll (plans.filter fun p => !p.changes.isEmpty)
  resolved.forM (send zone)

end Push
end MultiSigner
