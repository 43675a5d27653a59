import MultiSigner.Operation.Hold
import MultiSigner.Operation.Status
import MultiSigner.Sync.DelegationRequest
import MultiSigner.Sync.Dnskeys
import MultiSigner.Sync.KeyReferences
import MultiSigner.Sync.Nameservers
/-!
# Automation

A group that walks a sequence of stages goes on by one stage at each step: after work that succeeds,
after a check that is met, and after a hold that is over.  A check that is not met goes back to the
work it checks; a failure ends in the error stage with its message stored.

## Contents

1. The work of a stage.
2. Steps.
3. Membership changes.
4. What operators do about stages.
-/

namespace MultiSigner

namespace Automation

open Operation

variable {ω : Type}

/-! ## 1. The work of a stage -/

/-- What is done at a stage of a walk. -/
inductive Work (ω : Type)
  | act (op : Operation ω Unit)
  | check (flag : SyncFlag)
  | hold (h : Hold)

/-- The hold in the middle of a walk. -/
def holdOf : Direction → Hold
  | .joining => .ds
  | .leaving => .ns

/-- The work of an activity. -/
def work (zone : DomainName) (d : Direction) : Activity → Work ω
  | .syncDnskeys => .act (Sync.Dnskeys.run zone)
  | .checkDnskeys => .check .dnskeys
  | .syncCds => .act (Sync.KeyReferences.run zone)
  | .checkCds => .check .cds
  | .checkParentDs => .check .parentDs
  | .removeCds => .act (Sync.KeyReferences.remove zone)
  | .wait => .hold (holdOf d)
  | .syncNs => .act (Sync.Nameservers.run zone)
  | .checkNs => .check .ns
  | .addCsync => .act (Sync.DelegationRequest.run zone)
  | .checkParentNs => .check .parentNs
  | .removeCsync => .act (Sync.DelegationRequest.remove zone)

/-- Does work at a stage and gives the stage to go to.  The group's own stage is left alone. -/
def doWork (zone : DomainName) (stage : Stage) : Work ω → Operation ω Stage
  | .act op => do
    op
    return stage.next
  | .check flag => do
    let flags ← Status.check zone
    if flags.get flag then
      line s!"{flag.name} synced"
      return stage.next
    else
      line s!"{flag.name} not synced yet"
      return stage.retry
  | .hold h => do
    let deadline ← h.wait zone
    if (← now).isBefore deadline then return stage
    else
      line s!"{h.name} wait is over"
      modifyState (h.clear zone)
      return stage.next

/-- Does the work of a stage.  A resting stage has none. -/
def runStage (zone : DomainName) : Stage → Operation ω Stage
  | .walking d a => doWork zone (.walking d a) (work zone d a)
  | stage => pure stage

/-! ## 2. Steps -/

/-- What a step says of a group that rests. -/
def restingLine : Stage → Option String
  | .ready => some "Nothing to do"
  | .error => some "Error exist"
  | .manual => some "In manual mode, name a stage to run"
  | .walking _ _ => none

/-- Puts a group into another stage. -/
def moveTo (zone : DomainName) (stage : Stage) (s : State) : State :=
  s.modifyGroup zone fun g => { g with stage := stage }

/-- Puts a group into the error stage. -/
def fail (zone : DomainName) (e : Error) (s : State) : State :=
  s.modifyGroup zone fun g => { g with stage := .error, error := some e.message }

/-- A step of a group that walks. -/
def walkingStep (zone : DomainName) (stage : Stage) : Operation ω Unit := do
  match ← attempt (runStage zone stage) with
  | .ok next =>
    if next ≠ stage then
      modifyState (moveTo zone next)
      line s!"{zone}: {stage.name} -> {next.name}"
      publishStatus zone
  | .error e =>
    line s!"{zone}: {stage.name} failed: {e.message}"
    modifyState (fail zone e)
    publishStatus zone
    throw e

/-- Brings a group on by one stage. -/
def step (zone : DomainName) : Operation ω Unit := do
  let g ← (← state).group zone
  match restingLine g.stage with
  | some text => line text
  | none => walkingStep zone g.stage

/-- Does the work of a stage for a group in manual mode, which stays there. -/
def manualStep (zone : DomainName) (stage : Stage) : Operation ω Unit := do
  let g ← (← state).group zone
  if g.stage ≠ .manual then throw (.wrongStage zone g.stage "manual")
  let next ← runStage zone stage
  line s!"{zone}: {stage.name} -> {next.name} (manual, not moved)"

/-! ## 3. Membership changes -/

/-- Whether a change of its members makes a group walk. -/
def restarts (g : Group) : Bool :=
  2 ≤ g.signers.length && g.stage != .manual && g.stage != .error

/-- The group at the start of a walk, without deadlines. -/
def restarted (d : Direction) (g : Group) : Group :=
  { g with stage := .start d, waitDs := none, waitNs := none }

/-- Lets a group walk after a change of its members. -/
def membershipChanged (zone : DomainName) (d : Direction) : Operation ω Unit := do
  let g ← (← state).group zone
  if restarts g then
    modifyState fun s => s.modifyGroup zone (restarted d)
    line s!"{zone}: {g.stage.name} -> {(Stage.start d).name}"

/-! ## 4. What operators do about stages -/

/-- The document with a group out of the error stage; none if the group is not in it. -/
def clearError (s : State) (zone : DomainName) (stage : Stage) : Except Error (Option State) := do
  let g ← s.group zone
  if g.stage ≠ .error then return none
  return some (s.modifyGroup zone fun g => { g with stage := stage, error := none })

/-- The document with a group in manual mode. -/
def enterManual (s : State) (zone : DomainName) : Except Error State := do
  let g ← s.group zone
  if g.stage ≠ .ready ∧ g.stage ≠ .error then throw (.wrongStage zone g.stage "ready or error")
  return s.modifyGroup zone fun g => { g with stage := .manual, error := none }

/-- The document with a group out of manual mode. -/
def resume (s : State) (zone : DomainName) (stage : Stage) : Except Error State := do
  let g ← s.group zone
  if g.stage ≠ .manual then throw (.wrongStage zone g.stage "manual")
  return moveTo zone stage s

end Automation
end MultiSigner
