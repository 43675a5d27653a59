import MultiSigner.Automation
import MultiSigner.Command.Basic
import MultiSigner.State.Entries
/-!
# Running commands

What each command does to a session, and what it says.

## Contents

1. Groups.
2. Signers.
3. Automation.
4. Entries.
5. All commands.
-/

namespace MultiSigner.Command

open Operation

variable {ω : Type}

/-! ## 1. Groups -/

/-- Adds a group. -/
def addGroup (zone : DomainName) (parent : String) : Operation ω Unit := do
  let s ← (← state).addGroup zone { parent := parent }
  modifyState fun _ => s
  line s!"Group {zone} added with parent {parent}"
  publishStatus zone

/-- The line of a group. -/
def groupLine (zone : DomainName) (g : Group) : String :=
  s!"{zone} parent {g.parent} stage {g.stage.name} signers " ++ ",".intercalate g.signers

/-- Lists the groups. -/
def listGroups : Operation ω Unit := do
  let s ← state
  if s.groups.isEmpty then line "No groups"
  lines (s.groups.entries.map fun (zone, g) => groupLine zone g)

/-- Refuses groups that are automated. -/
def requireIdle (zone : DomainName) : Operation ω Unit := do
  if (← get).scheduler.isRunning zone then throw (.automationRunning zone)

/-- Removes a group. -/
def removeGroup (zone : DomainName) : Operation ω Unit := do
  requireIdle zone
  let (_, s) ← (← state).removeGroup zone
  modifyState fun _ => s
  line s!"Group {zone} removed"

/-! ## 2. Signers -/

/-- Adds a signer to a group. -/
def addSigner (zone : DomainName) (name : String) (nameserver : DomainName) (address : String) :
    Operation ω Unit := do
  let s ← (← state).addSigner name
    { group := zone, address := address, nameserver := nameserver }
  modifyState fun _ => s
  line s!"Signer {name} added to {zone}"
  Automation.membershipChanged zone .joining
  publishStatus zone

/-- The line of a signer. -/
def signerLine (m : Member) : String :=
  s!"{m.name} {m.signer.address} ns {m.signer.nameserver} type {m.signer.kind.name} key "
    ++ m.signer.credential.getD "-"
    ++ (if m.signer.leaving then " leaving" else "")
    ++ (if m.signer.combined then " csk" else "")

/-- Lists the signers of a group. -/
def listSigners (zone : DomainName) : Operation ω Unit := do
  let members ← (← state).members zone
  if members.isEmpty then line s!"No signers in {zone}"
  lines (members.map signerLine)

/-- Removes a signer that is leaving a group at rest. -/
def removeSigner (name : String) : Operation ω Unit := do
  let s ← state
  let signer ← s.signer name
  if !signer.leaving then throw (.signerNotLeaving name)
  let zone := signer.group
  let g ← s.group zone
  if g.stage ≠ .ready then throw (.wrongStage zone g.stage "ready")
  let (_, s) ← s.removeSigner name
  modifyState fun _ => s
  line s!"Signer {name} removed from {zone}"
  publish (.left zone name)
  publishStatus zone

/-- Marks a signer as leaving, or takes that back. -/
def markLeave (name : String) (leaving : Bool) : Operation ω Unit := do
  let signer ← (← state).signer name
  let zone := signer.group
  if signer.leaving = leaving then
    line (if leaving then s!"Signer {name} is already leaving" else s!"Signer {name} is not leaving")
  else
    modifyState fun s => s.modifySigner name fun g => { g with leaving := leaving }
    line (if leaving then s!"Signer {name} marked as leaving {zone}"
      else s!"Signer {name} no longer leaving {zone}")
    Automation.membershipChanged zone (if leaving then .leaving else .joining)
    publishStatus zone

/-- Shows the key with which a signer is updated. -/
def showTsig (name : String) : Operation ω Unit := do
  let signer ← (← state).signer name
  match signer.credential with
  | some key => line s!"Signer {name} uses TSIG key {key}"
  | none => line s!"Signer {name} has no TSIG key"

/-- Sets the key with which a signer is updated. -/
def setTsig (name key : String) : Operation ω Unit := do
  let s ← state
  let _ ← s.signer name
  if !s.tsigKeys.contains key then throw (.missingSecret key)
  modifyState fun s => s.modifySigner name fun g => { g with credential := some key }
  line s!"Signer {name} now uses TSIG key {key}"

/-- Sets how a signer is updated. -/
def setType (name : String) (kind : UpdaterKind) (token : Option String) : Operation ω Unit := do
  let _ ← (← state).signer name
  modifyState fun s => s.modifySigner name fun g =>
    { g with kind := kind, credential := token.or g.credential }
  line s!"Signer {name} is now updated with {kind.name}"

/-- Sets whether the keys of a signer differ in role. -/
def setCombined (name : String) (combined : Bool) : Operation ω Unit := do
  let _ ← (← state).signer name
  modifyState fun s => s.modifySigner name fun g => { g with combined := combined }
  line (if combined then s!"Signer {name} uses a combined signing key"
    else s!"Signer {name} uses separate KSKs and ZSKs")

/-! ## 3. Automation -/

/-- Shows the deadline of a hold. -/
def showDeadline (h : Hold) (zone : DomainName) : Operation ω Unit := do
  let deadline ← h.wait zone
  if !(← now).isBefore deadline then line "Wait is over"

/-- Brings a group on by one stage, or does the work of a stage that is named. -/
def step (zone : DomainName) (stage : Option String) : Operation ω Unit := do
  requireIdle zone
  match stage with
  | none => Automation.step zone
  | some s =>
    match Stage.ofName? s with
    | none => throw (.invalidStage s)
    | some stage => Automation.manualStep zone stage

/-- Starts the automation of a group. -/
def start (zone : DomainName) : Operation ω Unit := do
  let _ ← (← state).group zone
  let scheduler ← (← get).scheduler.start zone
  modify fun s => { s with scheduler := scheduler }
  line s!"Automation for {zone} started"

/-- Stops the automation of a group. -/
def stop (zone : DomainName) : Operation ω Unit := do
  let _ ← (← state).group zone
  let scheduler ← (← get).scheduler.stop zone
  modify fun s => { s with scheduler := scheduler }
  line s!"Automation for {zone} stopped"

/-- Shows why a group is in the error stage. -/
def showError (zone : DomainName) : Operation ω Unit := do
  let g ← (← state).group zone
  match g.error with
  | some text => line s!"{zone}: {text}"
  | none => line s!"{zone}: no error"

/-- Takes a group out of the error stage. -/
def clearError (zone : DomainName) (stage : Stage) : Operation ω Unit := do
  match ← Automation.clearError (← state) zone stage with
  | some s =>
    modifyState fun _ => s
    line s!"{zone}: error cleared, stage {stage.name}"
    publishStatus zone
  | none => line "No automation error"

/-- Puts a group into manual mode. -/
def enterManual (zone : DomainName) : Operation ω Unit := do
  let s ← Automation.enterManual (← state) zone
  modifyState fun _ => s
  line s!"{zone}: manual mode"
  publishStatus zone

/-- Takes a group out of manual mode. -/
def resume (zone : DomainName) (stage : Stage) : Operation ω Unit := do
  let s ← Automation.resume (← state) zone stage
  modifyState fun _ => s
  line s!"{zone}: resumed at stage {stage.name}"
  publishStatus zone

/-- Lists the groups that start with the daemon. -/
def listAutostart : Operation ω Unit := do
  let s ← state
  if s.autostart.isEmpty then line "No groups autostart"
  lines (s.autostart.map DomainName.display)

/-- Lets a group start with the daemon. -/
def addAutostart (zone : DomainName) : Operation ω Unit := do
  let s ← state
  let _ ← s.group zone
  if s.autostart.any (· == zone) then line s!"{zone} already autostarts"
  else
    modifyState fun s => { s with autostart := s.autostart ++ [zone] }
    line s!"{zone} will autostart"

/-- Lets a group no longer start with the daemon. -/
def removeAutostart (zone : DomainName) : Operation ω Unit := do
  let s ← state
  let _ ← s.group zone
  if s.autostart.any (· == zone) then
    modifyState fun s => { s with autostart := s.autostart.filter fun z => !(z == zone) }
    line s!"{zone} will no longer autostart"
  else line s!"{zone} does not autostart"

/-! ## 4. Entries -/

/-- Shows an entry of the document. -/
def showEntry (key : String) : Operation ω Unit := do
  match ← (← state).entry key with
  | some value => line s!"{key}: {value}"
  | none => line s!"{key} is not set"

/-- Sets an entry of the document. -/
def setEntry (key value : String) : Operation ω Unit := do
  let s ← (← state).setEntry key value
  modifyState fun _ => s
  line s!"{key} set"

/-- Removes an entry of the document. -/
def removeEntry (key : String) : Operation ω Unit := do
  let (changed, s) ← (← state).removeEntry key
  modifyState fun _ => s
  line (if changed then s!"{key} removed" else s!"{key} is not set")

/-- Lists the entries of the document. -/
def listEntries : Operation ω Unit := do
  let entries ← (← state).entries
  lines (entries.map fun (key, value) => s!"{key}: {value}")

/-! ## 5. All commands -/

/-- Runs a command. -/
def run : Command → Operation ω Unit
  | .help => lines helpLines
  | .groupAdd zone parent => addGroup zone parent
  | .groupList => listGroups
  | .groupRemove zone => removeGroup zone
  | .signerAdd zone name nameserver address => addSigner zone name nameserver address
  | .signerList zone => listSigners zone
  | .signerRemove name => removeSigner name
  | .signerLeave name leaving => markLeave name leaving
  | .signerTsig name none => showTsig name
  | .signerTsig name (some key) => setTsig name key
  | .signerType name kind token => setType name kind token
  | .signerCsk name combined => setCombined name combined
  | .status zone => do
    let _ ← Status.check zone
  | .syncDnskeys zone => Sync.Dnskeys.run zone
  | .syncCds zone => Sync.KeyReferences.run zone
  | .syncNs zone => Sync.Nameservers.run zone
  | .wait hold zone => showDeadline hold zone
  | .addCsync zone => Sync.DelegationRequest.run zone
  | .removeCsync zone => Sync.DelegationRequest.remove zone
  | .removeCds zone => Sync.KeyReferences.remove zone
  | .automateStep zone stage => step zone stage
  | .automateStart zone => start zone
  | .automateStop zone => stop zone
  | .automateError zone => showError zone
  | .automateClearError zone stage => clearError zone stage
  | .automateManual zone => enterManual zone
  | .automateResume zone stage => resume zone stage
  | .autostartList => listAutostart
  | .autostartAdd zone => addAutostart zone
  | .autostartRemove zone => removeAutostart zone
  | .confGet key => showEntry key
  | .confSet key value => setEntry key value
  | .confRemove key => removeEntry key
  | .confList => listEntries

end MultiSigner.Command
