import MultiSigner.Command.Address
import MultiSigner.Command.Basic
/-!
# Reading commands

A command is given as its name and its arguments, which are read from left to right; further
arguments are not looked at.  Commands that only make sense in a daemon are refused elsewhere
before their arguments are read.

## Contents

1. Arguments.
2. Commands.
-/

namespace MultiSigner.Command

/-! ## 1. Arguments -/

/-- The arguments of a command, and what it requires. -/
structure Arguments where
  values : List String
  requirement : String

namespace Arguments

/-- An argument that may be left out. -/
def get? (a : Arguments) (i : Nat) : Option String :=
  a.values[i]?

/-- An argument. -/
def get (a : Arguments) (i : Nat) : Except Error String :=
  match a.get? i with
  | some s => .ok s
  | none => .error (.usage a.requirement)

/-- The zone, which is the first argument. -/
def zone (a : Arguments) : Except Error DomainName := do
  DomainName.parseAbsolute (← a.get 0)

/-- A stage. -/
def stage (a : Arguments) (i : Nat) : Except Error Stage := do
  let s ← a.get i
  match Stage.ofName? s with
  | some stage => return stage
  | none => throw (.invalidStage s)

/-- A stage that a group can leave the error stage for. -/
def sequenceStage (a : Arguments) (i : Nat) : Except Error Stage := do
  let stage ← a.stage i
  if stage = .error ∨ stage = .manual then throw (.invalidStage stage.name)
  return stage

/-- A way to update signers. -/
def updaterKind (a : Arguments) (i : Nat) : Except Error UpdaterKind := do
  let s ← a.get i
  match UpdaterKind.ofName? s with
  | some kind => return kind
  | none => throw (.invalidArgument "signer type" s)

/-- A yes or a no. -/
def yesNo (a : Arguments) (what : String) (i : Nat) : Except Error Bool := do
  let s ← a.get i
  if s = "yes" then return true
  else if s = "no" then return false
  else throw (.invalidArgument what s)

end Arguments

/-! ## 2. Commands -/

/-- Refuses a command outside of the daemon. -/
def requireDaemon (mode : Mode) (name : String) : Except Error Unit :=
  match mode with
  | .daemon => .ok ()
  | .once => .error (.daemonOnly name)

/-- Reads the arguments of the command of the given name. -/
def parseArguments (mode : Mode) (name : String) (a : Arguments) : Except Error Command :=
  match name with
  | "help" => .ok .help
  | "group-add" => do
    let zone ← a.zone
    return .groupAdd zone (← serverAddress (← a.get 1) (a.get? 2))
  | "group-list" => .ok .groupList
  | "group-remove" => .groupRemove <$> a.zone
  | "signer-add" => do
    let zone ← a.zone
    let name ← a.get 1
    let nameserver ← DomainName.parseAbsolute (← a.get 2)
    return .signerAdd zone name nameserver (← signerAddress (← a.get 3))
  | "signer-list" => .signerList <$> a.zone
  | "signer-remove" => .signerRemove <$> a.get 0
  | "signer-mark-leave" => return .signerLeave (← a.get 0) true
  | "signer-unmark-leave" => return .signerLeave (← a.get 0) false
  | "signer-tsig" => return .signerTsig (← a.get 0) (a.get? 1)
  | "signer-type" => do
    let name ← a.get 0
    return .signerType name (← a.updaterKind 1) (a.get? 2)
  | "signer-csk" => do
    let name ← a.get 0
    return .signerCsk name (← a.yesNo "signer-csk" 1)
  | "status" => .status <$> a.zone
  | "sync-dnskey" => .syncDnskeys <$> a.zone
  | "sync-cdscdnskeys" => .syncCds <$> a.zone
  | "sync-ns" => .syncNs <$> a.zone
  | "wait-ds" => .wait .ds <$> a.zone
  | "wait-ns" => .wait .ns <$> a.zone
  | "add-csync" => .addCsync <$> a.zone
  | "remove-csync" => .removeCsync <$> a.zone
  | "remove-cdscdnskeys" => .removeCds <$> a.zone
  | "automate-step" => return .automateStep (← a.zone) (a.get? 1)
  | "automate-start" => do
    requireDaemon mode name
    return .automateStart (← a.zone)
  | "automate-stop" => do
    requireDaemon mode name
    return .automateStop (← a.zone)
  | "automate-error" => .automateError <$> a.zone
  | "automate-clear-error" => do
    let zone ← a.zone
    return .automateClearError zone (← a.sequenceStage 1)
  | "automate-manual" => .automateManual <$> a.zone
  | "automate-resume" => do
    let zone ← a.zone
    return .automateResume zone (← a.stage 1)
  | "automate-autostart" =>
    match a.get? 0 with
    | none => .ok .autostartList
    | some _ => .autostartAdd <$> a.zone
  | "automate-no-autostart" => .autostartRemove <$> a.zone
  | "conf-get" => .confGet <$> a.get 0
  | "conf-set" => do
    let key ← a.get 0
    return .confSet key (← a.get 1)
  | "conf-remove" => .confRemove <$> a.get 0
  | "conf-list" => .ok .confList
  | _ => .error (.unknownCommand name)

/-- Reads a command. -/
def parse (mode : Mode) : List String → Except Error Command
  | [] => .error (.usage "a command")
  | name :: values =>
    match listing.find? fun h => h.name == name with
    | none => .error (.unknownCommand name)
    | some h => parseArguments mode name ⟨values, h.arguments⟩

end MultiSigner.Command
