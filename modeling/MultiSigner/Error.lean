import MultiSigner.DomainName.Parser
import MultiSigner.DomainName.Printer
import MultiSigner.Net.Ip
import MultiSigner.Stage
import MultiSigner.UpdaterKind
/-!
# What can go wrong

Every failure of a command, with its wording and its class.  The class decides how a failure is
answered over the network; failures of class `validation` are the operator's and change nothing.
-/

namespace MultiSigner

/-- The class of a failure. -/
inductive ErrorKind
  /-- Missing or bad arguments, unknown names, or a group in the wrong stage. -/
  | validation
  /-- A signer or group lacks an address or a credential. -/
  | configuration
  /-- The exchange with a server failed. -/
  | transport
  /-- The configured state contradicts itself. -/
  | protocol
  /-- Stored state can not be read or written. -/
  | storage
  deriving Repr, DecidableEq

/-- Why a command or an automation step failed. -/
inductive Error
  /-- Too few arguments; holds what is required. -/
  | usage (requirement : String)
  | unknownCommand (command : String)
  | daemonOnly (command : String)
  | noRemoteCall (command : String)
  | notAbsolute (name : String)
  | invalidName (name : String) (reason : DomainName.ParseError)
  | invalidArgument (what value : String)
  | noSuchGroup (zone : DomainName)
  | groupExists (zone : DomainName)
  | groupHasSigners (zone : DomainName)
  | groupHasNoSigners (zone : DomainName)
  | automationRunning (zone : DomainName)
  | automationNotRunning (zone : DomainName)
  | noSuchSigner (name : String)
  | signerExists (name : String)
  | signerNotLeaving (name : String)
  | wrongStage (zone : DomainName) (stage : Stage) (expected : String)
  | invalidStage (name : String)
  | readOnlyKey (key : String)
  | missingAddress (signer : String)
  | missingCredential (signer : String)
  | missingSecret (credential : String)
  | invalidSecret (credential : String)
  /-- Some targets of a push can not be updated, so none was. -/
  | signersMisconfigured (count : Nat)
  | updaterUnsupported (kind : UpdaterKind)
  | emptyUpdate
  | transport (server reason : String)
  | updateRejected (server rcode : String)
  | malformedRecord (what : String)
  /-- A message or record is too long for the wire, or can not be digested. -/
  | dns
  | invalidTimestamp
  | timestampFormat
  | insecureBind (address : Net.IpAddress)
  | remote (message : String)
  | io
  | invalidJson
  deriving Repr, DecidableEq

namespace Error

/-- The wording of a failure. -/
def message : Error → String
  | usage requirement => "requires " ++ requirement
  | unknownCommand command => "command does not exist: " ++ command
  | daemonOnly command => command ++ " can only be used while running as a daemon"
  | noRemoteCall command => command ++ " can not be called remotely"
  | notAbsolute name => "not a fully qualified name: \"" ++ name ++ "\""
  | invalidName name reason => "invalid domain name \"" ++ name ++ "\": " ++ reason.message
  | invalidArgument what value => "invalid value \"" ++ value ++ "\" for " ++ what
  | noSuchGroup zone => s!"group {zone} does not exist"
  | groupExists zone => s!"group {zone} already exists"
  | groupHasSigners zone => s!"group {zone} has signers"
  | groupHasNoSigners zone => s!"group {zone} has no signers"
  | automationRunning zone => s!"automation for group {zone} is running"
  | automationNotRunning zone => s!"automation for group {zone} is not running"
  | noSuchSigner name => s!"signer {name} does not exist"
  | signerExists name => s!"signer {name} already exists"
  | signerNotLeaving name => s!"signer {name} is not marked as leaving"
  | wrongStage zone stage expected => s!"group {zone} is in stage {stage.name}, expected {expected}"
  | invalidStage name => s!"invalid stage {name}"
  | readOnlyKey key => s!"config key {key} is not writable"
  | missingAddress signer => s!"no ip|host for signer {signer}"
  | missingCredential signer => s!"signer {signer} has no credential configured"
  | missingSecret credential => s!"missing secret for credential {credential}"
  | invalidSecret credential => s!"TSIG key {credential} has an invalid secret"
  | signersMisconfigured count => s!"{count} signer(s) misconfigured, nothing was sent"
  | updaterUnsupported kind => s!"{kind.name} support not implemented"
  | emptyUpdate => "inserts and removes empty, nothing to do"
  | transport server reason => s!"DNS exchange with {server} failed: {reason}"
  | updateRejected server rcode => s!"update of {server} rejected: {rcode}"
  | malformedRecord what => s!"malformed {what} record"
  | dns => "DNS error"
  | invalidTimestamp => "invalid timestamp"
  | timestampFormat => "invalid timestamp format"
  | insecureBind address =>
    s!"RPC bind address ({address.text}) must be a loopback or private IP"
  | remote text => s!"remote: {text}"
  | io => "an IO error occurred"
  | invalidJson => "invalid JSON"

/-- The class of a failure. -/
def kind : Error → ErrorKind
  | usage _ => .validation
  | unknownCommand _ => .validation
  | daemonOnly _ => .validation
  | noRemoteCall _ => .validation
  | notAbsolute _ => .validation
  | invalidName _ _ => .validation
  | invalidArgument _ _ => .validation
  | noSuchGroup _ => .validation
  | groupExists _ => .validation
  | groupHasSigners _ => .validation
  | groupHasNoSigners _ => .validation
  | automationRunning _ => .validation
  | automationNotRunning _ => .validation
  | noSuchSigner _ => .validation
  | signerExists _ => .validation
  | signerNotLeaving _ => .validation
  | wrongStage _ _ _ => .validation
  | invalidStage _ => .validation
  | readOnlyKey _ => .validation
  | missingAddress _ => .configuration
  | missingCredential _ => .configuration
  | missingSecret _ => .configuration
  | invalidSecret _ => .configuration
  | signersMisconfigured _ => .configuration
  | insecureBind _ => .configuration
  | updaterUnsupported _ => .protocol
  | emptyUpdate => .protocol
  | transport _ _ => .transport
  | updateRejected _ _ => .transport
  | malformedRecord _ => .transport
  | dns => .transport
  | remote _ => .transport
  | invalidTimestamp => .storage
  | timestampFormat => .storage
  | io => .storage
  | invalidJson => .storage

end Error

/-- Reads a name that has to be absolute. -/
def DomainName.parseAbsolute (s : String) : Except Error DomainName :=
  match DomainName.parse s with
  | .error reason => .error (.invalidName s reason)
  | .ok n => if n.absolute then .ok n else .error (.notAbsolute s)

end MultiSigner
