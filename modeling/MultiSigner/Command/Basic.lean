import MultiSigner.Operation.Hold
/-!
# Commands

What an operator can ask for.  `Command.listing` is the help text's source; its entries also say
which arguments a command requires.
-/

namespace MultiSigner

/-- Whether the process stays and automates groups, or runs one command. -/
inductive Mode
  | once
  | daemon
  deriving Repr, DecidableEq

/-- A command with its arguments. -/
inductive Command
  | help
  | groupAdd (zone : DomainName) (parent : String)
  | groupList
  | groupRemove (zone : DomainName)
  | signerAdd (zone : DomainName) (name : String) (nameserver : DomainName) (address : String)
  | signerList (zone : DomainName)
  | signerRemove (name : String)
  | signerLeave (name : String) (leaving : Bool)
  | signerTsig (name : String) (key : Option String)
  | signerType (name : String) (kind : UpdaterKind) (token : Option String)
  | signerCsk (name : String) (combined : Bool)
  | status (zone : DomainName)
  | syncDnskeys (zone : DomainName)
  | syncCds (zone : DomainName)
  | syncNs (zone : DomainName)
  | wait (hold : Hold) (zone : DomainName)
  | addCsync (zone : DomainName)
  | removeCsync (zone : DomainName)
  | removeCds (zone : DomainName)
  /-- One step, or the work of a stage that is named. -/
  | automateStep (zone : DomainName) (stage : Option String)
  | automateStart (zone : DomainName)
  | automateStop (zone : DomainName)
  | automateError (zone : DomainName)
  | automateClearError (zone : DomainName) (stage : Stage)
  | automateManual (zone : DomainName)
  | automateResume (zone : DomainName) (stage : Stage)
  | autostartList
  | autostartAdd (zone : DomainName)
  | autostartRemove (zone : DomainName)
  | confGet (key : String)
  | confSet (key value : String)
  | confRemove (key : String)
  | confList
  deriving Repr, DecidableEq

/-- What the help text says of a command. -/
structure CommandHelp where
  name : String
  arguments : String
  text : String
  deriving Repr, DecidableEq

namespace Command

/-- Every command, in the order of the help text. -/
def listing : List CommandHelp := [
  ⟨"help", "", "list commands"⟩,
  ⟨"group-add", "<fqdn> <parent> [port]", "add a group"⟩,
  ⟨"group-list", "", "list groups"⟩,
  ⟨"group-remove", "<fqdn>", "remove a group without signers"⟩,
  ⟨"signer-add", "<group> <name> <ns-fqdn> <addr>[:port]", "add a signer to a group"⟩,
  ⟨"signer-list", "<group>", "list the signers of a group"⟩,
  ⟨"signer-remove", "<name>", "remove a leaving signer"⟩,
  ⟨"signer-mark-leave", "<name>", "mark a signer as leaving its group"⟩,
  ⟨"signer-unmark-leave", "<name>", "take back a leave"⟩,
  ⟨"signer-tsig", "<name> [key]", "show or set the TSIG key of a signer"⟩,
  ⟨"signer-type", "<name> <nsupdate|desec> [token]", "set how a signer is updated"⟩,
  ⟨"signer-csk", "<name> <yes|no>", "mark a signer as using a combined signing key"⟩,
  ⟨"status", "<fqdn>", "check whether the signers and the parent are in sync"⟩,
  ⟨"sync-dnskey", "<fqdn>", "sync DNSKEYs between signers"⟩,
  ⟨"sync-cdscdnskeys", "<fqdn>", "publish CDS/CDNSKEYs for every KSK at every signer"⟩,
  ⟨"sync-ns", "<fqdn>", "sync NSes between signers"⟩,
  ⟨"wait-ds", "<fqdn>", "compute or show the DS wait deadline"⟩,
  ⟨"wait-ns", "<fqdn>", "compute or show the NS wait deadline"⟩,
  ⟨"add-csync", "<fqdn>", "publish CSYNC at every signer"⟩,
  ⟨"remove-csync", "<fqdn>", "remove CSYNC from every signer"⟩,
  ⟨"remove-cdscdnskeys", "<fqdn>", "remove CDS/CDNSKEYs from every signer"⟩,
  ⟨"automate-step", "<fqdn> [stage]", "run one automation step"⟩,
  ⟨"automate-start", "<fqdn>", "start the automation of a group (daemon only)"⟩,
  ⟨"automate-stop", "<fqdn>", "stop the automation of a group (daemon only)"⟩,
  ⟨"automate-error", "<fqdn>", "show why the automation failed"⟩,
  ⟨"automate-clear-error", "<fqdn> <stage>", "leave the error stage"⟩,
  ⟨"automate-manual", "<fqdn>", "enter manual mode"⟩,
  ⟨"automate-resume", "<fqdn> <stage>", "leave manual mode"⟩,
  ⟨"automate-autostart", "[fqdn]", "list, or add a group to, the autostart list"⟩,
  ⟨"automate-no-autostart", "<fqdn>", "remove a group from the autostart list"⟩,
  ⟨"conf-get", "<key>", "show a config entry"⟩,
  ⟨"conf-set", "<key> <value>", "set a config entry"⟩,
  ⟨"conf-remove", "<key>", "remove a config entry"⟩,
  ⟨"conf-list", "", "list all config entries"⟩]

/-- A command's line of the help text. -/
def helpLine (h : CommandHelp) : String :=
  if h.arguments.isEmpty then s!"{h.name}: {h.text}" else s!"{h.name} {h.arguments}: {h.text}"

/-- The help text. -/
def helpLines : List String :=
  listing.map helpLine

end Command
end MultiSigner
