import MultiSigner.Error
import MultiSigner.OrderedMap
import MultiSigner.State.SyncFlags
import MultiSigner.Time.Timestamp
/-!
# The state document

All that is known about groups, signers, credentials and the origin of records.  A group is a zone
that several signers serve; the list of its members and the group of each signer refer to each
other.  Origins say at which signer a key or a name server was seen first.

## Contents

1. Groups, signers and the document.
2. Looking things up.
3. Groups and signers come and go.
4. Origins.
-/

namespace MultiSigner

/-! ## 1. The document -/

/-- A zone and the signers that serve it. -/
structure Group where
  /-- The members, in the order in which they were added. -/
  signers : List String := []
  /-- Host and port of a server of the parent zone. -/
  parent : String
  stage : Stage := .ready
  /-- What moved the group to the error stage. -/
  error : Option String := none
  waitDs : Option Timestamp := none
  waitNs : Option Timestamp := none
  /-- How long records that are made up may be kept. -/
  ttl : UInt32 := 300
  synced : SyncFlags := {}
  deriving Repr, DecidableEq, Inhabited

/-- The time to live of groups that set none. -/
def Group.defaultTtl : UInt32 := 300

/-- A server of a group's zone. -/
structure Signer where
  group : DomainName
  /-- Host and port. -/
  address : String
  /-- The name under which the zone lists the server. -/
  nameserver : DomainName
  kind : UpdaterKind := .nsupdate
  /-- The name of the key or token for updates. -/
  credential : Option String := none
  leaving : Bool := false
  /-- Whether its keys do not differ in role, so that all of them are synced. -/
  combined : Bool := false
  deriving Repr, DecidableEq, Inhabited

/-- The document. -/
structure State where
  groups : OrderedMap DomainName Group := .empty
  signers : OrderedMap String Signer := .empty
  /-- Secrets in base64, by key name. -/
  tsigKeys : OrderedMap String String := .empty
  /-- Tokens of providers, by name. -/
  tokens : OrderedMap String String := .empty
  /-- The signer at which a key was seen first, by the key's fingerprint. -/
  dnskeyOrigin : OrderedMap String String := .empty
  /-- The signer at which a name server was seen first. -/
  nsOrigin : OrderedMap DomainName String := .empty
  /-- Groups whose automation starts together with the daemon. -/
  autostart : List DomainName := []
  settings : OrderedMap String String := .empty
  deriving DecidableEq, Inhabited

/-- A signer of a group and its name. -/
structure Member where
  name : String
  signer : Signer
  deriving Repr, DecidableEq, Inhabited

namespace State

/-- The document that says nothing. -/
def empty : State := {}

/-! ## 2. Looking things up -/

/-- The group of a zone. -/
def group (s : State) (zone : DomainName) : Except Error Group :=
  match s.groups.get? zone with
  | some g => .ok g
  | none => .error (.noSuchGroup zone)

/-- The signer of the given name. -/
def signer (s : State) (name : String) : Except Error Signer :=
  match s.signers.get? name with
  | some g => .ok g
  | none => .error (.noSuchSigner name)

/-- The signers of a zone, in group order. -/
def members (s : State) (zone : DomainName) : Except Error (List Member) := do
  let g ← s.group zone
  g.signers.mapM fun name => return ⟨name, ← s.signer name⟩

/-- Changes the group of a zone. -/
def modifyGroup (s : State) (zone : DomainName) (f : Group → Group) : State :=
  { s with groups := s.groups.modify zone f }

/-- Changes a signer. -/
def modifySigner (s : State) (name : String) (f : Signer → Signer) : State :=
  { s with signers := s.signers.modify name f }

/-! ## 3. Groups and signers come and go -/

/-- Adds a group. -/
def addGroup (s : State) (zone : DomainName) (g : Group) : Except Error State :=
  if s.groups.contains zone then .error (.groupExists zone)
  else .ok { s with groups := s.groups.insert zone g }

/-- Removes a group that has no signers, also from the list of groups that start with the
daemon. -/
def removeGroup (s : State) (zone : DomainName) : Except Error (Group × State) := do
  let g ← s.group zone
  if !g.signers.isEmpty then throw (.groupHasSigners zone)
  return (g, { s with
    groups := s.groups.erase zone
    autostart := s.autostart.filter fun z => !(z == zone) })

/-- Adds a signer to its group.  Names are unique across groups. -/
def addSigner (s : State) (name : String) (signer : Signer) : Except Error State := do
  if s.signers.contains name then throw (.signerExists name)
  let _ ← s.group signer.group
  return { s with
    groups := s.groups.modify signer.group fun g => { g with signers := g.signers ++ [name] }
    signers := s.signers.insert name signer }

/-- Removes a signer, its membership and the origins that name it. -/
def removeSigner (s : State) (name : String) : Except Error (Signer × State) := do
  let signer ← s.signer name
  return (signer, { s with
    signers := s.signers.erase name
    groups := s.groups.modify signer.group fun g =>
      { g with signers := g.signers.filter (· != name) }
    dnskeyOrigin := s.dnskeyOrigin.filter fun _ origin => origin != name
    nsOrigin := s.nsOrigin.filter fun _ origin => origin != name })

/-! ## 4. Origins -/

/-- Notes the first signer of a key.  Tells whether that is news. -/
def recordDnskeyOrigin (s : State) (fingerprint name : String) : Bool × State :=
  if s.dnskeyOrigin.contains fingerprint then (false, s)
  else (true, { s with dnskeyOrigin := s.dnskeyOrigin.insert fingerprint name })

/-- Notes the first signer of a name server.  Tells whether that is news. -/
def recordNsOrigin (s : State) (ns : DomainName) (name : String) : Bool × State :=
  if s.nsOrigin.contains ns then (false, s)
  else (true, { s with nsOrigin := s.nsOrigin.insert ns name })

/-- The setting that makes updates report their messages. -/
def debugSetting : String := "debug-updater"

/-- Whether updates report their messages. -/
def debugUpdater (s : State) : Bool :=
  s.settings.get? debugSetting == some "yes"

end State
end MultiSigner
