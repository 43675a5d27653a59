import MultiSigner.State.Basic
import MultiSigner.Text.Base64
/-!
# The document as a list of entries

A flat view of the state: keys such as `parent:example.com.` or `signer-ns:a`, and their values.
Secrets are listed by name only.  Credentials, the time to live of groups, and settings can be
changed here; origins can be removed.

## Contents

1. All entries.
2. Keys that can be changed.
3. Changing an entry.
-/

namespace MultiSigner.State

/-! ## 1. All entries -/

/-- How a truth value is written. -/
def yesNo (b : Bool) : String :=
  if b then "yes" else "no"

/-- What stands for a secret. -/
def hiddenSecret : String := "<secret>"

/-- The entry of a deadline. -/
def deadlineEntry (key : String) : Option Timestamp → Except Error (List (String × String))
  | none => .ok []
  | some t =>
    match t.text? with
    | some text => .ok [(key, text)]
    | none => .error .timestampFormat

/-- The entries of a group. -/
def groupEntries (zone : DomainName) (g : Group) : Except Error (List (String × String)) := do
  let waitDs ← deadlineEntry s!"group-wait-ds:{zone}" g.waitDs
  let waitNs ← deadlineEntry s!"group-wait-ns:{zone}" g.waitNs
  return [(s!"parent:{zone}", g.parent), (s!"signers:{zone}", " ".intercalate g.signers),
      (s!"group-ttl:{zone}", toString g.ttl), (s!"automate-stage:{zone}", g.stage.name)]
    ++ (g.error.map fun e => (s!"automate-error:{zone}", e)).toList ++ waitDs ++ waitNs
    ++ SyncFlag.all.map fun f => (s!"group-{f.name}-synced:{zone}", yesNo (g.synced.get f))

/-- The entries of a signer. -/
def signerEntries (name : String) (s : Signer) : List (String × String) :=
  [(s!"signer:{name}", s.address), (s!"signer-type:{name}", s.kind.name)]
    ++ (s.credential.map fun c => (s!"signer-tsigkey:{name}", c)).toList
    ++ [(s!"signer-ns:{name}", s.nameserver.display), (s!"signer-leaving:{name}", yesNo s.leaving),
      (s!"signer-csk:{name}", yesNo s.combined)]

/-- Every entry of the document. -/
def entries (s : State) : Except Error (List (String × String)) := do
  let zones := " ".intercalate (s.groups.keys.map DomainName.display)
  let groups ← s.groups.entries.mapM fun (zone, g) => groupEntries zone g
  return [("groups", zones)]
    ++ groups.flatten
    ++ s.signers.entries.flatMap (fun (name, signer) => signerEntries name signer)
    ++ s.tsigKeys.keys.map (fun name => (s!"tsigkey:{name}", hiddenSecret))
    ++ s.tokens.keys.map (fun name => (s!"desectoken:{name}", hiddenSecret))
    ++ s.dnskeyOrigin.entries.map (fun (key, origin) => (s!"dnskey-origin:{key}", origin))
    ++ s.nsOrigin.entries.map (fun (ns, origin) => (s!"ns-origin:{ns}", origin))
    ++ [("automate-autostart", " ".intercalate (s.autostart.map DomainName.display))]
    ++ s.settings.entries

/-- The value of one entry. -/
def entry (s : State) (key : String) : Except Error (Option String) := do
  return ((← s.entries).find? fun e => e.1 == key).map Prod.snd

/-! ## 2. Keys that can be changed -/

/-- What a key refers to, with the text after its colon. -/
inductive EntryKey
  | tsigKey (name : String)
  | token (name : String)
  | groupTtl (zone : String)
  | dnskeyOrigin (fingerprint : String)
  | nsOrigin (name : String)
  | debugUpdater
  | other
  deriving Repr, DecidableEq

/-- What follows a given beginning of a text. -/
def after? (start s : String) : Option String :=
  if start.toList.isPrefixOf s.toList then
    some (String.ofList (s.toList.drop start.toList.length))
  else none

/-- Reads a key. -/
def EntryKey.ofString (key : String) : EntryKey :=
  match after? "tsigkey:" key with
  | some name => .tsigKey name
  | none =>
  match after? "desectoken:" key with
  | some name => .token name
  | none =>
  match after? "group-ttl:" key with
  | some zone => .groupTtl zone
  | none =>
  match after? "dnskey-origin:" key with
  | some fingerprint => .dnskeyOrigin fingerprint
  | none =>
  match after? "ns-origin:" key with
  | some name => .nsOrigin name
  | none => if key = debugSetting then .debugUpdater else .other

/-! ## 3. Changing an entry -/

/-- Reads a time to live, which is at least one second. -/
def parseTtl (value : String) : Except Error UInt32 :=
  match Decimal.below? 0x100000000 value.toList with
  | some n => if 0 < n then .ok (UInt32.ofNat n) else .error (.invalidArgument "TTL" value)
  | none => .error (.invalidArgument "TTL" value)

/-- Sets an entry. -/
def setEntry (s : State) (key value : String) : Except Error State :=
  match EntryKey.ofString key with
  | .tsigKey name =>
    if name.isEmpty then .error (.readOnlyKey key)
    else if (Base64.decodeString? value).isNone then
      .error (.invalidArgument "TSIG secret" hiddenSecret)
    else .ok { s with tsigKeys := s.tsigKeys.insert name value }
  | .token name =>
    if name.isEmpty then .error (.readOnlyKey key)
    else if value.isEmpty then .error (.invalidArgument "deSEC token" "")
    else .ok { s with tokens := s.tokens.insert name value }
  | .groupTtl zone => do
    let zone ← DomainName.parseAbsolute zone
    let ttl ← parseTtl value
    let _ ← s.group zone
    return s.modifyGroup zone fun g => { g with ttl := ttl }
  | .debugUpdater =>
    if value = "yes" ∨ value = "no" then
      .ok { s with settings := s.settings.insert debugSetting value }
    else .error (.invalidArgument debugSetting value)
  | _ => .error (.readOnlyKey key)

/-- Removes an entry, or sets the time to live of a group back.  Tells whether that is a change. -/
def removeEntry (s : State) (key : String) : Except Error (Bool × State) :=
  match EntryKey.ofString key with
  | .tsigKey name => .ok (s.tsigKeys.contains name, { s with tsigKeys := s.tsigKeys.erase name })
  | .token name => .ok (s.tokens.contains name, { s with tokens := s.tokens.erase name })
  | .groupTtl zone => do
    let zone ← DomainName.parseAbsolute zone
    let g ← s.group zone
    return (g.ttl != Group.defaultTtl,
      s.modifyGroup zone fun g => { g with ttl := Group.defaultTtl })
  | .dnskeyOrigin key =>
    .ok (s.dnskeyOrigin.contains key, { s with dnskeyOrigin := s.dnskeyOrigin.erase key })
  | .nsOrigin name => do
    let ns ← DomainName.parseAbsolute name
    return (s.nsOrigin.contains ns, { s with nsOrigin := s.nsOrigin.erase ns })
  | .debugUpdater =>
    .ok (s.settings.contains debugSetting, { s with settings := s.settings.erase debugSetting })
  | .other => .error (.readOnlyKey key)

end MultiSigner.State
