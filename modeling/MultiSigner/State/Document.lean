import MultiSigner.Json.Decode
import MultiSigner.Json.Printer
import MultiSigner.State.Basic
/-!
# The document as JSON

What is stored in a state file.  On reading, fields that are not known are passed over and fields
that are left out have their default values; on writing, fields stand in a fixed order, entries in
the order of their keys, and an error or a credential only where there is one.

## Contents

1. Writing.
2. Reading.
3. Texts.
-/

namespace MultiSigner

/-! ## 1. Writing -/

namespace State

/-- A deadline; one that has no text can not be written. -/
def encodeDeadline : Option Timestamp → Option Json
  | none => some .null
  | some t => t.text?.map .string

/-- The answers of the last status. -/
def encodeSynced (f : SyncFlags) : Json :=
  .object [("dnskeys", .bool f.dnskeys), ("cdscdnskeys", .bool f.cds),
    ("parent_ds", .bool f.parentDs), ("nses", .bool f.ns), ("parent_ns", .bool f.parentNs)]

/-- A group. -/
def encodeGroup (g : Group) : Option Json := do
  let waitDs ← encodeDeadline g.waitDs
  let waitNs ← encodeDeadline g.waitNs
  return .object ([("signers", Json.strings g.signers), ("parent", .string g.parent),
      ("stage", .string g.stage.name)]
    ++ Json.member "error" .string g.error
    ++ [("wait_ds", waitDs), ("wait_ns", waitNs), ("ttl", Json.nat g.ttl.toNat),
      ("synced", encodeSynced g.synced)])

/-- A signer. -/
def encodeSigner (s : Signer) : Json :=
  .object ([("group", .string s.group.display), ("address", .string s.address),
      ("nameserver", .string s.nameserver.display), ("kind", .string s.kind.name)]
    ++ Json.member "credential" .string s.credential
    ++ [("leaving", .bool s.leaving), ("csk", .bool s.combined)])

/-- Entries whose values are texts. -/
def encodeTexts {κ : Type} [Ord κ] (key : κ → String) (m : OrderedMap κ String) : Json :=
  .object (m.entries.map fun (k, v) => (key k, .string v))

/-- The document.  It can not be written if a deadline can not. -/
def encode (s : State) : Option Json := do
  let groups ← s.groups.entries.mapM fun (zone, g) => return (zone.display, ← encodeGroup g)
  return .object [
    ("groups", .object groups),
    ("signers", .object (s.signers.entries.map fun (name, t) => (name, encodeSigner t))),
    ("tsig_keys", encodeTexts id s.tsigKeys),
    ("desec_tokens", encodeTexts id s.tokens),
    ("dnskey_origin", encodeTexts id s.dnskeyOrigin),
    ("ns_origin", encodeTexts DomainName.display s.nsOrigin),
    ("autostart", Json.strings (s.autostart.map DomainName.display)),
    ("settings", encodeTexts id s.settings)]

/-! ## 2. Reading -/

open Json (Draft Fault Field)

/-- A domain name. -/
def decodeName : Draft → Except Fault DomainName :=
  Draft.toTextVia DomainName.ofString?

/-- A deadline. -/
def decodeDeadline : Draft → Except Fault (Option Timestamp) :=
  Draft.toOption (Draft.toTextVia Timestamp.ofString?)

/-- The answers of the last status. -/
def decodeSynced : Draft → Except Fault SyncFlags :=
  Draft.toStructure [
    .mayBe "dnskeys" Draft.toBool fun f b => { f with dnskeys := b },
    .mayBe "cdscdnskeys" Draft.toBool fun f b => { f with cds := b },
    .mayBe "parent_ds" Draft.toBool fun f b => { f with parentDs := b },
    .mayBe "nses" Draft.toBool fun f b => { f with ns := b },
    .mayBe "parent_ns" Draft.toBool fun f b => { f with parentNs := b }] {}

/-- A group. -/
def decodeGroup : Draft → Except Fault Group :=
  Draft.toStructure [
    .mayBe "signers" (Draft.toList Draft.toText) fun g v => { g with signers := v },
    .mustBe "parent" Draft.toText fun g v => { g with parent := v },
    .mayBe "stage" (Draft.toName Stage.ofName?) fun g v => { g with stage := v },
    .mayBe "error" (Draft.toOption Draft.toText) fun g v => { g with error := v },
    .mayBe "wait_ds" decodeDeadline fun g v => { g with waitDs := v },
    .mayBe "wait_ns" decodeDeadline fun g v => { g with waitNs := v },
    .mayBe "ttl" (Draft.toNatBelow 0x100000000) fun g v => { g with ttl := UInt32.ofNat v },
    .mayBe "synced" decodeSynced fun g v => { g with synced := v }] { parent := "" }

/-- A signer. -/
def decodeSigner : Draft → Except Fault Signer :=
  Draft.toStructure [
    .mustBe "group" decodeName fun s v => { s with group := v },
    .mustBe "address" Draft.toText fun s v => { s with address := v },
    .mustBe "nameserver" decodeName fun s v => { s with nameserver := v },
    .mayBe "kind" (Draft.toName UpdaterKind.ofName?) fun s v => { s with kind := v },
    .mayBe "credential" (Draft.toOption Draft.toText) fun s v => { s with credential := v },
    .mayBe "leaving" Draft.toBool fun s v => { s with leaving := v },
    .mayBe "csk" Draft.toBool fun s v => { s with combined := v }]
    { group := .root, address := "", nameserver := .root }

/-- Entries by text. -/
def decodeByText {α : Type} (decode : Draft → Except Fault α) :
    Draft → Except Fault (OrderedMap String α) :=
  Draft.toMap some decode (fun m k v => m.insert k v) .empty

/-- Entries by domain name. -/
def decodeByName {α : Type} (decode : Draft → Except Fault α) :
    Draft → Except Fault (OrderedMap DomainName α) :=
  Draft.toMap DomainName.ofString? decode (fun m k v => m.insert k v) .empty

/-- The document. -/
def decode : Draft → Except Fault State :=
  Draft.toStructure [
    .mayBe "groups" (decodeByName decodeGroup) fun s v => { s with groups := v },
    .mayBe "signers" (decodeByText decodeSigner) fun s v => { s with signers := v },
    .mayBe "tsig_keys" (decodeByText Draft.toText) fun s v => { s with tsigKeys := v },
    .mayBe "desec_tokens" (decodeByText Draft.toText) fun s v => { s with tokens := v },
    .mayBe "dnskey_origin" (decodeByText Draft.toText) fun s v => { s with dnskeyOrigin := v },
    .mayBe "ns_origin" (decodeByName Draft.toText) fun s v => { s with nsOrigin := v },
    .mayBe "autostart" (Draft.toList decodeName) fun s v => { s with autostart := v },
    .mayBe "settings" (decodeByText Draft.toText) fun s v => { s with settings := v }] .empty

/-! ## 3. Texts -/

/-- The text of a state file. -/
def documentText (s : State) : Except Error String :=
  match s.encode with
  | some v => .ok v.pretty
  | none => .error .invalidJson

/-- The state that a file's text says. -/
def ofDocumentText (text : String) : Except Error State :=
  match Draft.decodeText decode text with
  | .ok s => .ok s
  | .error _ => .error .invalidJson

end State
end MultiSigner
