import MultiSigner.Record.Ds
import MultiSigner.Report
import MultiSigner.View
/-!
# What is in sync

Five checks compare the views of the signers and of the parent.  Each one is a report of findings;
a flag is set if its check has no blocking finding.  The flags for the parent also need the
signers to be in sync.

Signers that are leaving take no part in the checks of keys, and their names should be gone.

## Contents

1. Findings.
2. Keys.
3. References to keys.
4. Name servers.
5. All checks.
-/

namespace MultiSigner

/-! ## 1. Findings -/

/-- Something that a check reports. -/
structure Finding where
  line : String
  /-- Whether it keeps the group from being in sync. -/
  blocking : Bool
  deriving Repr, DecidableEq

namespace Finding

/-- A finding that is as it should be. -/
def note (line : String) : Finding := ⟨line, false⟩

/-- A finding that has to be mended. -/
def block (line : String) : Finding := ⟨line, true⟩

/-- Whether nothing has to be mended. -/
def clear (findings : List Finding) : Bool :=
  findings.all fun f => !f.blocking

end Finding

namespace Evaluation

open Finding (note block)
open SignerView (staying departing leavingOrigin?)

/-! ## 2. Keys -/

/-- What is wrong with a key of one signer at another one. -/
def keyAt (tag : UInt16) (key : Dnskey) (other : SignerView) : List Finding :=
  match other.dnskeys.find? fun k => k.sameKey key with
  | none => [block s!"DNSKEY {tag} missing in {other.name}"]
  | some found =>
    if found.algorithm = key.algorithm then []
    else [block (s!"Found DNSKEY {tag} in {other.name} but algorithm mismatch: "
      ++ s!"{found.algorithm}, expected {key.algorithm}")]

/-- What is wrong with a key that a signer shares. -/
def sharedKey (views : List SignerView) (origins : OrderedMap String String) (v : SignerView)
    (key : Dnskey) : Report Finding :=
  Report.withTag key fun tag =>
    match leavingOrigin? views origins key with
    | some origin =>
      [block s!"DNSKEY {tag} needs removal from {v.name}: originates from leaving signer {origin}"]
    | none => ((staying views).filter fun o => o.name != v.name).flatMap (keyAt tag key)

/-- Whether each key that a signer shares is at all others, and none is left of those who leave. -/
def dnskeys (views : List SignerView) (origins : OrderedMap String String) : Report Finding :=
  views.flatMap fun v =>
    if v.leaving then
      [.ok (note s!"Skipping sync status of {v.name} DNSKEYs: leaving signer")]
    else
      .ok (note s!"Check sync status of {v.name} DNSKEYs")
        :: v.syncedKeys.flatMap (sharedKey views origins v)

/-! ## 3. References to keys -/

/-- The keys that the parent should refer to, each one once. -/
def activeKeys (views : List SignerView) : List Dnskey :=
  ((staying views).flatMap SignerView.keySigningKeys).foldl
    (fun keys k => if keys.contains k then keys else keys ++ [k]) []

/-- What a signer lacks to make the parent refer to a key. -/
def referenceAt (zone : DomainName) (v : SignerView) (key : Dnskey) : Report Finding :=
  Report.withTag key fun tag =>
    (if v.cds.any (key.isReferredBy zone) then []
      else [block s!"CDS missing in {v.name} for KSK {tag}"])
    ++ (if v.cdnskeys.contains key then []
      else [block s!"CDNSKEY missing in {v.name} for KSK {tag}"])

/-- Whether every signer asks the parent to refer to every key. -/
def cds (zone : DomainName) (views : List SignerView) : Report Finding :=
  views.flatMap fun v =>
    if v.leaving then
      [.ok (note s!"Skipping sync status of {v.name} CDS/CDNSKEYs: leaving signer")]
    else
      .ok (note s!"Check sync status of {v.name} CDS/CDNSKEYs")
        :: (activeKeys views).flatMap (referenceAt zone v)

/-- The references that the parent should have, each one once. -/
def expectedDs (views : List SignerView) : List Ds :=
  ((staying views).flatMap SignerView.cds).foldl
    (fun ds d => if ds.contains d then ds else ds ++ [d]) []

/-- Whether the parent refers to just those keys that the signers ask for. -/
def parentDs (views : List SignerView) (parent : ParentView) : List Finding :=
  note "Check sync status of parent DS"
    :: (parent.ds.map fun d =>
      if (expectedDs views).contains d then note s!"  found DS {d.text}"
      else block s!"  DS needs removal: {d.text}")
    ++ ((expectedDs views).filter fun d => !parent.ds.contains d).map fun d =>
      block s!"  Missing DS for CDS: {d.text}"

/-! ## 4. Name servers -/

/-- Names in their order, each one once and in its latest spelling. -/
def nameSet (names : List DomainName) : List DomainName :=
  (OrderedMap.ofList (names.map fun n => (n, n))).entries.map Prod.snd

/-- The names of the signers that are leaving. -/
def leavingNames (views : List SignerView) : List DomainName :=
  (departing views).map SignerView.nameserver

/-- Every name that some signer serves. -/
def servedNames (views : List SignerView) : List DomainName :=
  nameSet (views.flatMap SignerView.ns)

/-- Whether a name is one of some names. -/
def isOneOf (names : List DomainName) (n : DomainName) : Bool :=
  names.any (· == n)

/-- Whether all signers serve the same names, none of which is leaving. -/
def nameservers (views : List SignerView) : List Finding :=
  (views.flatMap fun v =>
    note s!"Check sync status of {v.name} NSes"
      :: ((servedNames views).filter fun n => !isOneOf v.ns n).map fun n =>
        block s!"NS {n} missing in {v.name}")
  ++ ((departing views).filter fun v => isOneOf (servedNames views) v.nameserver).map fun v =>
    block s!"NS {v.nameserver} of leaving signer {v.name} needs removal"

/-- The names that the parent should have. -/
def expectedNames (views : List SignerView) : List DomainName :=
  nameSet ((views.flatMap SignerView.ns).filter fun n => !isOneOf (leavingNames views) n)

/-- Whether the parent has just the names that stay. -/
def parentNs (views : List SignerView) (parent : ParentView) : List Finding :=
  note "Check sync status of parent NS"
    :: (parent.ns.map fun n =>
      if isOneOf (leavingNames views) n then block s!"  found leaving NS {n}, needs removal"
      else if isOneOf (expectedNames views) n then note s!"  found NS {n}"
      else block s!"  unexpected NS {n}, needs removal")
    ++ ((expectedNames views).filter fun n => !isOneOf parent.ns n).map fun n =>
      block s!"  Missing NS: {n}"

end Evaluation

/-! ## 5. All checks -/

/-- What the checks say about a group, and the flags if nothing failed. -/
structure Evaluation where
  lines : List String
  flags : Except Error SyncFlags
  deriving Repr

namespace Evaluation

/-- How a flag is reported. -/
def summary (what : String) (b : Bool) : String :=
  what ++ " synced: " ++ (if b then "yes" else "no")

/-- The lines at the end of a report. -/
def summaries (f : SyncFlags) : List String :=
  [summary "DNSKEYs" f.dnskeys, summary "CDS/CDNSKEYs" f.cds, summary "NSes" f.ns,
    summary "Parent DS" f.parentDs, summary "Parent NS" f.parentNs]

/-- The flags, given what the checks found. -/
def flagsOf (dnskeys cds ns parentDs parentNs : List Finding) : SyncFlags where
  dnskeys := Finding.clear dnskeys
  cds := Finding.clear cds
  parentDs := Finding.clear parentDs && Finding.clear cds
  ns := Finding.clear ns
  parentNs := Finding.clear parentNs && Finding.clear ns

/-- Evaluates the views of a group. -/
def ofViews (zone : DomainName) (views : List SignerView) (parent : ParentView)
    (origins : OrderedMap String String) : Evaluation :=
  let keys := dnskeys views origins ++ cds zone views
  match keys.failure? with
  | some e => ⟨keys.items.map Finding.line, .error e⟩
  | none =>
    let ns := nameservers views
    let parentDs := parentDs views parent
    let parentNs := parentNs views parent
    let flags := flagsOf (dnskeys views origins).items (cds zone views).items ns parentDs parentNs
    ⟨(keys.items ++ ns ++ parentDs ++ parentNs).map Finding.line ++ summaries flags, .ok flags⟩

end Evaluation
end MultiSigner
