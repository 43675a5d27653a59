import MultiSigner.Operation.Push
/-!
# Bringing the keys of signers in line

Each signer that stays gets the shared keys of the others that stay.  A key that a leaving signer
was the first to have is taken out at all others.

Keys are compared by their bytes when it comes to whether a signer has one, by their fingerprints
when it comes to their origin.

## Contents

1. Origins.
2. Keys to take out.
3. Keys to put in.
4. Plans and lines.
5. The operation.
-/

namespace MultiSigner.Sync.Dnskeys

open Operation
open SignerView (staying departing leavingOrigin?)

variable {ω : Type}

/-! ## 1. Origins -/

/-- Notes where the shared keys of a signer were seen, unless they are known. -/
def recordOrigins (s : State) (v : SignerView) : State :=
  v.syncedKeys.foldl (fun s k => (s.recordDnskeyOrigin k.fingerprint v.name).2) s

/-- Whether a leaving signer was the first to have a key. -/
def isLeaving (views : List SignerView) (origins : OrderedMap String String) (k : Dnskey) : Bool :=
  (leavingOrigin? views origins k).isSome

/-! ## 2. Keys to take out -/

/-- The keys that a signer should no longer have. -/
def withdrawn (views : List SignerView) (origins : OrderedMap String String) (v : SignerView) :
    List Dnskey :=
  v.dnskeys.filter (isLeaving views origins)

/-- What is reported about them. -/
def withdrawalReport (views : List SignerView) (origins : OrderedMap String String) :
    Report String :=
  (departing views).map (fun v =>
    .ok s!"Signer {v.name} is leaving, removing its DNSKEYs from others")
  ++ (staying views).flatMap fun v => (withdrawn views origins v).flatMap fun k =>
    Report.withTag k fun tag => [s!"- {tag} {k.publicKeyText}"]

/-! ## 3. Keys to put in -/

/-- The keys that a signer offers to the others. -/
def offered (views : List SignerView) (origins : OrderedMap String String) (v : SignerView) :
    List Dnskey :=
  v.syncedKeys.filter fun k => !isLeaving views origins k

/-- How an offered key stands with another signer, as far as it needs no change there. -/
def keyAt (k : Dnskey) (other : SignerView) : List String :=
  match other.dnskeys.find? fun l => l.sameKey k with
  | none => []
  | some found =>
    if found.algorithm = k.algorithm then [s!"  Key exist in {other.name}"]
    else [s!"  Found DNSKEY in {other.name} but algorithm mismatch, not syncing"]

/-- What is reported about the offered keys. -/
def offerReport (views : List SignerView) (origins : OrderedMap String String) : Report String :=
  (staying views).flatMap fun v =>
    .ok s!"Syncing {v.name} DNSKEYs" :: (offered views origins v).flatMap fun k =>
      Report.withTag k fun tag => s!"- {tag} {k.publicKeyText}"
        :: ((staying views).filter fun o => o.name != v.name).flatMap (keyAt k)

/-- The offers that reach a signer, each with the time to live at the signer that makes it. -/
def offersTo (views : List SignerView) (origins : OrderedMap String String) (other : SignerView) :
    List Record :=
  ((staying views).filter fun v => v.name != other.name).flatMap fun v =>
    (offered views origins v).map fun k => ⟨v.dnskeyTtl, .dnskey k⟩

/-- Whether a signer has the key of a record, whatever its algorithm. -/
def hasKey (v : SignerView) (r : Record) : Bool :=
  match r.data with
  | .dnskey k => v.dnskeys.any fun l => l.sameKey k
  | _ => false

/-- The records that a signer lacks, each one once. -/
def missing (views : List SignerView) (origins : OrderedMap String String) (other : SignerView) :
    List Record :=
  ((offersTo views origins other).filter fun r => !hasKey other r).foldl
    (fun records r => if records.any (r == ·) then records else records ++ [r]) []

/-! ## 4. Plans -/

/-- The changes for a signer. -/
def plan (views : List SignerView) (origins : OrderedMap String String) (v : SignerView) : Plan :=
  let removes := (withdrawn views origins v).map fun k => ⟨v.dnskeyTtl, .dnskey k⟩
  let inserts := missing views origins v
  { member := v.member
    changes := { inserts := inserts, removes := removes }
    applied := removes.map (fun _ => s!"  Removed DNSKEY from {v.name}")
      ++ inserts.map fun _ => s!"  Added DNSKEY to {v.name}" }

/-- The changes for all signers that stay. -/
def plans (views : List SignerView) (origins : OrderedMap String String) : List Plan :=
  (staying views).map (plan views origins)

/-! ## 5. The operation -/

/-- Brings the keys of a group's signers in line. -/
def run (zone : DomainName) : Operation ω Unit := do
  let views ← observeGroup zone [.dnskey]
  modifyState fun s => views.foldl recordOrigins s
  let origins := (← state).dnskeyOrigin
  tell (withdrawalReport views origins ++ offerReport views origins)
  Push.push zone (plans views origins)

end MultiSigner.Sync.Dnskeys
