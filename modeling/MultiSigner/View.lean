import MultiSigner.Record.Data
import MultiSigner.State.Basic
/-!
# What servers serve

`SignerView` is what one signer answers about the zone, `ParentView` what the parent answers about
the delegation.  Both are built by absorbing one answer after the other.

## Contents

1. Answers.
2. Views of a signer.
3. Keys of a view.
4. Views of the parent.
-/

namespace MultiSigner

/-! ## 1. Answers -/

/-- The records that a server answers with. -/
structure Answer where
  records : List Record := []
  deriving Repr

/-- The largest time to live of the records, zero if there are none. -/
def Answer.maxTtl (a : Answer) : UInt32 :=
  (a.records.map Record.ttl).foldl max 0

/-- Adds a name unless it is there. -/
def addName (names : List DomainName) (n : DomainName) : List DomainName :=
  if names.any (· == n) then names else names ++ [n]

/-! ## 2. Signers -/

/-- What a member of a group serves. -/
structure SignerView where
  member : Member
  dnskeys : List Dnskey := []
  dnskeyTtl : UInt32 := 0
  cds : List Ds := []
  cdnskeys : List Dnskey := []
  ns : List DomainName := []
  nsTtl : UInt32 := 0
  deriving Repr

namespace SignerView

/-- The name of the signer. -/
def name (v : SignerView) : String := v.member.name

/-- Whether the signer is leaving. -/
def leaving (v : SignerView) : Bool := v.member.signer.leaving

/-- The name under which the zone lists the signer. -/
def nameserver (v : SignerView) : DomainName := v.member.signer.nameserver

/-- Takes in one record of an answer with the given largest time to live. -/
def absorbRecord (ttl : UInt32) (v : SignerView) (r : Record) : SignerView :=
  match r.data with
  | .dnskey key => { v with dnskeyTtl := ttl, dnskeys := v.dnskeys ++ [key] }
  | .cds ds => { v with cds := v.cds ++ [ds] }
  | .cdnskey key => { v with cdnskeys := v.cdnskeys ++ [key] }
  | .ns ns => { v with nsTtl := ttl, ns := addName v.ns ns }
  | .ds _ => v
  | .soa _ => v
  | .csync _ => v

/-- Takes in an answer. -/
def absorb (v : SignerView) (a : Answer) : SignerView :=
  a.records.foldl (absorbRecord a.maxTtl) v

/-! ## 3. Keys -/

/-- The keys that all signers should have: those that sign the zone, or every key of a signer whose
keys do not differ in role. -/
def syncedKeys (v : SignerView) : List Dnskey :=
  v.dnskeys.filter fun k => v.member.signer.combined || k.role == .zoneSigning

/-- The keys that the parent should refer to. -/
def keySigningKeys (v : SignerView) : List Dnskey :=
  v.dnskeys.filter fun k => k.role == .keySigning

/-- The views of the signers that stay. -/
def staying (views : List SignerView) : List SignerView :=
  views.filter fun v => !v.leaving

/-- The views of the signers that are leaving. -/
def departing (views : List SignerView) : List SignerView :=
  views.filter SignerView.leaving

/-- The origin of a key, if that is one of the signers that are leaving. -/
def leavingOrigin? (views : List SignerView) (origins : OrderedMap String String) (k : Dnskey) :
    Option String :=
  (origins.get? k.fingerprint).filter fun origin => (departing views).any fun v => v.name == origin

theorem absorbRecord_member (ttl : UInt32) (v : SignerView) (r : Record) :
    (v.absorbRecord ttl r).member = v.member := by
  unfold absorbRecord
  cases r.data <;> rfl

theorem absorb_member (v : SignerView) (a : Answer) : (v.absorb a).member = v.member := by
  unfold absorb
  generalize a.maxTtl = ttl
  induction a.records generalizing v with
  | nil => rfl
  | cons r rest ih => rw [List.foldl_cons, ih, absorbRecord_member]

end SignerView

/-! ## 4. The parent -/

/-- What a server of the parent zone serves for the delegation. -/
structure ParentView where
  ds : List Ds := []
  ns : List DomainName := []
  deriving Repr

namespace ParentView

/-- Takes in one record. -/
def absorbRecord (v : ParentView) (r : Record) : ParentView :=
  match r.data with
  | .ds ds => { v with ds := v.ds ++ [ds] }
  | .ns ns => { v with ns := addName v.ns ns }
  | _ => v

/-- Takes in an answer. -/
def absorb (v : ParentView) (a : Answer) : ParentView :=
  a.records.foldl absorbRecord v

end ParentView
end MultiSigner
