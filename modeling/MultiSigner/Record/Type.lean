/-!
# Record types and classes

`RecordType` is the number of any record type, with its mnemonic.  `RecordKind` is one of the seven
types that signers are asked for or changed at.  `RecordClass` is the class under which a record
stands in a message.

Main statement: `RecordKind.ofType?_type` (a kind is known by its number).
-/

namespace MultiSigner

/-- The type of a record, by its number. -/
structure RecordType where
  number : UInt16
  deriving Repr, DecidableEq

namespace RecordType

/-- The numbers of the types that have a mnemonic. -/
def mnemonics : List (Nat × String) :=
  [(1, "A"), (2, "NS"), (5, "CNAME"), (6, "SOA"), (10, "NULL"), (12, "PTR"), (13, "HINFO"),
    (15, "MX"), (16, "TXT"), (24, "SIG"), (25, "KEY"), (28, "AAAA"), (33, "SRV"), (35, "NAPTR"),
    (41, "OPT"), (43, "DS"), (44, "SSHFP"), (46, "RRSIG"), (47, "NSEC"), (48, "DNSKEY"),
    (50, "NSEC3"), (51, "NSEC3PARAM"), (52, "TLSA"), (59, "CDS"), (60, "CDNSKEY"),
    (61, "OPENPGPKEY"), (62, "CSYNC"), (64, "SVCB"), (65, "HTTPS"), (250, "TSIG"), (251, "IXFR"),
    (252, "AXFR"), (255, "ANY"), (257, "CAA"), (65305, "ANAME")]

/-- How a type is called. -/
def name (t : RecordType) : String :=
  ((mnemonics.find? fun m => m.1 == t.number.toNat).map Prod.snd).getD "Unknown"

/-- The type of the given mnemonic. -/
def ofName? (s : String) : Option RecordType :=
  (mnemonics.find? fun m => m.2 == s).map fun m => ⟨UInt16.ofNat m.1⟩

/-- Addresses of version 4. -/
def a : RecordType := ⟨1⟩

/-- Name servers. -/
def ns : RecordType := ⟨2⟩

/-- Addresses of version 6. -/
def aaaa : RecordType := ⟨28⟩

/-- Signatures of messages. -/
def tsig : RecordType := ⟨250⟩

end RecordType

/-- The types of records that signers are asked for or changed at. -/
inductive RecordKind
  | ns
  | soa
  | ds
  | dnskey
  | cds
  | cdnskey
  | csync
  deriving Repr, DecidableEq

namespace RecordKind

/-- Every kind. -/
def all : List RecordKind :=
  [ns, soa, ds, dnskey, cds, cdnskey, csync]

/-- The type of a kind. -/
def type : RecordKind → RecordType
  | ns => ⟨2⟩
  | soa => ⟨6⟩
  | ds => ⟨43⟩
  | dnskey => ⟨48⟩
  | cds => ⟨59⟩
  | cdnskey => ⟨60⟩
  | csync => ⟨62⟩

/-- How a kind is called. -/
def name : RecordKind → String
  | ns => "NS"
  | soa => "SOA"
  | ds => "DS"
  | dnskey => "DNSKEY"
  | cds => "CDS"
  | cdnskey => "CDNSKEY"
  | csync => "CSYNC"

/-- The kind of a type. -/
def ofType? (t : RecordType) : Option RecordKind :=
  all.find? fun k => k.type == t

/-- The kind of the given name. -/
def ofName? (s : String) : Option RecordKind :=
  all.find? fun k => k.name == s

theorem name_type (k : RecordKind) : k.type.name = k.name := by
  cases k <;> decide

theorem ofType?_type (k : RecordKind) : ofType? k.type = some k := by
  cases k <;> decide

end RecordKind

/-- The class of a record in a message.  The last two have a meaning in updates only. -/
inductive RecordClass
  | internet
  /-- No record is to be like this one. -/
  | none
  /-- Records of any data are meant. -/
  | any
  deriving Repr, DecidableEq

/-- The number of a class. -/
def RecordClass.number : RecordClass → Nat
  | internet => 1
  | none => 254
  | any => 255

end MultiSigner
