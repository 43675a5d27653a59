import MultiSigner.Record.Csync
import MultiSigner.Record.Ds
/-!
# Records

The records that are seen at a server or sent to it.  Their equality is the one that decides
whether a server has a record already: names compare by their labels.
-/

namespace MultiSigner

/-- The data of a record. -/
inductive RecordData
  | dnskey (key : Dnskey)
  | cdnskey (key : Dnskey)
  | ds (ds : Ds)
  | cds (ds : Ds)
  | ns (name : DomainName)
  | soa (serial : UInt32)
  | csync (csync : Csync)
  deriving Repr

namespace RecordData

/-- Whether two records have the same data. -/
def same : RecordData → RecordData → Bool
  | dnskey k, dnskey l => k == l
  | cdnskey k, cdnskey l => k == l
  | ds d, ds e => d == e
  | cds d, cds e => d == e
  | ns a, ns b => a == b
  | soa m, soa n => m == n
  | csync c, csync d => c == d
  | _, _ => false

instance : BEq RecordData := ⟨same⟩

theorem same_refl (d : RecordData) : same d d = true := by
  cases d <;> simp [same]

/-- The kind of a record. -/
def kind : RecordData → RecordKind
  | dnskey _ => .dnskey
  | cdnskey _ => .cdnskey
  | ds _ => .ds
  | cds _ => .cds
  | ns _ => .ns
  | soa _ => .soa
  | csync _ => .csync

/-- The text of a record. -/
def text : RecordData → String
  | dnskey k => "DNSKEY " ++ k.text
  | cdnskey k => "CDNSKEY " ++ k.text
  | ds d => "DS " ++ d.text
  | cds d => "CDS " ++ d.text
  | ns n => "NS " ++ n.display
  | soa serial => s!"SOA serial {serial}"
  | csync c => "CSYNC " ++ c.text

theorem kind_eq_of_same {d e : RecordData} (h : same d e = true) : d.kind = e.kind := by
  cases d <;> cases e <;> simp_all [same, kind]

end RecordData

/-- A record of a zone: how long it may be kept, and its data. -/
structure Record where
  ttl : UInt32
  data : RecordData
  deriving Repr

namespace Record

instance : BEq Record := ⟨fun r s => r.ttl == s.ttl && r.data == s.data⟩

/-- The kind of a record. -/
def kind (r : Record) : RecordKind :=
  r.data.kind

/-- The text of a record with its time to live. -/
def text (r : Record) : String :=
  s!"{r.ttl} " ++ r.data.text

end Record
end MultiSigner
