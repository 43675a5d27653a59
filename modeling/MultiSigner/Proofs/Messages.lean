/-
# Update messages mean their changes

A change set is applied at once: sets are taken out, then records, then new records are added.  The
message that is sent for it is one flat list of entries, which a server processes one after the
other, and what an entry does depends on its class.

* `UpdateMessage.ofChanges_eq`: the message of a change set, or the one reason why there is none.
* `kind_of_mem_saying`: the kind of an entry is that of its data.
* `foldl_dropKinds`, `foldl_drops`, `foldl_puts`: what the entries of each class do to the records
  at a name, all of them taken together.

Main statement: `UpdateMessage.process_ofChanges`.
-/
import MultiSigner.Proofs.Operation
import MultiSigner.Proofs.Serving
import MultiSigner.Update.Message

namespace MultiSigner

variable {zone owner : DomainName} {records : List Record}

/-! ## 1. What is sent -/

/-- Some record to be taken out or put in is the start of a zone. -/
def ChangeSet.TouchesStart (c : ChangeSet) : Prop :=
  ∃ r ∈ c.removes ++ c.inserts, ∃ serial, r.data = .soa serial

theorem Record.kind_eq_soa_iff {r : Record} : r.kind = .soa ↔ ∃ serial, r.data = .soa serial := by
  obtain ⟨ttl, d⟩ := r
  cases d <;> simp [kind, RecordData.kind]

/-- A pass over a list in which some items are refused, all for the same reason. -/
theorem mapM_refusing {α β : Type} {p : α → Prop} [DecidablePred p] {e : Error} {g : α → β}
    {f : α → Except Error β} (h : ∀ a, f a = if p a then .error e else .ok (g a)) (l : List α) :
    l.mapM f = if ∃ a ∈ l, p a then .error e else .ok (l.map g) := by
  induction l with
  | nil => simp [pure, Except.pure]
  | cons a l ih =>
    rw [List.mapM_cons, h a, ih]
    have hcons : (∃ b ∈ a :: l, p b) ↔ p a ∨ ∃ b ∈ l, p b := by simp
    by_cases ha : p a
    · rw [if_pos ha, if_pos (hcons.2 (.inl ha))]
      rfl
    · by_cases hl : ∃ b ∈ l, p b
      · rw [if_neg ha, if_pos hl, if_pos (hcons.2 (.inr hl))]
        rfl
      · rw [if_neg ha, if_neg hl, if_neg fun h => (hcons.1 h).elim ha hl]
        rfl

namespace UpdateEntry

/-- The entry that takes out a record. -/
def removal (zone : DomainName) (r : Record) : UpdateEntry :=
  ⟨zone, r.kind, .none, 0, some r.data⟩

/-- The entry that puts in a record. -/
def insertion (zone : DomainName) (r : Record) : UpdateEntry :=
  ⟨zone, r.kind, .internet, r.ttl, some r.data⟩

theorem dataOf_eq (r : Record) :
    dataOf r = if r.kind = .soa then .error (.malformedRecord "SOA") else .ok r.data := by
  obtain ⟨ttl, d⟩ := r
  cases d <;> rfl

theorem dropRecord_eq (zone : DomainName) (r : Record) : dropRecord zone r
    = if r.kind = .soa then .error (.malformedRecord "SOA") else .ok (removal zone r) := by
  rw [dropRecord, dataOf_eq]
  split <;> rfl

theorem put_eq (zone : DomainName) (r : Record) : put zone r
    = if r.kind = .soa then .error (.malformedRecord "SOA") else .ok (insertion zone r) := by
  rw [put, dataOf_eq]
  split <;> rfl

end UpdateEntry

namespace UpdateMessage

open UpdateEntry (dropKind removal insertion)

/-- The message that says the changes of a zone, whatever they are. -/
def saying (zone : DomainName) (c : ChangeSet) : UpdateMessage :=
  ⟨zone, c.removeKinds.map (dropKind zone) ++ c.removes.map (removal zone)
    ++ c.inserts.map (insertion zone)⟩

open Classical in
/-- **The message of a change set.**  Only the start of a zone can not be sent. -/
theorem ofChanges_eq (zone : DomainName) (c : ChangeSet) : ofChanges zone c
    = if c.TouchesStart then .error (.malformedRecord "SOA") else .ok (saying zone c) := by
  have hstart : c.TouchesStart ↔
      (∃ r ∈ c.removes, r.kind = .soa) ∨ ∃ r ∈ c.inserts, r.kind = .soa := by
    simp only [ChangeSet.TouchesStart, Record.kind_eq_soa_iff, List.mem_append, or_and_right,
      exists_or]
  rw [ofChanges, mapM_refusing (UpdateEntry.dropRecord_eq zone) c.removes,
    mapM_refusing (UpdateEntry.put_eq zone) c.inserts]
  by_cases hremoves : ∃ r ∈ c.removes, r.kind = .soa
  · rw [if_pos hremoves, if_pos (hstart.2 (.inl hremoves))]
    rfl
  · by_cases hinserts : ∃ r ∈ c.inserts, r.kind = .soa
    · rw [if_neg hremoves, if_pos hinserts, if_pos (hstart.2 (.inr hinserts))]
      rfl
    · rw [if_neg hremoves, if_neg hinserts, if_neg (fun h => (hstart.1 h).elim hremoves hinserts)]
      rfl

/-- Everything but the start of a zone can be sent. -/
theorem exists_ofChanges (zone : DomainName) {c : ChangeSet} (h : ¬ c.TouchesStart) :
    ∃ m, ofChanges zone c = .ok m :=
  ⟨_, (ofChanges_eq zone c).trans (if_neg h)⟩

/-- The message of a change set says its changes. -/
theorem eq_saying {c : ChangeSet} {m : UpdateMessage} (h : ofChanges zone c = .ok m) :
    m = saying zone c := by
  rw [ofChanges_eq] at h
  split at h
  · cases h
  · exact (Except.ok.inj h).symm

/-! ## 2. What a server makes of it -/

/-- The records at any name after the entries of a message were processed. -/
def processAt (owner : DomainName) (m : UpdateMessage) (records : List Record) : List Record :=
  m.entries.foldl (processEntry owner) records

/-- Entries about one name change nothing at another one. -/
theorem foldl_elsewhere {entries : List UpdateEntry} (h : ∀ e ∈ entries, (e.owner == owner) = false)
    (records : List Record) : entries.foldl (processEntry owner) records = records := by
  induction entries with
  | nil => rfl
  | cons e entries ih =>
    have he : processEntry owner records e = records := by
      rw [processEntry, h e List.mem_cons_self, if_neg Bool.false_ne_true]
    rw [List.foldl_cons, he]
    exact ih fun f hf => h f (List.mem_cons_of_mem e hf)

section Apex

variable (howner : (zone == owner) = true)

include howner

theorem foldl_dropKinds (kinds : List RecordKind) (records : List Record) :
    (kinds.map (dropKind zone)).foldl (processEntry owner) records
      = records.filter fun r => !kinds.contains r.kind := by
  induction kinds generalizing records with
  | nil => simp
  | cons kind kinds ih =>
    have hfirst : processEntry owner records (dropKind zone kind)
        = records.filter fun r => r.kind != kind := if_pos howner
    rw [List.map_cons, List.foldl_cons, hfirst, ih, List.filter_filter]
    refine List.filter_congr fun r _ => ?_
    rw [List.contains_cons, Bool.not_or, Bool.and_comm, bne]

theorem foldl_drops (removes records : List Record) :
    (removes.map (removal zone)).foldl (processEntry owner) records
      = records.filter fun r => !removes.any fun s => s.data == r.data := by
  induction removes generalizing records with
  | nil => simp
  | cons s removes ih =>
    have hfirst : processEntry owner records (removal zone s)
        = records.filter fun r => !(r.data == s.data) := if_pos howner
    rw [List.map_cons, List.foldl_cons, hfirst, ih, List.filter_filter]
    refine List.filter_congr fun r _ => ?_
    rw [List.any_cons, Bool.not_or, Bool.and_comm, BEq.comm]

theorem foldl_puts (inserts records : List Record) :
    (inserts.map (insertion zone)).foldl (processEntry owner) records
      = inserts.foldl ChangeSet.addRecord records := by
  induction inserts generalizing records with
  | nil => rfl
  | cons r inserts ih =>
    have hfirst : processEntry owner records (insertion zone r) = ChangeSet.addRecord records r :=
      if_pos howner
    rw [List.map_cons, List.foldl_cons, hfirst, ih, List.foldl_cons]

/-- **At the apex, the entries do what the changes say.** -/
theorem processAt_saying (c : ChangeSet) (records : List Record) :
    (saying zone c).processAt owner records = c.applyTo records := by
  rw [processAt, saying, List.foldl_append, List.foldl_append, foldl_dropKinds howner,
    foldl_drops howner, foldl_puts howner, ChangeSet.applyTo]

end Apex

theorem owner_of_mem_saying {c : ChangeSet} {e : UpdateEntry} (h : e ∈ (saying zone c).entries) :
    e.owner = zone := by
  simp only [saying, List.mem_append, List.mem_map] at h
  obtain (⟨kind, -, rfl⟩ | ⟨r, -, rfl⟩) | ⟨r, -, rfl⟩ := h <;> rfl

/-- **An entry that takes out or puts in a record is of the kind of its data**; the others take out
whole sets and have none.  A server may thus go by the data alone, as it does here. -/
theorem kind_of_mem_saying {c : ChangeSet} {e : UpdateEntry} (h : e ∈ (saying zone c).entries) :
    (e.recordClass = .any ∧ e.data = none) ∨
      e.recordClass ≠ .any ∧ ∃ data, e.data = some data ∧ e.kind = data.kind := by
  simp only [saying, List.mem_append, List.mem_map] at h
  obtain (⟨kind, -, rfl⟩ | ⟨r, -, rfl⟩) | ⟨r, -, rfl⟩ := h
  · exact .inl ⟨rfl, rfl⟩
  · exact .inr ⟨nofun, r.data, rfl, rfl⟩
  · exact .inr ⟨nofun, r.data, rfl, rfl⟩

/-- **A message means its changes.**  There is none just if the start of a zone is to be taken out or
put in.  Otherwise it is for the zone and has one entry for each change, which is of the kind of its
data if it has some; and a server that processes them in their order makes of any records at the apex
what the changes make of them, and leaves those of other names alone. -/
theorem process_ofChanges (zone : DomainName) (c : ChangeSet) :
    ((∃ e, ofChanges zone c = .error e) ↔ c.TouchesStart) ∧
    (∀ e, ofChanges zone c = .error e → e = .malformedRecord "SOA") ∧
    ∀ m, ofChanges zone c = .ok m →
      m.zone = zone ∧
      m.entries.length = c.removeKinds.length + c.removes.length + c.inserts.length ∧
      (∀ e ∈ m.entries, (e.recordClass = .any ∧ e.data = none) ∨
        e.recordClass ≠ .any ∧ ∃ data, e.data = some data ∧ e.kind = data.kind) ∧
      ∀ records, m.process records = c.applyTo records ∧
        ∀ owner, m.processAt owner records = if zone == owner then c.applyTo records else records := by
  rw [ofChanges_eq]
  by_cases hstart : c.TouchesStart
  · rw [if_pos hstart]
    refine ⟨iff_of_true ⟨_, rfl⟩ hstart, fun e he => ?_, nofun⟩
    cases he
    rfl
  · rw [if_neg hstart]
    refine ⟨iff_of_false nofun hstart, nofun, fun m hm => ?_⟩
    cases hm
    refine ⟨rfl, ?_, fun e he => kind_of_mem_saying he, fun records => ⟨?_, fun owner => ?_⟩⟩
    · simp only [saying, List.length_append, List.length_map]
    · exact processAt_saying (DomainName.beq_iff.2 rfl) c records
    · cases howner : zone == owner with
      | true => exact processAt_saying howner c records
      | false =>
        refine foldl_elsewhere (fun e he => ?_) records
        rw [owner_of_mem_saying he, howner]

/-- A set is replaced by one message: what stood before is gone although new records are put in. -/
example : (saying .root ⟨[⟨60, .ns .root⟩], [], [.ns]⟩).process
    [⟨5, .ns ⟨[[97]], true⟩⟩, ⟨7, .soa 1⟩] == [⟨7, .soa 1⟩, ⟨60, .ns .root⟩] := by decide

end UpdateMessage
end MultiSigner
