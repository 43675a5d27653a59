/-
# Documents are read back

What is decoded from an encoded document says the same as the document (`decode_encode`), if its
names were read from texts and need no international form, and its deadlines can be written.

* What can be restored: `State.Restorable`, and `State.Legible` for documents of which it is open
  whether their deadlines can be written.
* Writing.  Everything that is written fits (`fits_encode`), and a document is written just if all
  of its deadlines are (`exists_encode`, `Legible.restorable`).
* Reading, from single values to the document.
-/
import MultiSigner.Proofs.Saving.Meaning
import MultiSigner.Proofs.Saving.Names
import MultiSigner.Proofs.Saving.Times
import MultiSigner.State.Document

namespace MultiSigner

open Json (Draft Fault Field draft)
open Json.Draft (readSlots toStructure_slots toTextVia_eq_ok toName_eq_ok toOption_eq_ok)

/-! ## 1. What can be restored -/

/-- A name that was read from a text and that has no internationalized label. -/
structure DomainName.Restorable (n : DomainName) : Prop where
  read : ∃ text, ofString? text = some n
  plain : n.Plain

/-- The deadlines of a group. -/
def Group.deadlines (g : Group) : List Timestamp :=
  g.waitDs.toList ++ g.waitNs.toList

namespace State

/-- The names in a document. -/
def names (s : State) : List DomainName :=
  s.groups.keys ++ s.signers.entries.flatMap (fun e => [e.2.group, e.2.nameserver])
    ++ s.nsOrigin.keys ++ s.autostart

/-- The deadlines in a document. -/
def deadlines (s : State) : List Timestamp :=
  s.groups.entries.flatMap fun e => e.2.deadlines

/-- **A document whose names and deadlines can be restored.** -/
structure Restorable (s : State) : Prop where
  names : ∀ n ∈ s.names, n.Restorable
  deadlines : ∀ t ∈ s.deadlines, t.Representable

/-- A document that can be restored if it can be written. -/
structure Legible (s : State) : Prop where
  names : ∀ n ∈ s.names, n.Restorable
  offsets : ∀ t ∈ s.deadlines, t.offset.natAbs < 1440

/-! ## 2. Writing -/

theorem mapM_eq_some {α β : Type} {f : α → Option β} : ∀ {as : List α} {bs : List β},
    as.mapM f = some bs ↔ List.Forall₂ (fun b a => f a = some b) bs as
  | [], bs => by
    rw [List.mapM_nil, List.forall₂_nil_right_iff]
    exact ⟨fun h => (Option.some.inj h).symm, fun h => congrArg some h.symm⟩
  | a :: as, bs => by
    rw [List.mapM_cons, List.forall₂_cons_right_iff]
    constructor
    · intro h
      obtain ⟨b, hb, h⟩ := Option.bind_eq_some_iff.1 h
      obtain ⟨cs, hcs, h⟩ := Option.bind_eq_some_iff.1 h
      exact ⟨b, cs, hb, mapM_eq_some.1 hcs, (Option.some.inj h).symm⟩
    · rintro ⟨b, cs, hb, hcs, rfl⟩
      rw [hb, mapM_eq_some.2 hcs]
      rfl

theorem exists_forall₂ {α β : Type} {R : β → α → Prop} : ∀ {as : List α},
    (∃ bs, List.Forall₂ R bs as) ↔ ∀ a ∈ as, ∃ b, R b a
  | [] => iff_of_true ⟨[], .nil⟩ fun a ha => by cases ha
  | a :: as => by
    rw [List.forall_mem_cons, ← exists_forall₂]
    constructor
    · rintro ⟨_, h⟩
      cases h with
      | cons hb hbs => exact ⟨⟨_, hb⟩, _, hbs⟩
    · rintro ⟨⟨b, hb⟩, bs, hbs⟩
      exact ⟨b :: bs, .cons hb hbs⟩

theorem exists_encodeDeadline {d : Option Timestamp} :
    (∃ v, encodeDeadline d = some v) ↔ ∀ t ∈ d, t.text?.isSome = true := by
  cases d with
  | none => exact iff_of_true ⟨.null, rfl⟩ fun t ht => by cases ht
  | some t =>
    rw [encodeDeadline, ← Option.isSome_iff_exists, Option.isSome_map]
    exact ⟨fun h u hu => Option.some.inj hu ▸ h, fun h => h t rfl⟩

theorem fits_encodeDeadline {d : Option Timestamp} {v : Json} (h : encodeDeadline d = some v) :
    v.Fits := by
  cases d with
  | none =>
    cases h
    exact .null
  | some t =>
    obtain ⟨text, -, rfl⟩ := Option.map_eq_some_iff.1 h
    exact .string text

/-- The members of a group whose deadlines are written as given. -/
def groupMembers (g : Group) (waitDs waitNs : Json) : List (String × Json) :=
  [("signers", Json.strings g.signers), ("parent", .string g.parent),
      ("stage", .string g.stage.name)]
    ++ Json.member "error" .string g.error
    ++ [("wait_ds", waitDs), ("wait_ns", waitNs), ("ttl", Json.nat g.ttl.toNat),
      ("synced", encodeSynced g.synced)]

theorem encodeGroup_eq_some {g : Group} {v : Json} : encodeGroup g = some v ↔
    ∃ ds ns, encodeDeadline g.waitDs = some ds ∧ encodeDeadline g.waitNs = some ns
      ∧ v = .object (groupMembers g ds ns) := by
  simp only [encodeGroup, Option.bind_eq_bind, Option.bind_eq_some_iff, Option.pure_def,
    Option.some.injEq]
  constructor
  · rintro ⟨ds, hds, ns, hns, rfl⟩
    exact ⟨ds, ns, hds, hns, rfl⟩
  · rintro ⟨ds, ns, hds, hns, rfl⟩
    exact ⟨ds, hds, ns, hns, rfl⟩

theorem exists_encodeGroup {g : Group} :
    (∃ v, encodeGroup g = some v) ↔ ∀ t ∈ g.deadlines, t.text?.isSome = true := by
  have hboth : (∀ t ∈ g.deadlines, t.text?.isSome = true) ↔
      (∀ t ∈ g.waitDs, t.text?.isSome = true) ∧ ∀ t ∈ g.waitNs, t.text?.isSome = true := by
    simp only [Group.deadlines, List.forall_mem_append, Option.mem_toList, Option.mem_def]
  rw [hboth, ← exists_encodeDeadline, ← exists_encodeDeadline]
  constructor
  · rintro ⟨v, hv⟩
    obtain ⟨ds, ns, hds, hns, -⟩ := encodeGroup_eq_some.1 hv
    exact ⟨⟨ds, hds⟩, ns, hns⟩
  · rintro ⟨⟨ds, hds⟩, ns, hns⟩
    exact ⟨_, encodeGroup_eq_some.2 ⟨ds, ns, hds, hns, rfl⟩⟩

theorem fits_encodeSynced (f : SyncFlags) : (encodeSynced f).Fits := by
  refine .object ?_
  simp only [List.forall_mem_cons, List.not_mem_nil, false_imp_iff, implies_true, and_true]
  exact ⟨.bool _, .bool _, .bool _, .bool _, .bool _⟩

theorem fits_encodeGroup {g : Group} {v : Json} (h : encodeGroup g = some v) : v.Fits := by
  obtain ⟨ds, ns, hds, hns, rfl⟩ := encodeGroup_eq_some.1 h
  have httl := g.ttl.toNat_lt
  refine .object ?_
  simp only [groupMembers, List.forall_mem_append, List.forall_mem_cons, List.not_mem_nil,
    false_imp_iff, implies_true, and_true]
  exact ⟨⟨⟨Json.fits_strings _, .string _, .string _⟩, Json.fits_member _ _⟩,
    fits_encodeDeadline hds, fits_encodeDeadline hns, Json.fits_nat (by omega),
    fits_encodeSynced g.synced⟩

theorem fits_encodeSigner (s : Signer) : (encodeSigner s).Fits := by
  refine .object ?_
  simp only [List.forall_mem_append, List.forall_mem_cons, List.not_mem_nil, false_imp_iff,
    implies_true, and_true]
  exact ⟨⟨⟨.string _, .string _, .string _, .string _⟩, Json.fits_member _ _⟩, .bool _, .bool _⟩

/-- How signers are written. -/
def encodeSigners (m : OrderedMap String Signer) : Json :=
  .object (m.entries.map fun e => (e.1, encodeSigner e.2))

theorem fits_encodeSigners (m : OrderedMap String Signer) : (encodeSigners m).Fits := by
  refine .object fun member hmember => ?_
  obtain ⟨e, -, rfl⟩ := List.mem_map.1 hmember
  exact fits_encodeSigner e.2

theorem fits_encodeTexts {κ : Type} [Ord κ] (key : κ → String) (m : OrderedMap κ String) :
    (encodeTexts key m).Fits := by
  refine .object fun member hmember => ?_
  obtain ⟨e, -, rfl⟩ := List.mem_map.1 hmember
  exact .string _

/-- How the entry of a group is written. -/
def encodeEntry (e : DomainName × Group) : Option (String × Json) := do
  return (e.1.display, ← encodeGroup e.2)

theorem encodeEntry_eq_some {e : DomainName × Group} {member : String × Json} :
    encodeEntry e = some member ↔ ∃ v, encodeGroup e.2 = some v ∧ (e.1.display, v) = member := by
  simp only [encodeEntry, Option.bind_eq_bind, Option.bind_eq_some_iff, Option.pure_def,
    Option.some.injEq]

/-- What a document is written as, if its groups are. -/
theorem encode_eq_some {s : State} {v : Json} : s.encode = some v ↔
    ∃ groups, List.Forall₂ (fun member e => encodeEntry e = some member) groups s.groups.entries
      ∧ v = .object [("groups", .object groups),
        ("signers", encodeSigners s.signers),
        ("tsig_keys", encodeTexts id s.tsigKeys), ("desec_tokens", encodeTexts id s.tokens),
        ("dnskey_origin", encodeTexts id s.dnskeyOrigin),
        ("ns_origin", encodeTexts DomainName.display s.nsOrigin),
        ("autostart", Json.strings (s.autostart.map DomainName.display)),
        ("settings", encodeTexts id s.settings)] := by
  change (s.groups.entries.mapM encodeEntry).bind _ = some v ↔ _
  rw [Option.bind_eq_some_iff]
  refine exists_congr fun groups => and_congr mapM_eq_some ?_
  rw [Option.pure_def, Option.some.injEq, eq_comm]
  exact Iff.rfl

/-- **What is written fits.** -/
theorem fits_encode {s : State} {v : Json} (h : s.encode = some v) : v.Fits := by
  obtain ⟨groups, hgroups, rfl⟩ := encode_eq_some.1 h
  have hboth : List.Forall₂ (fun member e => member.2.Fits ∧ encodeEntry e = some member) groups
      s.groups.entries := hgroups.imp fun member e he => by
    obtain ⟨v, hv, rfl⟩ := encodeEntry_eq_some.1 he
    exact ⟨fits_encodeGroup hv, he⟩
  have hfits := ((List.forall₂_and_left _ _).1 hboth).1
  refine .object ?_
  simp only [List.forall_mem_cons, List.not_mem_nil, false_imp_iff, implies_true, and_true]
  exact ⟨.object hfits, fits_encodeSigners s.signers, fits_encodeTexts id s.tsigKeys,
    fits_encodeTexts id s.tokens, fits_encodeTexts id s.dnskeyOrigin,
    fits_encodeTexts DomainName.display s.nsOrigin, Json.fits_strings _,
    fits_encodeTexts id s.settings⟩

/-- **A document can be written just if all of its deadlines can be.** -/
theorem exists_encode {s : State} :
    (∃ v, s.encode = some v) ↔ ∀ t ∈ s.deadlines, t.text?.isSome = true := by
  have hentry (e : DomainName × Group) : (∃ member, encodeEntry e = some member) ↔
      ∀ t ∈ e.2.deadlines, t.text?.isSome = true := by
    rw [← exists_encodeGroup]
    constructor
    · rintro ⟨member, hmember⟩
      obtain ⟨v, hv, -⟩ := encodeEntry_eq_some.1 hmember
      exact ⟨v, hv⟩
    · rintro ⟨v, hv⟩
      exact ⟨_, encodeEntry_eq_some.2 ⟨v, hv, rfl⟩⟩
  have hall : (∀ t ∈ s.deadlines, t.text?.isSome = true) ↔
      ∀ e ∈ s.groups.entries, ∃ member, encodeEntry e = some member := by
    simp only [hentry, deadlines, List.mem_flatMap]
    exact ⟨fun h e he t ht => h t ⟨e, he, ht⟩, fun h t ⟨e, he, ht⟩ => h e he t ht⟩
  rw [hall, ← exists_forall₂]
  constructor
  · rintro ⟨v, hv⟩
    obtain ⟨groups, hgroups, -⟩ := encode_eq_some.1 hv
    exact ⟨groups, hgroups⟩
  · rintro ⟨groups, hgroups⟩
    exact ⟨_, encode_eq_some.2 ⟨groups, hgroups, rfl⟩⟩

theorem Legible.restorable {s : State} {v : Json} (h : s.Legible) (hv : s.encode = some v) :
    s.Restorable :=
  ⟨h.names, fun t ht => ⟨exists_encode.1 ⟨v, hv⟩ t ht, h.offsets t ht⟩⟩

/-! ## 3. Reading single values -/

/-- A key that is a name is read as one that compares as equal. -/
theorem exists_key {n : DomainName} (h : n.Restorable) :
    ∃ m : DomainName, DomainName.ofString? n.display = some m ∧ compare m n = .eq := by
  obtain ⟨text, htext⟩ := h.read
  obtain ⟨absolute, hname⟩ := DomainName.ofString?_display htext h.plain
  exact ⟨⟨n.labels, absolute⟩, hname, DomainName.compare_eq_iff.2 rfl⟩

theorem decodeName_display {n : DomainName} (h : n.Restorable) :
    ∃ m : DomainName, decodeName (draft (.string n.display)) = .ok m ∧ m.labels = n.labels := by
  obtain ⟨m, hname, hkey⟩ := exists_key h
  exact ⟨m, toTextVia_eq_ok hname, DomainName.compare_eq_iff.1 hkey⟩

/-- A list of names is read back. -/
theorem decodeNames_encode (ns : List DomainName) (h : ∀ n ∈ ns, n.Restorable) :
    ∃ ms, Draft.toList decodeName (draft (Json.strings (ns.map DomainName.display))) = .ok ms
      ∧ (ms == ns) = true := by
  induction ns with
  | nil => exact ⟨[], rfl, rfl⟩
  | cons n ns ih =>
    obtain ⟨m, hm, hlabels⟩ := decodeName_display (h n List.mem_cons_self)
    obtain ⟨ms, hms, hsame⟩ := ih fun k hk => h k (List.mem_cons_of_mem n hk)
    refine ⟨m :: ms, Draft.toList_cons hm hms, ?_⟩
    rw [List.cons_beq_cons, DomainName.beq_iff.2 hlabels, hsame, Bool.and_self]

/-- A deadline is read back unchanged. -/
theorem decodeDeadline_encode {d : Option Timestamp} {v : Json} (h : ∀ t ∈ d, t.Representable)
    (hv : encodeDeadline d = some v) : decodeDeadline (draft v) = .ok d := by
  cases d with
  | none =>
    cases hv
    rfl
  | some t =>
    obtain ⟨text, htext, hread⟩ := Timestamp.ofString?_text (h t rfl)
    rw [encodeDeadline, htext] at hv
    cases hv
    exact toOption_eq_ok (by rintro ⟨⟩) (toTextVia_eq_ok hread)

theorem decodeSynced_encode (f : SyncFlags) : decodeSynced (draft (encodeSynced f)) = .ok f :=
  toStructure_slots [some (.bool f.dnskeys), some (.bool f.cds), some (.bool f.parentDs),
    some (.bool f.ns), some (.bool f.parentNs)] (by decide) rfl rfl

theorem toNatBelow_toNat (n : UInt32) :
    Draft.toNatBelow 0x100000000 (draft (Json.nat n.toNat)) = .ok n.toNat :=
  if_pos ⟨Int.natCast_nonneg _, n.toNat_lt⟩

/-! ## 4. Reading groups and signers -/

/-- **A group is read back unchanged.** -/
theorem decodeGroup_encode {g : Group} {v : Json} (h : ∀ t ∈ g.deadlines, t.Representable)
    (hv : encodeGroup g = some v) : decodeGroup (draft v) = .ok g := by
  obtain ⟨ds, ns, hds, hns, rfl⟩ := encodeGroup_eq_some.1 hv
  have hreadDs := decodeDeadline_encode
    (fun t ht => h t (List.mem_append_left _ (Option.mem_toList.2 ht))) hds
  have hreadNs := decodeDeadline_encode
    (fun t ht => h t (List.mem_append_right _ (Option.mem_toList.2 ht))) hns
  obtain ⟨signers, parent, stage, error, waitDs, waitNs, ttl, synced⟩ := g
  unfold decodeGroup
  refine toStructure_slots [some (draft (Json.strings signers)), some (.string (some parent)),
    some (.string (some stage.name)), error.map fun e => .string (some e), some (draft ds),
    some (draft ns), some (draft (Json.nat ttl.toNat)), some (draft (encodeSynced synced))]
    (by decide) ?_ ?_
  · cases error <;> rfl
  · have hstage : Draft.toName Stage.ofName? (.string (some stage.name)) = .ok stage :=
      toName_eq_ok (Stage.ofName?_name stage)
    have httl : UInt32.ofNat ttl.toNat = ttl := UInt32.ofNat_toNat
    cases error <;>
    · simp only [readSlots, Field.mayBe, Field.mustBe, Option.map_none, Option.map_some,
        Draft.toList_strings, hstage, hreadDs, hreadNs, toNatBelow_toNat, decodeSynced_encode]
      exact congrArg (fun t => Except.ok (Group.mk signers parent stage _ waitDs waitNs t synced))
        httl

/-- **A signer is read back**, with the same names up to their spelling. -/
theorem decodeSigner_encode {s : Signer} (hgroup : s.group.Restorable)
    (hnameserver : s.nameserver.Restorable) :
    ∃ t, decodeSigner (draft (encodeSigner s)) = .ok t ∧ t.same s = true := by
  obtain ⟨zone, hzone, hzoneSame⟩ := decodeName_display hgroup
  obtain ⟨ns, hns, hnsSame⟩ := decodeName_display hnameserver
  refine ⟨{ s with group := zone, nameserver := ns }, ?_, ?_⟩
  · obtain ⟨group, address, nameserver, kind, credential, leaving, combined⟩ := s
    unfold decodeSigner
    refine toStructure_slots [some (draft (.string group.display)), some (.string (some address)),
      some (draft (.string nameserver.display)), some (.string (some kind.name)),
      credential.map fun c => .string (some c), some (.bool leaving), some (.bool combined)]
      (by decide) ?_ ?_
    · cases credential <;> rfl
    · have hkind : Draft.toName UpdaterKind.ofName? (.string (some kind.name)) = .ok kind :=
        toName_eq_ok (UpdaterKind.ofName?_name kind)
      cases credential <;>
      · simp only [readSlots, Field.mayBe, Field.mustBe, Option.map_none, Option.map_some, hzone,
          hns, hkind]
        rfl
  · rw [Signer.same_iff, Signer.meaning, Signer.meaning, hzoneSame, hnsSame]

/-! ## 5. Reading the document -/

/-- The entries of the groups are read back. -/
theorem decodeGroups_encode {m : OrderedMap DomainName Group} {members : List (String × Json)}
    (hnames : ∀ e ∈ m.entries, e.1.Restorable)
    (hdeadlines : ∀ e ∈ m.entries, ∀ t ∈ e.2.deadlines, t.Representable)
    (hmembers : List.Forall₂ (fun member e => encodeEntry e = some member) members m.entries) :
    ∃ n, decodeByName decodeGroup (draft (.object members)) = .ok n
      ∧ n.same Group.same m = true := by
  have hboth : List.Forall₂ (fun e member => e ∈ m.entries ∧ encodeEntry e = some member) m.entries
      members := (List.forall₂_and_left _ _).2 ⟨fun e he => he, hmembers.flip⟩
  refine Draft.toMap_draft (hboth.flip.imp fun member e ⟨he, hentry⟩ => ?_)
  obtain ⟨v, hv, rfl⟩ := encodeEntry_eq_some.1 hentry
  exact ⟨exists_key (hnames e he), e.2, decodeGroup_encode (hdeadlines e he) hv,
    Group.same_iff.2 rfl⟩

/-- The entries of the signers are read back. -/
theorem decodeSigners_encode {m : OrderedMap String Signer}
    (h : ∀ e ∈ m.entries, e.2.group.Restorable ∧ e.2.nameserver.Restorable) :
    ∃ n, decodeByText decodeSigner (draft (encodeSigners m)) = .ok n
      ∧ n.same Signer.same m = true := by
  refine Draft.toMap_draft (List.forall₂_map_left_iff.2 (List.forall₂_same.2 fun e he => ?_))
  exact ⟨⟨e.1, rfl, Std.ReflCmp.compare_self⟩, decodeSigner_encode (h e he).1 (h e he).2⟩

/-- Entries whose values are texts are read back. -/
theorem toMap_encodeTexts {κ : Type} [Ord κ] [Std.TransOrd κ] {key : κ → String}
    {readKey : String → Option κ} {m : OrderedMap κ String}
    (h : ∀ e ∈ m.entries, ∃ k, readKey (key e.1) = some k ∧ compare k e.1 = .eq) :
    ∃ n : OrderedMap κ String, Draft.toMap readKey Draft.toText
        (fun (m : OrderedMap κ String) k v => m.insert k v) .empty (draft (encodeTexts key m))
        = .ok n
      ∧ n.same (· == ·) m = true := by
  refine Draft.toMap_draft (List.forall₂_map_left_iff.2 (List.forall₂_same.2 fun e he => ?_))
  exact ⟨h e he, e.2, rfl, beq_self_eq_true _⟩

theorem decodeByText_encode (m : OrderedMap String String) :
    ∃ n, decodeByText Draft.toText (draft (encodeTexts id m)) = .ok n
      ∧ n.same (· == ·) m = true :=
  toMap_encodeTexts fun e _ => ⟨e.1, rfl, Std.ReflCmp.compare_self⟩

theorem decodeByName_encode {m : OrderedMap DomainName String}
    (h : ∀ e ∈ m.entries, e.1.Restorable) :
    ∃ n, decodeByName Draft.toText (draft (encodeTexts DomainName.display m)) = .ok n
      ∧ n.same (· == ·) m = true :=
  toMap_encodeTexts fun e he => exists_key (h e he)

/-- **What is decoded from an encoded document says the same.** -/
theorem decode_encode {s : State} {v : Json} (h : s.Restorable) (hv : s.encode = some v) :
    ∃ t, decode (draft v) = .ok t ∧ t.same s = true := by
  obtain ⟨groups, hmembers, rfl⟩ := encode_eq_some.1 hv
  have hname {n : DomainName} (hn : n ∈ s.names) : n.Restorable := h.names n hn
  simp only [names, OrderedMap.keys, List.mem_append, List.mem_map, List.mem_flatMap,
    List.mem_cons, List.not_mem_nil, or_false] at hname
  obtain ⟨gs, hgroups, hgroupsSame⟩ := decodeGroups_encode
    (fun e he => hname (.inl (.inl (.inl ⟨e, he, rfl⟩))))
    (fun e he t ht => h.deadlines t (List.mem_flatMap.2 ⟨e, he, ht⟩)) hmembers
  obtain ⟨ss, hsigners, hsignersSame⟩ := decodeSigners_encode (m := s.signers) fun e he =>
    ⟨hname (.inl (.inl (.inr ⟨e, he, .inl rfl⟩))), hname (.inl (.inl (.inr ⟨e, he, .inr rfl⟩)))⟩
  obtain ⟨keys, hkeys, hkeysSame⟩ := decodeByText_encode s.tsigKeys
  obtain ⟨tokens, htokens, htokensSame⟩ := decodeByText_encode s.tokens
  obtain ⟨dnskeys, hdnskeys, hdnskeysSame⟩ := decodeByText_encode s.dnskeyOrigin
  obtain ⟨nss, hnss, hnssSame⟩ := decodeByName_encode (m := s.nsOrigin)
    fun e he => hname (.inl (.inr ⟨e, he, rfl⟩))
  obtain ⟨autostart, hautostart, hautostartSame⟩ := decodeNames_encode s.autostart
    fun n hn => hname (.inr hn)
  obtain ⟨settings, hsettings, hsettingsSame⟩ := decodeByText_encode s.settings
  refine ⟨⟨gs, ss, keys, tokens, dnskeys, nss, autostart, settings⟩, ?_, ?_⟩
  · unfold decode
    refine toStructure_slots [some (draft (.object groups)),
      some (draft (encodeSigners s.signers)),
      some (draft (encodeTexts id s.tsigKeys)), some (draft (encodeTexts id s.tokens)),
      some (draft (encodeTexts id s.dnskeyOrigin)),
      some (draft (encodeTexts DomainName.display s.nsOrigin)),
      some (draft (Json.strings (s.autostart.map DomainName.display))),
      some (draft (encodeTexts id s.settings))] (by decide) rfl ?_
    simp only [readSlots, Field.mayBe, hgroups, hsigners, hkeys, htokens, hdnskeys, hnss,
      hautostart, hsettings]
    rfl
  · simp only [same, hgroupsSame, hsignersSame, hkeysSame, htokensSame, hdnskeysSame, hnssSame,
      hautostartSame, hsettingsSame, Bool.and_self]

/-! ## 6. Texts -/

/-- What is read from the text of a document is decoded from what was encoded. -/
theorem ofDocumentText_pretty {s t : State} {v : Json} (hv : s.encode = some v)
    (ht : decode (draft v) = .ok t) : ofDocumentText v.pretty = .ok t := by
  rw [ofDocumentText, Draft.decodeText_pretty decode (fits_encode hv), ht]

/-- **A document is read back from its text.** -/
theorem ofDocumentText_documentText {s : State} {text : String} (h : s.Legible)
    (htext : s.documentText = .ok text) : ∃ t, ofDocumentText text = .ok t ∧ t.same s = true := by
  unfold documentText at htext
  split at htext
  · rename_i v hv
    cases htext
    obtain ⟨t, ht, hsame⟩ := decode_encode (h.restorable hv) hv
    exact ⟨t, ofDocumentText_pretty hv ht, hsame⟩
  · cases htext

/-- The text of a document that can be restored. -/
theorem Restorable.exists_documentText {s : State} (h : s.Restorable) :
    ∃ text, s.documentText = .ok text := by
  obtain ⟨v, hv⟩ := exists_encode.2 fun t ht => (h.deadlines t ht).text
  exact ⟨v.pretty, by rw [documentText, hv]⟩

theorem Restorable.legible {s : State} (h : s.Restorable) : s.Legible :=
  ⟨h.names, fun t ht => (h.deadlines t ht).offset⟩

end State
end MultiSigner
