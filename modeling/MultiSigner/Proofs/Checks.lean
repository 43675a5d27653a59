/-
# What the flags mean

The five checks of `Evaluation` go through views one after the other and say what they find.  Read
as conditions on the views, they are

* `KeysSynced`: no shared key of a signer that stays comes from a leaving one, and all others that
  stay have it (`FoundAt`);
* `KeysReferred`: every signer that stays asks the parent to refer to every key that signs keys;
* `NamesAgree`: all signers serve the same names, none of which is leaving;
* `ParentRefers` and `ParentDelegates`: the parent has just what the signers ask for.

`get_iff` and `flags_iff` say that the flags are these conditions, for any views at all, and
`exists_flags_iff` that they are worked out unless some key has no tag (`Tagged`).
-/
import MultiSigner.Evaluation
import MultiSigner.Proofs.Once
import MultiSigner.Proofs.Planning
import MultiSigner.Proofs.Records

namespace MultiSigner

open SignerView (staying departing leavingOrigin?)

theorem eq_ok_of_toOption {ε α : Type} {r : Except ε α} {a : α} (h : r.toOption = some a) :
    r = .ok a := by
  cases r with
  | error e => cases h
  | ok b => exact congrArg Except.ok (Option.some.inj h)

/-! ## 1. Reports without a fault -/

namespace Report

variable {α β : Type}

/-- Nothing in the report is a failure. -/
def Sound (r : Report α) : Prop :=
  ∀ x ∈ r, ∃ a, x = .ok a

theorem Sound.failure? : ∀ {r : Report α}, Sound r → failure? r = none
  | [], _ => rfl
  | .error e :: _, h => by
    obtain ⟨a, ha⟩ := h _ List.mem_cons_self
    cases ha
  | .ok _ :: r, h => Sound.failure? (r := r) fun x hx => h x (List.mem_cons_of_mem _ hx)

theorem sound_of_failure? : ∀ {r : Report α}, failure? r = none → Sound r
  | .error _ :: _, h => by cases h
  | [], _ => fun x hx => absurd hx List.not_mem_nil
  | .ok a :: r, h => fun x hx => by
    rcases List.mem_cons.1 hx with rfl | hx
    · exact ⟨a, rfl⟩
    · exact sound_of_failure? (r := r) h x hx

theorem sound_append {r r' : Report α} : Sound (r ++ r') ↔ Sound r ∧ Sound r' :=
  List.forall_mem_append

theorem sound_cons_ok {a : α} {r : Report α} : Sound (.ok a :: r) ↔ Sound r :=
  List.forall_mem_cons.trans (and_iff_right ⟨a, rfl⟩)

theorem sound_flatMap {l : List β} {f : β → Report α} :
    Sound (l.flatMap f) ↔ ∀ b ∈ l, Sound (f b) :=
  List.forall_mem_flatMap

theorem sound_map_ok (l : List α) : Sound (l.map Except.ok) :=
  List.forall_mem_map.2 fun a _ => ⟨a, rfl⟩

/-- All of a report without a failure is said. -/
theorem Sound.mem_items {a : α} : ∀ {r : Report α}, Sound r → .ok a ∈ r → a ∈ r.items
  | .error e :: _, h, _ => by
    obtain ⟨b, hb⟩ := h _ List.mem_cons_self
    cases hb
  | .ok b :: r, h, ha => by
    rcases List.mem_cons.1 ha with hab | ha
    · cases hab
      exact List.mem_cons_self
    · exact List.mem_cons_of_mem _
        (Sound.mem_items (fun x hx => h x (List.mem_cons_of_mem _ hx)) ha)

/-- Items that need a tag which can be computed. -/
theorem withTag_eq {k : Dnskey} {tag : UInt16} (h : k.keyTag = .ok tag) (f : UInt16 → List α) :
    withTag k f = (f tag).map .ok := by
  rw [withTag, h]

theorem error_mem_withTag {k : Dnskey} {e : Error} (h : k.keyTag = .error e)
    (f : UInt16 → List α) : .error e ∈ withTag k f := by
  rw [withTag, h]
  exact List.mem_singleton_self _

/-- Items that need a tag are a report without a failure just if it can be computed. -/
theorem sound_withTag {k : Dnskey} {f : UInt16 → List α} :
    Sound (withTag k f) ↔ ∃ tag, k.keyTag = .ok tag := by
  cases htag : k.keyTag with
  | ok tag =>
    rw [withTag_eq htag]
    exact ⟨fun _ => ⟨tag, rfl⟩, fun _ => sound_map_ok _⟩
  | error e =>
    constructor
    · intro h
      obtain ⟨a, ha⟩ := h _ (error_mem_withTag htag f)
      cases ha
    · rintro ⟨tag, h⟩
      cases h

end Report

namespace Finding

variable {β : Type}

/-- Nothing in the report has to be mended. -/
def Fine (r : Report Finding) : Prop :=
  ∀ f, .ok f ∈ r → f.blocking = false

theorem Fine.clear {r : Report Finding} (h : Fine r) : clear r.items = true := by
  refine List.all_eq_true.2 fun f hf => ?_
  rw [h f (Automation.ok_mem_of_mem_items hf)]
  rfl

theorem clear_iff {l : List Finding} : clear l = true ↔ ∀ f ∈ l, f.blocking = false := by
  simp only [clear, List.all_eq_true, Bool.not_eq_true']

/-- **A report without a failure is clear** just if nothing in it has to be mended. -/
theorem clear_items_iff {r : Report Finding} (h : Report.Sound r) :
    clear r.items = true ↔ Fine r :=
  ⟨fun hclear f hf => clear_iff.1 hclear f (h.mem_items hf), Fine.clear⟩

theorem fine_cons_note {line : String} {r : Report Finding} :
    Fine (.ok (note line) :: r) ↔ Fine r := by
  constructor
  · exact fun h f hf => h f (List.mem_cons_of_mem _ hf)
  · intro h f hf
    rcases List.mem_cons.1 hf with hf | hf
    · cases hf
      rfl
    · exact h f hf

theorem fine_flatMap {l : List β} {g : β → Report Finding} :
    Fine (l.flatMap g) ↔ ∀ b ∈ l, Fine (g b) := by
  constructor
  · exact fun h b hb f hf => h f (List.mem_flatMap.2 ⟨b, hb, hf⟩)
  · intro h f hf
    obtain ⟨b, hb, hf⟩ := List.mem_flatMap.1 hf
    exact h b hb f hf

theorem fine_map_ok {l : List Finding} : Fine (l.map Except.ok) ↔ clear l = true := by
  rw [clear_iff]
  constructor
  · exact fun h f hf => h f (List.mem_map_of_mem hf)
  · intro h f hf
    obtain ⟨g, hg, hgf⟩ := List.mem_map.1 hf
    cases hgf
    exact h _ hg

theorem clear_append {l l' : List Finding} :
    clear (l ++ l') = true ↔ clear l = true ∧ clear l' = true := by
  rw [clear, List.all_append, Bool.and_eq_true]
  rfl

theorem clear_cons_note {line : String} {l : List Finding} :
    clear (note line :: l) = clear l := rfl

theorem clear_flatMap {l : List β} {g : β → List Finding} :
    clear (l.flatMap g) = true ↔ ∀ b ∈ l, clear (g b) = true := by
  simp only [clear, List.all_flatMap, List.all_eq_true]

/-- What is only ever told to be mended should not be there. -/
theorem clear_map_block {l : List β} {line : β → String} :
    clear (l.map fun b => block (line b)) = true ↔ l = [] := by
  cases l with
  | nil => exact ⟨fun _ => rfl, fun _ => rfl⟩
  | cons b l => exact ⟨nofun, nofun⟩

/-- A finding that has to be mended unless something holds. -/
theorem clear_unless {b : Bool} {line : String} :
    clear (if b then [] else [block line]) = true ↔ b = true := by
  cases b with
  | true => exact ⟨fun _ => rfl, fun _ => rfl⟩
  | false => exact ⟨nofun, nofun⟩

theorem blocking_unless {b : Bool} {line line' : String} :
    (if b then note line else block line').blocking = false ↔ b = true := by
  cases b with
  | true => exact ⟨fun _ => rfl, fun _ => rfl⟩
  | false => exact ⟨nofun, nofun⟩

end Finding

/-! ## 2. Sets of names -/

namespace Evaluation

theorem isOneOf_iff {names : List DomainName} {name : DomainName} :
    isOneOf names name = true ↔ ∃ l ∈ names, (l == name) = true := by
  rw [isOneOf, List.any_eq_true]

theorem isOneOf_of_mem {names : List DomainName} {name : DomainName} (h : name ∈ names) :
    isOneOf names name = true :=
  isOneOf_iff.2 ⟨name, h, BEq.rfl⟩

/-- The spelling of a name makes no difference. -/
theorem isOneOf_congr {names : List DomainName} {name name' : DomainName}
    (h : (name == name') = true) (hname : isOneOf names name = true) :
    isOneOf names name' = true := by
  obtain ⟨l, hl, hsame⟩ := isOneOf_iff.1 hname
  exact isOneOf_iff.2 ⟨l, hl, BEq.trans hsame h⟩

theorem isOneOf_flatMap {β : Type} {l : List β} {f : β → List DomainName} {name : DomainName} :
    isOneOf (l.flatMap f) name = true ↔ ∃ b ∈ l, isOneOf (f b) name = true := by
  simp only [isOneOf, List.any_flatMap, List.any_eq_true]

/-- A map with more names, each under itself. -/
def insertNames (names : List DomainName) (m : OrderedMap DomainName DomainName) :
    OrderedMap DomainName DomainName :=
  names.foldl (fun m l => m.insert l l) m

/-- The entries of a set of names are names of it, each under its own name. -/
theorem mem_insertNames {e : DomainName × DomainName} :
    ∀ {names : List DomainName} {m : OrderedMap DomainName DomainName},
      e ∈ (insertNames names m).entries →
        e ∈ m.entries ∨ e.2 ∈ names ∧ (e.1 == e.2) = true
  | [], m, h => .inl h
  | l :: names, m, h => by
    have hrest : e ∈ (insertNames names (m.insert l l)).entries := h
    rcases mem_insertNames hrest with h | ⟨h, hsame⟩
    · rcases OrderedMap.mem_insertEntry h with h | ⟨rfl, h⟩
      · exact .inl h
      · refine .inr ⟨List.mem_cons_self, ?_⟩
        rcases h with h | h
        · rw [h]
          exact BEq.rfl
        · exact DomainName.compare_eq_iff_beq.1 h
    · exact .inr ⟨List.mem_cons_of_mem _ h, hsame⟩

theorem contains_insertNames {name : DomainName} :
    ∀ {names : List DomainName} {m : OrderedMap DomainName DomainName},
      m.contains name = true ∨ isOneOf names name = true →
        (insertNames names m).contains name = true
  | [], m, h => h.resolve_right (by simp [isOneOf])
  | l :: names, m, h => by
    show (insertNames names (m.insert l l)).contains name = true
    refine contains_insertNames ?_
    rcases h with h | h
    · exact .inl (OrderedMap.contains_insert.2 (.inr h))
    · obtain ⟨x, hx, hname⟩ := isOneOf_iff.1 h
      rcases List.mem_cons.1 hx with rfl | hx
      · exact .inl (OrderedMap.contains_insert.2 (.inl (DomainName.compare_eq_iff_beq.2 hname)))
      · exact .inr (isOneOf_iff.2 ⟨x, hx, hname⟩)

theorem nameSet_eq (names : List DomainName) :
    nameSet names = (insertNames names .empty).entries.map Prod.snd := by
  rw [nameSet, OrderedMap.ofList, List.foldl_map, insertNames]

/-- A set of names holds only names that it was made of. -/
theorem mem_of_mem_nameSet {names : List DomainName} {name : DomainName}
    (h : name ∈ nameSet names) : name ∈ names := by
  rw [nameSet_eq] at h
  obtain ⟨e, he, rfl⟩ := List.mem_map.1 h
  rcases mem_insertNames he with he | ⟨he, -⟩
  · cases he
  · exact he

/-- **A set of names holds all of them**, in some spelling, and no others. -/
theorem isOneOf_nameSet {names : List DomainName} {name : DomainName} :
    isOneOf (nameSet names) name = true ↔ isOneOf names name = true := by
  constructor
  · intro h
    obtain ⟨l, hl, hsame⟩ := isOneOf_iff.1 h
    exact isOneOf_iff.2 ⟨l, mem_of_mem_nameSet hl, hsame⟩
  · intro h
    obtain ⟨e, he, hname⟩ := OrderedMap.contains_iff.1
      (contains_insertNames (m := .empty) (.inr h))
    have hsame : (e.1 == e.2) = true := by
      rcases mem_insertNames he with he | ⟨-, hsame⟩
      · cases he
      · exact hsame
    rw [nameSet_eq]
    exact isOneOf_iff.2 ⟨e.2, List.mem_map_of_mem he,
      BEq.trans (BEq.symm hsame) (DomainName.compare_eq_iff_beq.1 hname)⟩

/-- Every name of one list is a name of another: told of each item, or of each spelling. -/
theorem forall_mem_isOneOf {names names' : List DomainName} :
    (∀ l ∈ names, isOneOf names' l = true) ↔
      ∀ name, isOneOf names name = true → isOneOf names' name = true := by
  constructor
  · intro h name hname
    obtain ⟨l, hl, hsame⟩ := isOneOf_iff.1 hname
    exact isOneOf_congr hsame (h l hl)
  · exact fun h l hl => h l (isOneOf_of_mem hl)

/-! ## 3. Conditions on views -/

variable {zone : DomainName} {views : List SignerView} {parent : ParentView}
  {origins : OrderedMap String String} {v o : SignerView} {k : Dnskey} {name : DomainName}

/-- The first key of a signer that has the bytes of a key has its algorithm too. -/
def FoundAt (o : SignerView) (k : Dnskey) : Prop :=
  ∃ l, o.dnskeys.find? (fun l => l.sameKey k) = some l ∧ l.algorithm = k.algorithm

/-- The recorded origin of a key is a leaving signer of the list. -/
def FromLeaving (views : List SignerView) (origins : OrderedMap String String) (k : Dnskey) :
    Prop :=
  ∃ x ∈ views, x.leaving = true ∧ origins.get? k.fingerprint = some x.name

/-- Shared keys of signers that stay come from no leaving signer, and are found at all others that
stay. -/
structure KeysSynced (views : List SignerView) (origins : OrderedMap String String) : Prop where
  kept : ∀ v ∈ views, v.leaving = false → ∀ k ∈ v.syncedKeys, ¬ FromLeaving views origins k
  found : ∀ v ∈ views, v.leaving = false → ∀ k ∈ v.syncedKeys,
    ∀ o ∈ views, o.leaving = false → o.name ≠ v.name → FoundAt o k

/-- Every signer that stays has, for each key that signs keys at a signer which stays, its digest
and the key itself. -/
structure KeysReferred (zone : DomainName) (views : List SignerView) : Prop where
  cds : ∀ v ∈ views, v.leaving = false → ∀ o ∈ views, o.leaving = false →
    ∀ k ∈ o.keySigningKeys, ∃ d ∈ v.cds, k.delegation zone d.digestType = .ok d
  cdnskey : ∀ v ∈ views, v.leaving = false → ∀ o ∈ views, o.leaving = false →
    ∀ k ∈ o.keySigningKeys, k ∈ v.cdnskeys

/-- All signers serve the same names, none of which is that of a leaving signer. -/
structure NamesAgree (views : List SignerView) : Prop where
  same : ∀ v ∈ views, ∀ o ∈ views, ∀ name, isOneOf v.ns name = true → isOneOf o.ns name = true
  staying : ∀ v ∈ views, ∀ x ∈ views, x.leaving = true → isOneOf v.ns x.nameserver = false

/-- The parent refers to just those keys that the signers which stay ask for. -/
def ParentRefers (views : List SignerView) (parent : ParentView) : Prop :=
  ∀ d, d ∈ parent.ds ↔ ∃ v ∈ views, v.leaving = false ∧ d ∈ v.cds

/-- The parent delegates to just those names that the signers serve. -/
def ParentDelegates (views : List SignerView) (parent : ParentView) : Prop :=
  ∀ name, isOneOf parent.ns name = true ↔ ∃ v ∈ views, isOneOf v.ns name = true

/-- What has to be the case for a flag to be set. -/
def Holds (zone : DomainName) (views : List SignerView) (parent : ParentView)
    (origins : OrderedMap String String) : SyncFlag → Prop
  | .dnskeys => KeysSynced views origins
  | .cds => KeysReferred zone views
  | .parentDs => KeysReferred zone views ∧ ParentRefers views parent
  | .ns => NamesAgree views
  | .parentNs => NamesAgree views ∧ ParentDelegates views parent

/-- Every key that the checks look at has a tag. -/
def Tagged (views : List SignerView) : Prop :=
  ∀ v ∈ views, v.leaving = false → ∀ k ∈ v.syncedKeys ++ v.keySigningKeys,
    ∃ tag, k.keyTag = .ok tag

/-- What holds of the views of those who stay. -/
theorem forall_staying {P : SignerView → Prop} :
    (∀ v ∈ staying views, P v) ↔ ∀ v ∈ views, v.leaving = false → P v := by
  simp only [Automation.mem_staying, and_imp, SignerView.leaving]

theorem exists_staying {P : SignerView → Prop} :
    (∃ v ∈ staying views, P v) ↔ ∃ v ∈ views, v.leaving = false ∧ P v := by
  simp only [Automation.mem_staying, and_assoc, SignerView.leaving]

/-- A report about each signer that stays, with a note for each one that is leaving, goes through to
the end just if each part does. -/
theorem sound_views {skip check : SignerView → String} {r : SignerView → Report Finding} :
    Report.Sound (views.flatMap fun v =>
      if v.leaving then [.ok (.note (skip v))] else .ok (.note (check v)) :: r v) ↔
      ∀ v ∈ staying views, Report.Sound (r v) := by
  rw [Report.sound_flatMap, forall_staying]
  refine forall₂_congr fun v _ => ?_
  cases v.leaving with
  | true => exact ⟨fun _ => nofun, fun _ => Report.sound_map_ok [_]⟩
  | false => exact Report.sound_cons_ok.trans ⟨fun h _ => h, fun h => h rfl⟩

theorem fine_views {skip check : SignerView → String} {r : SignerView → Report Finding} :
    Finding.Fine (views.flatMap fun v =>
      if v.leaving then [.ok (.note (skip v))] else .ok (.note (check v)) :: r v) ↔
      ∀ v ∈ staying views, Finding.Fine (r v) := by
  rw [Finding.fine_flatMap, forall_staying]
  refine forall₂_congr fun v _ => ?_
  cases v.leaving with
  | true => exact ⟨fun _ => nofun, fun _ => Finding.fine_map_ok (l := [.note (skip v)]).2 rfl⟩
  | false => exact Finding.fine_cons_note.trans ⟨fun h _ => h, fun h => h rfl⟩

/-! ## 4. Keys -/

/-- A leaving signer that a key comes from is named just if there is one. -/
theorem leavingOrigin?_eq_none_iff :
    leavingOrigin? views origins k = none ↔ ¬ FromLeaving views origins k := by
  rw [leavingOrigin?, Option.filter_eq_none_iff]
  constructor
  · rintro h ⟨x, hx, hleaves, horigin⟩
    exact h x.name horigin (List.any_eq_true.2
      ⟨x, List.mem_filter.2 ⟨hx, hleaves⟩, beq_self_eq_true _⟩)
  · intro h origin horigin hany
    obtain ⟨x, hx, hname⟩ := List.any_eq_true.1 hany
    obtain ⟨hx, hleaves⟩ := List.mem_filter.1 hx
    exact h ⟨x, hx, hleaves, by rw [horigin, beq_iff_eq.1 hname]⟩

/-- The first key with the bytes of another one has them. -/
theorem mem_of_find?_sameKey {keys : List Dnskey} {l : Dnskey}
    (h : keys.find? (fun l => l.sameKey k) = some l) : l ∈ keys ∧ l.publicKey = k.publicKey := by
  have hsame : l.sameKey k = true := List.find?_some (p := fun l : Dnskey => l.sameKey k) h
  exact ⟨List.mem_of_find?_eq_some h, beq_iff_eq.1 hsame⟩

/-- It is there if some key has these bytes. -/
theorem find?_sameKey_ne_none {keys : List Dnskey} {l : Dnskey} (hl : l ∈ keys)
    (hbytes : l.publicKey = k.publicKey) : keys.find? (fun l => l.sameKey k) ≠ none := fun h =>
  absurd (beq_iff_eq.2 hbytes) (List.find?_eq_none.1 h l hl)

theorem clear_keyAt {tag : UInt16} : Finding.clear (keyAt tag k o) = true ↔ FoundAt o k := by
  unfold keyAt FoundAt
  cases o.dnskeys.find? fun l => l.sameKey k with
  | none => exact ⟨nofun, nofun⟩
  | some l =>
    by_cases halgorithm : l.algorithm = k.algorithm
    · simp only [if_pos halgorithm]
      exact ⟨fun _ => ⟨l, rfl, halgorithm⟩, fun _ => rfl⟩
    · simp only [if_neg halgorithm]
      refine ⟨nofun, ?_⟩
      rintro ⟨l', hl, hl'⟩
      cases hl
      exact absurd hl' halgorithm

/-- What is reported about a shared key: nothing to mend if it comes from no leaving signer and is
found at the others. -/
theorem fine_sharedKey (h : ∃ tag, k.keyTag = .ok tag) :
    Finding.Fine (sharedKey views origins v k) ↔
      ¬ FromLeaving views origins k ∧ ∀ o ∈ staying views, o.name ≠ v.name → FoundAt o k := by
  obtain ⟨tag, htag⟩ := h
  rw [sharedKey, Report.withTag_eq htag, Finding.fine_map_ok, ← leavingOrigin?_eq_none_iff]
  cases leavingOrigin? views origins k with
  | some origin => exact ⟨nofun, nofun⟩
  | none =>
    simp only [Finding.clear_flatMap, clear_keyAt, List.mem_filter, bne_iff_ne, true_and, and_imp]

/-- The check of keys goes through to the end just if every shared key has a tag. -/
theorem sound_dnskeys : Report.Sound (dnskeys views origins) ↔
    ∀ v ∈ staying views, ∀ k ∈ v.syncedKeys, ∃ tag, k.keyTag = .ok tag := by
  rw [dnskeys, sound_views]
  simp only [Report.sound_flatMap, sharedKey, Report.sound_withTag]

/-- **The check of keys finds nothing to mend** just if they are synced. -/
theorem fine_dnskeys (h : Report.Sound (dnskeys views origins)) :
    Finding.Fine (dnskeys views origins) ↔ KeysSynced views origins := by
  have htags := sound_dnskeys.1 h
  rw [dnskeys, fine_views]
  simp only [Finding.fine_flatMap]
  constructor
  · intro hfine
    have hkey : ∀ v ∈ staying views, ∀ k ∈ v.syncedKeys, ¬ FromLeaving views origins k ∧
        ∀ o ∈ staying views, o.name ≠ v.name → FoundAt o k :=
      fun v hv k hk => (fine_sharedKey (htags v hv k hk)).1 (hfine v hv k hk)
    exact ⟨forall_staying.1 fun v hv k hk => (hkey v hv k hk).1,
      forall_staying.1 fun v hv k hk => forall_staying.1 (hkey v hv k hk).2⟩
  · rintro ⟨hkept, hfound⟩ v hv k hk
    exact (fine_sharedKey (htags v hv k hk)).2 ⟨forall_staying.2 hkept v hv k hk,
      forall_staying.2 (forall_staying.2 hfound v hv k hk)⟩

/-! ## 5. References to keys -/

/-- A reference is that to a key just if it is the key's digest of its own type. -/
theorem isReferredBy_iff {d : Ds} :
    k.isReferredBy zone d = true ↔ k.delegation zone d.digestType = .ok d := by
  rw [Dnskey.isReferredBy]
  cases k.delegation zone d.digestType with
  | error e => exact ⟨nofun, nofun⟩
  | ok e => simp only [beq_iff_eq, Except.ok.injEq]

/-- Items that are gathered unless they are there already. -/
theorem mem_once_contains {α : Type} [DecidableEq α] {a : α} {l : List α} :
    a ∈ once (fun l a => l.contains a) l [] ↔ a ∈ l := by
  constructor
  · intro h
    rcases mem_of_mem_once h with h | h
    · cases h
    · exact h
  · intro h
    exact List.contains_iff_mem.1 (seen_once (fun (l : List α) a => l.contains a)
      (fun hsub hc => List.contains_iff_mem.2 (hsub (List.contains_iff_mem.1 hc)))
      (fun _ _ hmem => List.contains_iff_mem.2 hmem) [] h)

theorem mem_activeKeys : k ∈ activeKeys views ↔ ∃ v ∈ staying views, k ∈ v.keySigningKeys :=
  mem_once_contains.trans List.mem_flatMap

theorem mem_expectedDs {d : Ds} : d ∈ expectedDs views ↔ ∃ v ∈ staying views, d ∈ v.cds :=
  mem_once_contains.trans List.mem_flatMap

theorem fine_referenceAt (h : ∃ tag, k.keyTag = .ok tag) :
    Finding.Fine (referenceAt zone v k) ↔
      (∃ d ∈ v.cds, k.delegation zone d.digestType = .ok d) ∧ k ∈ v.cdnskeys := by
  obtain ⟨tag, htag⟩ := h
  have hcds : v.cds.any (k.isReferredBy zone) = true ↔
      ∃ d ∈ v.cds, k.delegation zone d.digestType = .ok d := by
    simp only [List.any_eq_true, isReferredBy_iff]
  rw [referenceAt, Report.withTag_eq htag, Finding.fine_map_ok, Finding.clear_append, ← hcds,
    ← List.contains_iff_mem, Finding.clear_unless, Finding.clear_unless]

theorem sound_cds : Report.Sound (cds zone views) ↔
    ∀ v ∈ staying views, ∀ k ∈ v.keySigningKeys, ∃ tag, k.keyTag = .ok tag := by
  have hviews : Report.Sound (cds zone views) ↔ ∀ v ∈ staying views, ∀ k ∈ activeKeys views,
      ∃ tag, k.keyTag = .ok tag := by
    rw [cds, sound_views]
    simp only [Report.sound_flatMap, referenceAt, Report.sound_withTag]
  rw [hviews]
  constructor
  · exact fun h v hv k hk => h v hv k (mem_activeKeys.2 ⟨v, hv, hk⟩)
  · intro h v hv k hk
    obtain ⟨o, ho, hk⟩ := mem_activeKeys.1 hk
    exact h o ho k hk

/-- **The check of references finds nothing to mend** just if keys are referred to. -/
theorem fine_cds (h : Report.Sound (cds zone views)) :
    Finding.Fine (cds zone views) ↔ KeysReferred zone views := by
  have htags := sound_cds.1 h
  rw [cds, fine_views]
  simp only [Finding.fine_flatMap]
  constructor
  · intro hfine
    have hkey : ∀ v ∈ staying views, ∀ o ∈ staying views, ∀ k ∈ o.keySigningKeys,
        (∃ d ∈ v.cds, k.delegation zone d.digestType = .ok d) ∧ k ∈ v.cdnskeys :=
      fun v hv o ho k hk => (fine_referenceAt (htags o ho k hk)).1
        (hfine v hv k (mem_activeKeys.2 ⟨o, ho, hk⟩))
    exact ⟨forall_staying.1 fun v hv => forall_staying.1 fun o ho k hk => (hkey v hv o ho k hk).1,
      forall_staying.1 fun v hv => forall_staying.1 fun o ho k hk => (hkey v hv o ho k hk).2⟩
  · rintro ⟨hcds, hcdnskey⟩ v hv k hk
    obtain ⟨o, ho, hk⟩ := mem_activeKeys.1 hk
    exact (fine_referenceAt (htags o ho k hk)).2
      ⟨forall_staying.2 (forall_staying.2 hcds v hv) o ho k hk,
        forall_staying.2 (forall_staying.2 hcdnskey v hv) o ho k hk⟩

/-- **The check of the parent's references finds nothing to mend** just if they are those that the
signers which stay ask for. -/
theorem clear_parentDs :
    Finding.clear (parentDs views parent) = true ↔ ParentRefers views parent := by
  have hfound : Finding.clear (parent.ds.map fun d =>
      if (expectedDs views).contains d then Finding.note s!"  found DS {d.text}"
      else Finding.block s!"  DS needs removal: {d.text}") = true ↔
      ∀ d ∈ parent.ds, d ∈ expectedDs views := by
    rw [Finding.clear_iff, List.forall_mem_map]
    refine forall₂_congr fun d _ => ?_
    rw [← List.contains_iff_mem]
    exact Finding.blocking_unless
  have hmissing : (expectedDs views).filter (fun d => !parent.ds.contains d) = [] ↔
      ∀ d ∈ expectedDs views, d ∈ parent.ds := by
    simp only [List.filter_eq_nil_iff, Bool.not_eq_true', Bool.not_eq_false,
      List.contains_iff_mem]
  rw [parentDs, Finding.clear_append, Finding.clear_cons_note, hfound, Finding.clear_map_block,
    hmissing]
  simp only [mem_expectedDs, exists_staying]
  exact ⟨fun h d => ⟨h.1 d, h.2 d⟩, fun h => ⟨fun d => (h d).1, fun d => (h d).2⟩⟩

/-! ## 6. Name servers -/

theorem isOneOf_servedNames :
    isOneOf (servedNames views) name = true ↔ ∃ v ∈ views, isOneOf v.ns name = true :=
  isOneOf_nameSet.trans isOneOf_flatMap

theorem isOneOf_leavingNames : isOneOf (leavingNames views) name = true ↔
    ∃ x ∈ departing views, (x.nameserver == name) = true := by
  simp only [leavingNames, isOneOf, List.any_map, List.any_eq_true, Function.comp_apply]

/-- **The check of names finds nothing to mend** just if the signers agree on them. -/
theorem clear_nameservers : Finding.clear (nameservers views) = true ↔ NamesAgree views := by
  have hmissing : ∀ v : SignerView, (servedNames views).filter (fun n => !isOneOf v.ns n) = [] ↔
      ∀ o ∈ views, ∀ name, isOneOf o.ns name = true → isOneOf v.ns name = true := by
    intro v
    simp only [List.filter_eq_nil_iff, Bool.not_eq_true', Bool.not_eq_false]
    rw [forall_mem_isOneOf]
    simp only [isOneOf_servedNames]
    exact ⟨fun h o ho name hname => h name ⟨o, ho, hname⟩,
      fun h name ⟨o, ho, hname⟩ => h o ho name hname⟩
  have hleft : (departing views).filter (fun x => isOneOf (servedNames views) x.nameserver) = [] ↔
      ∀ x ∈ departing views, ∀ v ∈ views, isOneOf v.ns x.nameserver = false := by
    simp only [List.filter_eq_nil_iff, isOneOf_servedNames, not_exists, not_and,
      Bool.not_eq_true]
  rw [nameservers, Finding.clear_append, Finding.clear_flatMap, Finding.clear_map_block, hleft]
  simp only [Finding.clear_cons_note, Finding.clear_map_block, hmissing, departing,
    List.mem_filter, and_imp]
  exact ⟨fun h => ⟨fun v hv o ho => h.1 o ho v hv, fun v hv x hx hl => h.2 x hx hl v hv⟩,
    fun h => ⟨fun v hv o ho => h.same o ho v hv, fun x hx hl v hv => h.staying v hv x hx hl⟩⟩

theorem isOneOf_expectedNames : isOneOf (expectedNames views) name = true ↔
    (∃ v ∈ views, isOneOf v.ns name = true) ∧ isOneOf (leavingNames views) name = false := by
  rw [expectedNames, isOneOf_nameSet, ← isOneOf_flatMap]
  constructor
  · intro h
    obtain ⟨l, hl, hsame⟩ := isOneOf_iff.1 h
    obtain ⟨hl, hkept⟩ := List.mem_filter.1 hl
    rw [Bool.not_eq_true'] at hkept
    refine ⟨isOneOf_iff.2 ⟨l, hl, hsame⟩, ?_⟩
    rw [← Bool.not_eq_true] at hkept ⊢
    exact mt (isOneOf_congr (BEq.symm hsame)) hkept
  · rintro ⟨h, hkept⟩
    obtain ⟨l, hl, hsame⟩ := isOneOf_iff.1 h
    refine isOneOf_iff.2 ⟨l, List.mem_filter.2 ⟨hl, ?_⟩, hsame⟩
    rw [Bool.not_eq_true', ← Bool.not_eq_true]
    rw [← Bool.not_eq_true] at hkept
    exact mt (isOneOf_congr hsame) hkept

/-- **The check of the parent's names finds nothing to mend** just if they are those that are
expected. -/
theorem clear_parentNs : Finding.clear (parentNs views parent) = true ↔
    ∀ name, isOneOf parent.ns name = true ↔ isOneOf (expectedNames views) name = true := by
  have hfound : Finding.clear (parent.ns.map fun n =>
      if isOneOf (leavingNames views) n then Finding.block s!"  found leaving NS {n}, needs removal"
      else if isOneOf (expectedNames views) n then Finding.note s!"  found NS {n}"
      else Finding.block s!"  unexpected NS {n}, needs removal") = true ↔
      ∀ n ∈ parent.ns, isOneOf (expectedNames views) n = true := by
    rw [Finding.clear_iff, List.forall_mem_map]
    refine forall₂_congr fun n _ => ?_
    cases hleaves : isOneOf (leavingNames views) n with
    | true =>
      -- a name that is leaving is not expected either
      have hnot : ¬ isOneOf (expectedNames views) n = true := fun h => by
        rw [(isOneOf_expectedNames.1 h).2] at hleaves
        cases hleaves
      exact ⟨nofun, fun h => absurd h hnot⟩
    | false => exact Finding.blocking_unless
  have hmissing : (expectedNames views).filter (fun n => !isOneOf parent.ns n) = [] ↔
      ∀ n ∈ expectedNames views, isOneOf parent.ns n = true := by
    simp only [List.filter_eq_nil_iff, Bool.not_eq_true', Bool.not_eq_false]
  rw [parentNs, Finding.clear_append, Finding.clear_cons_note, hfound, Finding.clear_map_block,
    hmissing, forall_mem_isOneOf, forall_mem_isOneOf]
  exact ⟨fun h name => ⟨h.1 name, h.2 name⟩, fun h => ⟨fun n => (h n).1, fun n => (h n).2⟩⟩

/-- Where the signers agree on names, those expected of the parent are those they serve. -/
theorem NamesAgree.expected (h : NamesAgree views) :
    isOneOf (expectedNames views) name = true ↔ ∃ v ∈ views, isOneOf v.ns name = true := by
  rw [isOneOf_expectedNames, and_iff_left_iff_imp]
  rintro ⟨v, hv, hname⟩
  rw [← Bool.not_eq_true, isOneOf_leavingNames]
  rintro ⟨x, hx, hsame⟩
  obtain ⟨hx, hleaves⟩ := List.mem_filter.1 hx
  have hstays := h.staying v hv x hx hleaves
  rw [isOneOf_congr (BEq.symm hsame) hname] at hstays
  cases hstays

/-! ## 7. All checks -/

/-- **The flags are worked out** just if every key that is looked at has a tag. -/
theorem exists_flags_iff :
    (∃ f, (ofViews zone views parent origins).flags = .ok f) ↔ Tagged views := by
  have hsound : Report.failure? (dnskeys views origins ++ cds zone views) = none ↔
      Tagged views := by
    have hboth : Report.failure? (dnskeys views origins ++ cds zone views) = none ↔
        Report.Sound (dnskeys views origins ++ cds zone views) :=
      ⟨Report.sound_of_failure?, Report.Sound.failure?⟩
    rw [hboth, Report.sound_append, sound_dnskeys, sound_cds, forall_staying, forall_staying]
    simp only [Tagged, List.forall_mem_append]
    exact ⟨fun h v hv hl => ⟨h.1 v hv hl, h.2 v hv hl⟩,
      fun h => ⟨fun v hv hl => (h v hv hl).1, fun v hv hl => (h v hv hl).2⟩⟩
  rw [← hsound, ofViews]
  cases Report.failure? (dnskeys views origins ++ cds zone views) with
  | some e => exact ⟨nofun, nofun⟩
  | none => exact ⟨fun _ => rfl, fun _ => ⟨_, rfl⟩⟩

variable {f : SyncFlags}

/-- Flags that are worked out are those of the five checks. -/
theorem flags_eq_ok (h : (ofViews zone views parent origins).flags = .ok f) :
    f = flagsOf (dnskeys views origins).items (cds zone views).items (nameservers views)
      (parentDs views parent) (parentNs views parent) := by
  rw [ofViews] at h
  cases hfailure : Report.failure? (dnskeys views origins ++ cds zone views) with
  | some e =>
    simp only [hfailure] at h
    cases h
  | none =>
    simp only [hfailure] at h
    exact (Except.ok.inj h).symm

/-- Flags are worked out only if every key can be reported. -/
theorem sound_of_flags (h : (ofViews zone views parent origins).flags = .ok f) :
    Report.Sound (dnskeys views origins) :=
  sound_dnskeys.2 (forall_staying.2 fun v hv hl =>
    (List.forall_mem_append.1 (exists_flags_iff.1 ⟨f, h⟩ v hv hl)).1)

theorem sound_cds_of_flags (h : (ofViews zone views parent origins).flags = .ok f) :
    Report.Sound (cds zone views) :=
  sound_cds.2 (forall_staying.2 fun v hv hl =>
    (List.forall_mem_append.1 (exists_flags_iff.1 ⟨f, h⟩ v hv hl)).2)

/-- **A flag is set** just if what it stands for is the case. -/
theorem get_iff (h : (ofViews zone views parent origins).flags = .ok f) (flag : SyncFlag) :
    f.get flag = true ↔ Holds zone views parent origins flag := by
  have hdnskeys := sound_of_flags h
  have hcds := sound_cds_of_flags h
  have hreferred : Finding.clear (cds zone views).items = true ↔ KeysReferred zone views :=
    (Finding.clear_items_iff hcds).trans (fine_cds hcds)
  rw [flags_eq_ok h]
  cases flag with
  | dnskeys => exact (Finding.clear_items_iff hdnskeys).trans (fine_dnskeys hdnskeys)
  | cds => exact hreferred
  | parentDs =>
    show (Finding.clear (parentDs views parent) && Finding.clear (cds zone views).items) = true ↔ _
    rw [Bool.and_eq_true, and_comm, hreferred, clear_parentDs]
    rfl
  | ns => exact clear_nameservers
  | parentNs =>
    show (Finding.clear (parentNs views parent) && Finding.clear (nameservers views)) = true ↔ _
    rw [Bool.and_eq_true, and_comm, clear_nameservers, clear_parentNs]
    refine and_congr_right fun hagree => forall_congr' fun name => ?_
    rw [hagree.expected]

/-- A parent that refers to the keys that signers ask for refers to each one that signs keys. -/
theorem ParentRefers.exists_ds (hparent : ParentRefers views parent)
    (h : KeysReferred zone views) (hv : v ∈ views) (hstays : v.leaving = false)
    (hk : k ∈ v.keySigningKeys) : ∃ d ∈ parent.ds, k.delegation zone d.digestType = .ok d := by
  obtain ⟨d, hd, hdigest⟩ := h.cds v hv hstays v hv hstays k hk
  exact ⟨d, (hparent d).2 ⟨v, hv, hstays, hd⟩, hdigest⟩

/-- **What the flags mean.**  Each one is a condition on the views, and those for the parent need
that of the signers too.  So a parent that is in sync refers to every key that signs keys. -/
theorem flags_iff (h : (ofViews zone views parent origins).flags = .ok f) :
    (f.dnskeys = true ↔ KeysSynced views origins) ∧
    (f.cds = true ↔ KeysReferred zone views) ∧
    (f.ns = true ↔ NamesAgree views) ∧
    (f.parentDs = true ↔ f.cds = true ∧ ParentRefers views parent) ∧
    (f.parentNs = true ↔ f.ns = true ∧ ParentDelegates views parent) ∧
    (f.parentDs = true → ∀ v ∈ views, v.leaving = false → ∀ k ∈ v.keySigningKeys,
      ∃ d ∈ parent.ds, k.delegation zone d.digestType = .ok d) := by
  have hcds : f.cds = true ↔ KeysReferred zone views := get_iff h .cds
  have hns : f.ns = true ↔ NamesAgree views := get_iff h .ns
  have hparentDs : f.parentDs = true ↔ f.cds = true ∧ ParentRefers views parent := by
    rw [hcds]
    exact get_iff h .parentDs
  refine ⟨get_iff h .dnskeys, hcds, hns, hparentDs, ?_, fun hflag v hv hstays k hk => ?_⟩
  · rw [hns]
    exact get_iff h .parentNs
  · obtain ⟨hreferred, hparent⟩ := hparentDs.1 hflag
    exact hparent.exists_ds (hcds.1 hreferred) hv hstays hk

end Evaluation

namespace Sample

/-- A key that signs keys, and one that signs the zone. -/
def groupKeys : List Dnskey := [⟨true, true, false, 13, [1]⟩, ⟨true, false, false, 13, [2]⟩]

/-- Two servers' names. -/
def groupNames : List DomainName := [⟨[[97]], true⟩, ⟨[[98]], true⟩]

/-- A signer that serves what a group agreed on. -/
def agreedView (name : String) (leaving : Bool) : SignerView where
  member := ⟨name, { group := .root, address := name, nameserver := ⟨[[99]], true⟩, leaving }⟩
  dnskeys := groupKeys
  cds := groupKeys.filterMap fun k =>
    if k.role = .keySigning then (k.delegation .root .sha256).toOption else none
  cdnskeys := groupKeys.filter fun k => k.role = .keySigning
  ns := groupNames

/-- Two signers that stay, and one that is leaving. -/
def agreed : List SignerView := [agreedView "a" false, agreedView "b" false, agreedView "c" true]

/-- A parent that took over what they ask for. -/
def agreedParent : ParentView := ⟨(agreedView "a" false).cds, groupNames⟩

/-- All flags are set, so the signers are in line and the parent refers to the key. -/
theorem flags_iff_of_agreed :
    (Evaluation.ofViews .root agreed agreedParent .empty).flags
      = .ok ⟨true, true, true, true, true⟩ ∧
    Evaluation.KeysSynced agreed .empty ∧ Evaluation.KeysReferred .root agreed ∧
    Evaluation.NamesAgree agreed ∧ Evaluation.ParentRefers agreed agreedParent ∧
    Evaluation.ParentDelegates agreed agreedParent ∧
    ∃ d ∈ agreedParent.ds,
      Dnskey.delegation ⟨true, true, false, 13, [1]⟩ .root d.digestType = .ok d := by
  have hflags : (Evaluation.ofViews .root agreed agreedParent .empty).flags
      = .ok ⟨true, true, true, true, true⟩ := eq_ok_of_toOption (by decide +kernel)
  obtain ⟨hdnskeys, hcds, hns, hparentDs, hparentNs, hrefers⟩ := Evaluation.flags_iff hflags
  exact ⟨hflags, hdnskeys.1 rfl, hcds.1 rfl, hns.1 rfl, (hparentDs.1 rfl).2, (hparentNs.1 rfl).2,
    hrefers rfl (agreedView "a" false) List.mem_cons_self rfl _ (by decide)⟩

end Sample
end MultiSigner
