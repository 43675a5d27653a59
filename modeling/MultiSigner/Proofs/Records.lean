/-
# The group of a zone in the document

Operations look a group up by its zone and change it by its zone, where spellings that compare as
equal stand for one zone.  This module says what changes of one group do to what is looked up, and
names the part of a document that no automation step changes.
-/
import MultiSigner.Automation
import MultiSigner.Proofs.Operation

namespace MultiSigner

variable {ω : Type} {zone z : DomainName} {s t : State}

/-! ## 1. Spellings of a zone -/

theorem DomainName.compare_eq_iff_beq {a b : DomainName} : compare a b = .eq ↔ (b == a) = true := by
  rw [DomainName.compare_eq_iff, DomainName.beq_iff, eq_comm]

/-- Names that count as equal compare as equal. -/
theorem DomainName.compare_of_beq {a b : DomainName} (h : (a == b) = true) : compare a b = .eq :=
  DomainName.compare_eq_iff_beq.2 (BEq.symm h)

namespace State

/-- Every spelling of a zone finds the same group. -/
theorem groups_get?_of_beq (s : State) (h : (z == zone) = true) :
    s.groups.get? z = s.groups.get? zone :=
  s.groups.get?_congr (DomainName.compare_of_beq h)

/-! ## 2. Changing a group -/

theorem get?_modifyGroup_of_beq (s : State) (f : Group → Group) (h : (z == zone) = true) :
    (s.modifyGroup z f).groups.get? zone = (s.groups.get? zone).map f := by
  rw [modifyGroup, OrderedMap.get?_modify, if_pos (DomainName.compare_of_beq h)]

@[simp] theorem get?_modifyGroup (s : State) (zone : DomainName) (f : Group → Group) :
    (s.modifyGroup zone f).groups.get? zone = (s.groups.get? zone).map f :=
  s.get?_modifyGroup_of_beq f (DomainName.beq_iff.2 rfl)

/-- A change of one group leaves those of other zones alone. -/
theorem get?_modifyGroup_elsewhere (s : State) (f : Group → Group) (h : (z == zone) = false) :
    (s.modifyGroup z f).groups.get? zone = s.groups.get? zone := by
  rw [modifyGroup, OrderedMap.get?_modify, if_neg]
  intro hz
  rw [BEq.symm (DomainName.compare_eq_iff_beq.1 hz)] at h
  cases h

/-- The document with the group of a zone changed, if there is one and it is as asked. -/
def amendGroup (s : State) (zone : DomainName) (p : Group → Bool) (f : Group → Group) : State :=
  match s.groups.get? zone with
  | none => s
  | some g => if p g then s.modifyGroup zone f else s

theorem get?_amendGroup {p : Group → Bool} {f : Group → Group} {g : Group}
    (h : (z == zone) = true) (hg : s.groups.get? zone = some g) :
    (s.amendGroup z p f).groups.get? zone = some (if p g then f g else g) := by
  unfold amendGroup
  rw [groups_get?_of_beq s h, hg]
  simp only
  split
  · rw [get?_modifyGroup_of_beq s f h, hg, Option.map_some]
  · exact hg

theorem get?_amendGroup_elsewhere {p : Group → Bool} {f : Group → Group}
    (h : (z == zone) = false) :
    (s.amendGroup z p f).groups.get? zone = s.groups.get? zone := by
  unfold amendGroup
  split
  · rfl
  · split
    · exact s.get?_modifyGroup_elsewhere f h
    · rfl

theorem group_eq_ok {g : Group} : s.group zone = .ok g ↔ s.groups.get? zone = some g := by
  unfold group
  cases s.groups.get? zone with
  | none => simp only [reduceCtorEq]
  | some h => simp only [Except.ok.injEq, Option.some.injEq]

theorem signer_eq_ok {name : String} {g : Signer} :
    s.signer name = .ok g ↔ s.signers.get? name = some g := by
  unfold signer
  cases s.signers.get? name with
  | none => simp only [reduceCtorEq]
  | some h => simp only [Except.ok.injEq, Option.some.injEq]

/-! ## 3. The members of a group -/

/-- The members of a group are told by its list of names and by the records of signers. -/
theorem members_congr (hg : (t.groups.get? zone).map Group.signers
      = (s.groups.get? zone).map Group.signers) (hs : t.signers = s.signers) :
    t.members zone = s.members zone := by
  unfold members group
  revert hg
  cases t.groups.get? zone with
  | none =>
    cases s.groups.get? zone with
    | none => exact fun _ => rfl
    | some g => exact fun h => by cases h
  | some g =>
    cases s.groups.get? zone with
    | none => exact fun h => by cases h
    | some g' =>
      intro h
      simp only [Option.map_some, Option.some.injEq] at h
      simp only [signer, hs]
      exact congrArg (fun names : List String => names.mapM _) h

/-- Items that are told by their images. -/
theorem forall₂_image_iff {α β : Type} {f : β → α} {P : β → Prop} :
    ∀ {l : List α} {m : List β},
      List.Forall₂ (fun a b => f b = a ∧ P b) l m ↔ m.map f = l ∧ ∀ b ∈ m, P b
  | l, [] => by
    rw [List.forall₂_nil_right_iff, List.map_nil, eq_comm]
    exact ⟨fun h => ⟨h, by simp⟩, And.left⟩
  | l, b :: m => by
    rw [List.forall₂_cons_right_iff, List.map_cons, List.forall_mem_cons]
    constructor
    · rintro ⟨a, k, ⟨rfl, hb⟩, hk, rfl⟩
      obtain ⟨rfl, hm⟩ := forall₂_image_iff.1 hk
      exact ⟨rfl, hb, hm⟩
    · rintro ⟨rfl, hb, hm⟩
      exact ⟨_, _, ⟨rfl, hb⟩, forall₂_image_iff.2 ⟨rfl, hm⟩, rfl⟩

/-- The members of a group are the names in its list, each with its record. -/
theorem members_eq_ok {members : List Member} :
    s.members zone = .ok members ↔ ∃ g, s.groups.get? zone = some g ∧
      members.map Member.name = g.signers ∧
        ∀ m ∈ members, s.signers.get? m.name = some m.signer := by
  have hlook : ∀ (name : String) (m : Member),
      (do return ⟨name, ← s.signer name⟩ : Except Error Member) = .ok m
        ↔ m.name = name ∧ s.signers.get? m.name = some m.signer := by
    intro name m
    rw [bind_eq_ok]
    constructor
    · rintro ⟨g, hg, h⟩
      cases h
      exact ⟨rfl, signer_eq_ok.1 hg⟩
    · rintro ⟨rfl, h⟩
      exact ⟨m.signer, signer_eq_ok.2 h, rfl⟩
  rw [State.members, bind_eq_ok]
  simp only [mapM_eq_ok, hlook, group_eq_ok, forall₂_image_iff]

/-- Names tell members apart. -/
theorem eq_of_name {members : List Member} (h : s.members zone = .ok members) {m m' : Member}
    (hm : m ∈ members) (hm' : m' ∈ members) (hname : m.name = m'.name) : m = m' := by
  obtain ⟨g, -, -, hsigners⟩ := members_eq_ok.1 h
  have hsigner := (hsigners m hm).symm.trans (hname ▸ hsigners m' hm')
  cases m
  cases m'
  simp only [Option.some.injEq] at hname hsigner
  rw [hname, hsigner]

/-! ## 4. What automation leaves alone -/

/-- The part of a document that no automation step changes. -/
def registry (s : State) :
    OrderedMap String Signer × OrderedMap String String × OrderedMap String String
      × List DomainName × OrderedMap String String :=
  (s.signers, s.tsigKeys, s.tokens, s.autostart, s.settings)

@[simp] theorem registry_modifyGroup (s : State) (zone : DomainName) (f : Group → Group) :
    (s.modifyGroup zone f).registry = s.registry := rfl

end State

/-- A group without the answers of its last status. -/
def Group.unflagged (g : Group) : Group :=
  { g with synced := .none }

/-- A group without the answers of its last status and without deadlines. -/
def Group.plain (g : Group) : Group :=
  { g with synced := .none, waitDs := none, waitNs := none }

/-- Two groups agree in what operators say about them. -/
structure Group.Alike (g h : Group) : Prop where
  signers : g.signers = h.signers
  parent : g.parent = h.parent
  ttl : g.ttl = h.ttl

theorem Group.alike_of_plain {g h : Group} (hgh : g.plain = h.plain) :
    g.Alike h ∧ g.stage = h.stage := by
  have hsigners : g.plain.signers = h.plain.signers := congrArg Group.signers hgh
  have hparent : g.plain.parent = h.plain.parent := congrArg Group.parent hgh
  have httl : g.plain.ttl = h.plain.ttl := congrArg Group.ttl hgh
  have hstage : g.plain.stage = h.plain.stage := congrArg Group.stage hgh
  exact ⟨⟨hsigners, hparent, httl⟩, hstage⟩

end MultiSigner
