/-
# What a document says

Two documents say the same if they differ at most in how names and instants are written.  So there
is something that each of them says (`State.meaning`), and to say the same is to have that in common
(`State.same_iff`).  In particular it is an equivalence.
-/
import MultiSigner.Proofs.Saving.Shapes
import MultiSigner.State.Same

namespace MultiSigner

/-! ## 1. Maps -/

theorem OrderedMap.same_iff_map {κ α κ' α' : Type} [Ord κ] {eq : α → α → Bool} (key : κ → κ')
    (value : α → α') (hkey : ∀ a b : κ, compare a b = .eq ↔ key a = key b)
    (hvalue : ∀ a b : α, eq a b = true ↔ value a = value b) {m n : OrderedMap κ α} :
    m.same eq n = true
      ↔ m.entries.map (Prod.map key value) = n.entries.map (Prod.map key value) := by
  have hentry (a b : κ × α) :
      OrderedMap.SameEntry eq a b ↔ Prod.map key value a = Prod.map key value b := by
    rw [OrderedMap.SameEntry, hkey, hvalue, Prod.ext_iff]
    rfl
  rw [OrderedMap.same_iff_forall₂, ← List.forall₂_eq_eq_eq, List.forall₂_map_left_iff,
    List.forall₂_map_right_iff]
  exact ⟨fun h => h.imp fun a b => (hentry a b).1, fun h => h.imp fun a b => (hentry a b).2⟩

/-! ## 2. Groups, signers and documents -/

theorem sameDeadline_iff {a b : Option Timestamp} :
    sameDeadline a b = true ↔ a.map Timestamp.nanos = b.map Timestamp.nanos := by
  cases a <;> cases b <;> simp [sameDeadline, Timestamp.same]

/-- What a group says. -/
def Group.meaning (g : Group) :=
  (g.signers, g.parent, g.stage, g.error, g.waitDs.map Timestamp.nanos,
    g.waitNs.map Timestamp.nanos, g.ttl, g.synced)

theorem Group.same_iff {g h : Group} : g.same h = true ↔ g.meaning = h.meaning := by
  simp only [Group.same, Group.meaning, Bool.and_eq_true, beq_iff_eq, sameDeadline_iff,
    Prod.mk.injEq, and_assoc]

/-- What a signer says. -/
def Signer.meaning (s : Signer) :=
  (s.group.labels, s.address, s.nameserver.labels, s.kind, s.credential, s.leaving, s.combined)

theorem Signer.same_iff {s t : Signer} : s.same t = true ↔ s.meaning = t.meaning := by
  simp only [Signer.same, Signer.meaning, Bool.and_eq_true, beq_iff_eq, DomainName.beq_iff,
    Prod.mk.injEq, and_assoc]

theorem beq_names_iff {ns ms : List DomainName} :
    (ns == ms) = true ↔ ns.map DomainName.labels = ms.map DomainName.labels := by
  induction ns generalizing ms with
  | nil => cases ms <;> simp
  | cons n ns ih =>
    cases ms with
    | nil => simp
    | cons m ms =>
      rw [List.cons_beq_cons, Bool.and_eq_true, DomainName.beq_iff, ih, List.map_cons,
        List.map_cons, List.cons.injEq]

theorem sameGroups_iff {m n : OrderedMap DomainName Group} : m.same Group.same n = true
    ↔ m.entries.map (Prod.map DomainName.labels Group.meaning)
      = n.entries.map (Prod.map DomainName.labels Group.meaning) :=
  OrderedMap.same_iff_map DomainName.labels Group.meaning (fun _ _ => DomainName.compare_eq_iff)
    fun _ _ => Group.same_iff

theorem sameSigners_iff {m n : OrderedMap String Signer} : m.same Signer.same n = true
    ↔ m.entries.map (Prod.map id Signer.meaning) = n.entries.map (Prod.map id Signer.meaning) :=
  OrderedMap.same_iff_map id Signer.meaning (fun _ _ => Std.LawfulEqOrd.compare_eq_iff_eq)
    fun _ _ => Signer.same_iff

theorem sameTexts_iff {m n : OrderedMap String String} : m.same (· == ·) n = true
    ↔ m.entries.map (Prod.map id id) = n.entries.map (Prod.map id id) :=
  OrderedMap.same_iff_map id id (fun _ _ => Std.LawfulEqOrd.compare_eq_iff_eq) fun _ _ => beq_iff_eq

theorem sameOrigins_iff {m n : OrderedMap DomainName String} : m.same (· == ·) n = true
    ↔ m.entries.map (Prod.map DomainName.labels id)
      = n.entries.map (Prod.map DomainName.labels id) :=
  OrderedMap.same_iff_map DomainName.labels id (fun _ _ => DomainName.compare_eq_iff)
    fun _ _ => beq_iff_eq

namespace State

/-- What a document says. -/
def meaning (s : State) :=
  (s.groups.entries.map (Prod.map DomainName.labels Group.meaning),
    s.signers.entries.map (Prod.map id Signer.meaning),
    s.tsigKeys.entries.map (Prod.map id id), s.tokens.entries.map (Prod.map id id),
    s.dnskeyOrigin.entries.map (Prod.map id id),
    s.nsOrigin.entries.map (Prod.map DomainName.labels id),
    s.autostart.map DomainName.labels, s.settings.entries.map (Prod.map id id))

/-- **To say the same is to have the same meaning.** -/
theorem same_iff {s t : State} : s.same t = true ↔ s.meaning = t.meaning := by
  simp only [same, meaning, Bool.and_eq_true, beq_names_iff, sameGroups_iff, sameSigners_iff,
    sameTexts_iff, sameOrigins_iff, Prod.mk.injEq, and_assoc]

theorem same_refl (s : State) : s.same s = true :=
  same_iff.2 rfl

theorem same_symm {s t : State} (h : s.same t = true) : t.same s = true :=
  same_iff.2 (same_iff.1 h).symm

theorem same_trans {s t u : State} (h : s.same t = true) (k : t.same u = true) :
    s.same u = true :=
  same_iff.2 ((same_iff.1 h).trans (same_iff.1 k))

end State
end MultiSigner
