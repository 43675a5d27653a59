/-
# Members come, leave and stay after all

Three commands change who belongs to a group: one adds a signer, one marks a signer as leaving and
one takes that back.  All three turn one signer into a direction and may let its group walk in that
direction; `Turned` says so of the documents before and after, and `turned_of_addSigner` and
`turned_of_markLeave` say that the commands do this or leave the document alone.
-/
import MultiSigner.Command.Run
import MultiSigner.Proofs.Records

namespace MultiSigner

open Operation

variable {ω : Type} {o : Outside ω} {s t : Session ω} {zone z : DomainName} {name : String}

/-! ## 1. Where signers are bound -/

/-- Whether a signer that goes in a direction is marked as leaving. -/
def Direction.leaves : Direction → Bool
  | joining => false
  | leaving => true

/-- There is a signer of the name, and it is leaving or not, as told by the direction. -/
def State.Bound (s : State) (d : Direction) (name : String) : Prop :=
  ∃ r, s.signers.get? name = some r ∧ r.leaving = d.leaves

theorem State.bound_congr {s t : State} (h : t.signers.get? name = s.signers.get? name)
    (d : Direction) : t.Bound d name ↔ s.Bound d name := by
  simp only [State.Bound, h]

/-! ## 2. What a change of members does -/

/-- The stage of a group after a change of its members. -/
def stageAfter (d : Direction) (members : List String) (stage : Stage) : Stage :=
  if 2 ≤ members.length ∧ stage ≠ .manual ∧ stage ≠ .error then .start d else stage

/-- One signer turned into a direction, and the group of the zone may walk in it now. -/
structure Turned (zone : DomainName) (d : Direction) (name : String) (σ τ : State) : Prop where
  before : ¬ σ.Bound d name
  after : τ.Bound d name
  others : ∀ n, n ≠ name → τ.signers.get? n = σ.signers.get? n
  missing : σ.groups.get? zone = none → τ.groups.get? zone = none
  group : ∀ g, σ.groups.get? zone = some g → ∃ g', τ.groups.get? zone = some g' ∧
    (g'.signers = g.signers ∧ (σ.signers.get? name).isSome
      ∨ g'.signers = g.signers ++ [name] ∧ σ.signers.get? name = none) ∧
    g'.stage = stageAfter d g'.signers g.stage

/-- The document after a change of members. -/
def afterChange (z : DomainName) (d : Direction) (s : State) : State :=
  match s.groups.get? z with
  | none => s
  | some g => if Automation.restarts g then s.modifyGroup z (Automation.restarted d) else s

theorem state_of_membershipChanged {d : Direction} {r : Except Error Unit}
    (h : (Automation.membershipChanged z d).perform o s = (r, t)) :
    t.state = afterChange z d s.state ∧ t.deliveries = s.deliveries := by
  simp only [Automation.membershipChanged, perform_bind, perform_state, perform_lift] at h
  unfold afterChange
  cases hg : s.state.groups.get? z with
  | none =>
    have hgroup : s.state.group z = .error (.noSuchGroup z) := by rw [State.group, hg]
    rw [hgroup] at h
    cases h
    exact ⟨rfl, rfl⟩
  | some g =>
    rw [State.group_eq_ok.2 hg] at h
    simp only [perform_ite, perform_bind, perform_modifyState, perform_line, perform_pure] at h
    simp only
    split at h
    · cases h
      exact ⟨(if_pos ‹_›).symm, rfl⟩
    · cases h
      exact ⟨(if_neg ‹_›).symm, rfl⟩

theorem signers_afterChange (z : DomainName) (d : Direction) (s : State) :
    (afterChange z d s).signers = s.signers := by
  unfold afterChange
  split
  · rfl
  · split <;> rfl

theorem missing_afterChange (hz : (z == zone) = true) (d : Direction) {s : State}
    (h : s.groups.get? zone = none) : (afterChange z d s).groups.get? zone = none := by
  unfold afterChange
  rw [State.groups_get?_of_beq s hz, h]
  exact h

theorem afterChange_eq (z : DomainName) (d : Direction) (s : State) :
    afterChange z d s = s.amendGroup z Automation.restarts (Automation.restarted d) := rfl

theorem restarts_iff {g : Group} : Automation.restarts g = true
    ↔ 2 ≤ g.signers.length ∧ g.stage ≠ .manual ∧ g.stage ≠ .error := by
  simp only [Automation.restarts, Bool.and_eq_true, decide_eq_true_eq, bne_iff_ne, ne_eq, and_assoc]

theorem group_afterChange (hz : (z == zone) = true) (d : Direction) {s : State} {g : Group}
    (h : s.groups.get? zone = some g) :
    ∃ g', (afterChange z d s).groups.get? zone = some g' ∧ g'.signers = g.signers ∧
      g'.stage = stageAfter d g.signers g.stage := by
  refine ⟨_, State.get?_amendGroup hz h, ?_⟩
  split
  · rename_i hr
    exact ⟨rfl, (if_pos (restarts_iff.1 hr)).symm⟩
  · rename_i hr
    exact ⟨rfl, (if_neg (restarts_iff.not.1 hr)).symm⟩

/-! ## 3. The commands -/

/-- A change of members and what is said of it afterwards. -/
def announce (z : DomainName) (d : Direction) : Operation ω Unit := do
  Automation.membershipChanged z d
  publishStatus z

theorem state_of_announce {d : Direction} {r : Except Error Unit}
    (h : (announce z d).perform o s = (r, t)) :
    t.state = afterChange z d s.state ∧ t.deliveries = s.deliveries := by
  rw [announce, perform_bind] at h
  rcases hm : (Automation.membershipChanged z d).perform o s with ⟨e | _, u⟩
  all_goals
    have hu := state_of_membershipChanged hm
    rw [hm] at h
  · cases h
    exact hu
  · simp only [perform_publishStatus] at h
    cases h
    exact hu

/-- The document with a signer added, before its group is let walk. -/
theorem addSigner_eq_ok {σ τ : State} {signer : Signer} (h : σ.addSigner name signer = .ok τ) :
    σ.signers.get? name = none ∧ (∃ g, σ.groups.get? signer.group = some g) ∧
      τ.signers = σ.signers.insert name signer ∧
      τ.groups = σ.groups.modify signer.group fun g => { g with signers := g.signers ++ [name] } := by
  unfold State.addSigner at h
  split at h
  · cases h
  · rename_i hnew
    obtain ⟨g, hg, h⟩ := bind_eq_ok.1 h
    cases h
    refine ⟨?_, ⟨g, State.group_eq_ok.1 hg⟩, rfl, rfl⟩
    simpa only [OrderedMap.contains, Option.not_isSome_iff_eq_none] using hnew

theorem turned_of_added {σ τ : State} {signer : Signer} (hz : (signer.group == zone) = true)
    (hstays : signer.leaving = false) (h : σ.addSigner name signer = .ok τ) :
    Turned zone .joining name σ (afterChange signer.group .joining τ) := by
  obtain ⟨hnew, ⟨g, hg⟩, hsigners, hgroups⟩ := addSigner_eq_ok h
  have hself (n : String) : (afterChange signer.group .joining τ).signers.get? n
      = if compare n name = .eq then some signer else σ.signers.get? n := by
    rw [signers_afterChange, hsigners, OrderedMap.get?_insert]
  refine ⟨?_, ?_, fun n hn => ?_, fun hnone => ?_, fun g' hg' => ?_⟩
  · rintro ⟨r, hr, -⟩
    rw [hnew] at hr
    cases hr
  · exact ⟨signer, (hself name).trans (if_pos Std.ReflCmp.compare_self), hstays⟩
  · rw [hself, if_neg fun h => hn (Std.LawfulEqCmp.eq_of_compare h)]
  · rw [State.groups_get?_of_beq _ hz, hnone] at hg
    cases hg
  · have hget : τ.groups.get? zone = some { g' with signers := g'.signers ++ [name] } := by
      rw [hgroups, OrderedMap.get?_modify, if_pos (DomainName.compare_of_beq hz), hg',
        Option.map_some]
    obtain ⟨g'', hget', hsame, hstage⟩ := group_afterChange hz .joining hget
    exact ⟨g'', hget', .inr ⟨hsame, hnew⟩, by rw [hstage, hsame]⟩

theorem addSigner_eq (z : DomainName) (name : String) (nameserver : DomainName) (address : String) :
    (Command.addSigner z name nameserver address : Operation ω Unit) = (do
      let σ ← (← state).addSigner name { group := z, address := address, nameserver := nameserver }
      modifyState fun _ => σ
      line s!"Signer {name} added to {z}"
      announce z .joining) := rfl

/-- Adding a signer changes the members of its group, unless it is refused. -/
theorem state_of_addSigner {nameserver : DomainName} {address : String} {r : Except Error Unit}
    (h : (Command.addSigner z name nameserver address).perform o s = (r, t)) :
    (t.state = s.state ∨ ∃ τ, s.state.addSigner name
      { group := z, address := address, nameserver := nameserver } = .ok τ ∧
        t.state = afterChange z .joining τ) ∧ t.deliveries = s.deliveries := by
  simp only [addSigner_eq, perform_bind, perform_state, perform_lift] at h
  cases ha : s.state.addSigner name { group := z, address := address, nameserver := nameserver } with
  | error e =>
    rw [ha] at h
    cases h
    exact ⟨.inl rfl, rfl⟩
  | ok σ =>
    simp only [ha, perform_modifyState, perform_line] at h
    obtain ⟨hstate, hd⟩ := state_of_announce h
    exact ⟨.inr ⟨σ, rfl, hstate⟩, hd⟩

/-- **Adding a signer turns it**, unless it is refused. -/
theorem turned_of_addSigner {nameserver : DomainName} {address : String} {r : Except Error Unit}
    (hz : (z == zone) = true)
    (h : (Command.addSigner z name nameserver address).perform o s = (r, t)) :
    (t.state = s.state ∨ Turned zone .joining name s.state t.state) ∧
      t.deliveries = s.deliveries := by
  obtain ⟨hstate | ⟨σ, hadded, hstate⟩, hd⟩ := state_of_addSigner h
  · exact ⟨.inl hstate, hd⟩
  · rw [hstate]
    exact ⟨.inr (turned_of_added hz rfl hadded), hd⟩

/-- The direction in which a signer is turned by marking it, or by taking that back. -/
def turn (leaving : Bool) : Direction :=
  if leaving then .leaving else .joining

theorem leaves_turn (leaving : Bool) : (turn leaving).leaves = leaving := by
  cases leaving <;> rfl

theorem turned_of_marked {σ : State} {signer : Signer} {leaving : Bool}
    (hz : (signer.group == zone) = true) (hs : σ.signers.get? name = some signer)
    (hne : signer.leaving ≠ leaving) :
    Turned zone (turn leaving) name σ (afterChange signer.group (turn leaving)
      (σ.modifySigner name fun g => { g with leaving := leaving })) := by
  have hself (n : String) : (afterChange signer.group (turn leaving)
      (σ.modifySigner name fun g => { g with leaving := leaving })).signers.get? n
        = if compare name n = .eq then (σ.signers.get? n).map fun g => { g with leaving := leaving }
          else σ.signers.get? n := by
    rw [signers_afterChange, State.modifySigner, OrderedMap.get?_modify]
  refine ⟨?_, ?_, fun n hn => ?_, fun hnone => ?_, fun g hg => ?_⟩
  · rintro ⟨r, hr, hleaving⟩
    rw [hs] at hr
    cases hr
    exact hne (hleaving.trans (leaves_turn leaving))
  · refine ⟨{ signer with leaving := leaving }, ?_, (leaves_turn leaving).symm⟩
    rw [hself, if_pos Std.ReflCmp.compare_self, hs, Option.map_some]
  · rw [hself, if_neg fun h => hn (Std.LawfulEqCmp.eq_of_compare h).symm]
  · exact missing_afterChange hz _ hnone
  · obtain ⟨g', hget, hsame, hstage⟩ := group_afterChange hz (turn leaving)
      (s := σ.modifySigner name fun g => { g with leaving := leaving }) hg
    exact ⟨g', hget, .inl ⟨hsame, by rw [hs]; rfl⟩, by rw [hstage, hsame]⟩

/-- Marking a signer, or taking that back, changes the members of its group, unless it is refused or
nothing new. -/
theorem state_of_markLeave {leaving : Bool} {r : Except Error Unit}
    (h : (Command.markLeave name leaving).perform o s = (r, t)) :
    (t.state = s.state ∨ ∃ signer, s.state.signers.get? name = some signer ∧
      signer.leaving ≠ leaving ∧ t.state = afterChange signer.group (turn leaving)
        (s.state.modifySigner name fun g => { g with leaving := leaving })) ∧
      t.deliveries = s.deliveries := by
  simp only [Command.markLeave, perform_bind, perform_state, perform_lift] at h
  cases hs : s.state.signer name with
  | error e =>
    rw [hs] at h
    cases h
    exact ⟨.inl rfl, rfl⟩
  | ok signer =>
    have hget := State.signer_eq_ok.1 hs
    simp only [hs, perform_ite, perform_line] at h
    split at h
    · cases h
      exact ⟨.inl rfl, rfl⟩
    · rename_i hne
      have hop : (do
          modifyState fun s => s.modifySigner name fun g => { g with leaving := leaving }
          line (if leaving then s!"Signer {name} marked as leaving {signer.group}"
            else s!"Signer {name} no longer leaving {signer.group}")
          announce signer.group (turn leaving) : Operation ω Unit).perform o s = (r, t) := by
        rw [← h]
        simp only [announce, perform_bind]
        rfl
      simp only [perform_bind, perform_modifyState, perform_line] at hop
      obtain ⟨hstate, hd⟩ := state_of_announce hop
      exact ⟨.inr ⟨signer, hget, hne, hstate⟩, hd⟩

/-- **Marking a signer turns it**, and so does taking that back, unless it is refused or nothing
new. -/
theorem turned_of_markLeave {leaving : Bool} {r : Except Error Unit}
    (hz : ∀ signer, s.state.signers.get? name = some signer → (signer.group == zone) = true)
    (h : (Command.markLeave name leaving).perform o s = (r, t)) :
    (t.state = s.state ∨ Turned zone (turn leaving) name s.state t.state) ∧
      t.deliveries = s.deliveries := by
  obtain ⟨hstate | ⟨signer, hget, hne, hstate⟩, hd⟩ := state_of_markLeave h
  · exact ⟨.inl hstate, hd⟩
  · rw [hstate]
    exact ⟨.inr (turned_of_marked (hz signer hget) hget hne), hd⟩

end MultiSigner
