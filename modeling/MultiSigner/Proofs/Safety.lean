/-
# What precedes the withdrawal of keys and the announcement of names

A group may change its members at any time, also in the middle of a walk.  The runs of this module
interleave such changes with steps of the automation in any order, over any outside and any clock.

The invariant is `SinceTurn`: since a signer was last turned, either its group passed every activity
of its walk up to the present one, or a walk in the other direction was started.  Two statements
follow from it.

* `key_withdrawn`: a key whose origin is a leaving signer is taken out only after the name servers
  were changed and their hold was over, or in a walk that was started for someone who joins.
* `name_announced`: the name of a signer that joined is put in only after its keys and the parent
  were checked and their hold was over, or in a walk that was started for someone who leaves.

The second half of each is not idle: such a walk does not wait for the signer that was turned the
other way.
-/
import MultiSigner.Proofs.Run

namespace MultiSigner

open Operation Automation

variable {ω : Type} {c : Controller ω} {zone : DomainName} {d : Direction} {name : String}
  {e : Deed ω} {run : List (Deed ω)} {σ σ₀ : State}

/-! ## 1. Deeds that bring a group on -/

namespace Deed

/-- The document after a step of a group. -/
theorem Steps.group {g : Group} (h : e.Steps c zone)
    (hg : e.before.state.groups.get? zone = some g) :
    (e.after c).state.registry = e.before.state.registry ∧
      ∃ z g', (z == zone) = true ∧ (e.after c).state.groups.get? zone = some g' ∧
        Led z c.outside e.before g.stage g'.stage ∧ g'.Alike g := by
  obtain ⟨z, r, t, hz, hstep, hlasting⟩ := h.stepped
  rw [(Session.lasting_eq_iff.1 hlasting).1]
  rw [← State.groups_get?_of_beq _ hz] at hg ⊢
  obtain ⟨hreg, g', hget, hled, halike⟩ := hstep.after hg
  exact ⟨hreg, z, g', hz, hget, hled, halike⟩

/-- A step without a group does nothing to the document. -/
theorem Steps.state_of_missing (h : e.Steps c zone)
    (hg : e.before.state.groups.get? zone = none) : (e.after c).state = e.before.state := by
  obtain ⟨z, r, t, hz, hstep, hlasting⟩ := h.stepped
  rw [(Session.lasting_eq_iff.1 hlasting).1]
  rw [← State.groups_get?_of_beq _ hz] at hg
  rw [hstep.state_of_missing hg]

/-- A step turns nobody. -/
theorem Steps.signers (h : e.Steps c zone) :
    (e.after c).state.signers = e.before.state.signers := by
  cases hg : e.before.state.groups.get? zone with
  | none => rw [h.state_of_missing hg]
  | some g => exact congrArg Prod.fst (h.group hg).1

/-- The hold of a direction is over for the group of a zone: the deadline that it gives has come. -/
def HoldOver (c : Controller ω) (zone : DomainName) (d : Direction) (e : Deed ω) : Prop :=
  ∃ z deadline u, (z == zone) = true ∧
    ((holdOf d).wait z).perform c.outside e.before = (.ok deadline, u) ∧
    (c.outside.now u.world).isBefore deadline = false

/-- The deed brings a group from an activity to the next one, and the hold only when it is over. -/
structure Passes (c : Controller ω) (zone : DomainName) (d : Direction) (a : Activity)
    (e : Deed ω) : Prop where
  steps : e.Steps c zone
  found : e.stage? zone = some (.walking d a)
  left : e.stageAfter? c zone = some (Stage.walking d a).next
  hold : a = .wait → e.HoldOver c zone d

theorem holdOver_of_led {z : DomainName} (hz : (z == zone) = true)
    (h : Led z c.outside e.before (.walking d .wait) (Stage.walking d .wait).next) :
    e.HoldOver c zone d := by
  generalize hnext : (Stage.walking d .wait).next = next at h
  cases h with
  | rested hr => cases hr
  | failed _ => cases d <;> cases hnext
  | worked hrun =>
    cases worked_of_runStage hrun with
    | pushed hacts => cases hacts
    | met hcheck => cases hcheck
    | unmet hcheck => cases hcheck
    | held => cases d <;> cases hnext
    | expired hwait hlate => exact ⟨z, _, _, hz, hwait, hlate⟩

end Deed

/-! ## 2. Since a signer was turned -/

/-- Changes of members and steps of the automation, in any order. -/
def Deed.Fits (c : Controller ω) (zone : DomainName) (e : Deed ω) : Prop :=
  e.Steps c zone ∨ e.ChangesMembers c zone ∨ e.TurnedAway c

/-- How a group came to its stage: through the activities before it, or because a walk in the other
direction was started. -/
def Came (c : Controller ω) (zone : DomainName) (d : Direction) (later : List (Deed ω))
    (σ : State) : Prop :=
  ∀ g d' a, σ.groups.get? zone = some g → 2 ≤ g.signers.length → g.stage = .walking d' a →
    d' = d ∧ Walked (Deed.Passes c zone d) d a later ∨ d' ≠ d ∧ ∃ e ∈ later, e.Starts c zone d'

/-- What is known since a signer was last turned in a direction. -/
def SinceTurn (c : Controller ω) (zone : DomainName) (d : Direction) (name : String)
    (run : List (Deed ω)) (σ : State) : Prop :=
  ∃ earlier turn later, run = earlier ++ turn :: later ∧ turn.Turns c d name ∧
    (∀ e ∈ later, ¬ e.Turns c d name) ∧ Came c zone d later σ

/-- A deed that does not turn the signer is one of those since its turn. -/
theorem SinceTurn.snoc {τ : State} (h : SinceTurn c zone d name run σ) (e : Deed ω)
    (hturn : ¬ e.Turns c d name)
    (hcame : ∀ later, Came c zone d later σ → Came c zone d (later ++ [e]) τ) :
    SinceTurn c zone d name (run ++ [e]) τ := by
  obtain ⟨earlier, turn, later, rfl, ht, hlater, hc⟩ := h
  refine ⟨earlier, turn, later ++ [e], by simp, ht, fun f hf => ?_, hcame later hc⟩
  rcases List.mem_append.1 hf with hf | hf
  · exact hlater f hf
  · rw [List.mem_singleton.1 hf]
    exact hturn

theorem Came.stay {later : List (Deed ω)} (h : Came c zone d later σ) (e : Deed ω) :
    Came c zone d (later ++ [e]) σ := fun g d' a hg hlen hstage => by
  rcases h g d' a hg hlen hstage with ⟨hd, hw⟩ | ⟨hd, f, hf, hstart⟩
  · exact .inl ⟨hd, hw.stay e⟩
  · exact .inr ⟨hd, f, List.mem_append_left _ hf, hstart⟩

/-- **A step keeps what is known.** -/
theorem Came.step {later : List (Deed ω)} (h : Came c zone d later e.before.state)
    (he : e.Steps c zone) : Came c zone d (later ++ [e]) (e.after c).state := by
  intro g' d' a hget hlen hstage
  cases hg : e.before.state.groups.get? zone with
  | none =>
    rw [he.state_of_missing hg, hg] at hget
    cases hget
  | some g =>
    obtain ⟨-, z, g'', hz, hget', hled, halike⟩ := he.group hg
    rw [hget] at hget'
    cases hget'
    rw [halike.signers] at hlen
    rw [hstage] at hled
    obtain ⟨b, hfound⟩ := exists_walking_of_led hled
    rw [hfound] at hled
    rcases h g d' b hg hlen hfound with ⟨rfl, hw⟩ | ⟨hd, f, hf, hstart⟩
    · refine .inl ⟨rfl, (hw.led hled (fun hnext => ⟨he, ?_, ?_, ?_⟩) rfl).2⟩
      · rw [Deed.stage?, hg, Option.map_some, hfound]
      · rw [Deed.stageAfter?, hget, Option.map_some, hstage, hnext]
      · rintro rfl
        rw [hnext] at hled
        exact Deed.holdOver_of_led hz hled
    · exact .inr ⟨hd, f, List.mem_append_left _ hf, hstart⟩

/-- A group of two or more that walks after a change of its members starts to walk. -/
theorem start_of_turned {τ : State} {d' d'' : Direction} {n : String} {g' : Group} {a : Activity}
    (ht : Turned zone d' n σ τ) (hget : τ.groups.get? zone = some g')
    (hlen : 2 ≤ g'.signers.length) (hstage : g'.stage = .walking d'' a) :
    Stage.walking d'' a = .start d' := by
  cases hg : σ.groups.get? zone with
  | none =>
    rw [ht.missing hg] at hget
    cases hget
  | some g =>
    obtain ⟨g'', hget', -, hafter⟩ := ht.group g hg
    rw [hget] at hget'
    cases hget'
    rw [hstage] at hafter
    unfold stageAfter at hafter
    split at hafter
    · exact hafter
    · rename_i hnot
      rw [not_and_or, not_and_or, not_not, not_not] at hnot
      rcases hnot with hnot | hnot | hnot
      · exact absurd hlen hnot
      · rw [← hafter] at hnot
        cases hnot
      · rw [← hafter] at hnot
        cases hnot

/-- **A change of members starts a walk**, or changes nothing that is known. -/
theorem Came.turned {d' : Direction} {n : String}
    (ht : Turned zone d' n e.before.state (e.after c).state) (later : List (Deed ω)) :
    Came c zone d (later ++ [e]) (e.after c).state := by
  intro g' d'' a hget hlen hstage
  cases start_of_turned ht hget hlen hstage
  by_cases hd : d' = d
  · subst hd
    exact .inl ⟨rfl, walked_first _ d' _⟩
  · refine .inr ⟨hd, e, by simp, ⟨n, ht.before, ht.after⟩, ?_⟩
    rw [Deed.stageAfter?, hget, Option.map_some, hstage]
    rfl

/-- The deed that turns a signer starts all that is known anew. -/
theorem sinceTurn_of_turned (ht : Turned zone d name e.before.state (e.after c).state)
    (run : List (Deed ω)) : SinceTurn c zone d name (run ++ [e]) (e.after c).state := by
  refine ⟨run, e, [], rfl, ⟨ht.before, ht.after⟩, by simp, fun g' d' a hget hlen hstage => ?_⟩
  cases start_of_turned ht hget hlen hstage
  exact .inl ⟨rfl, walked_first _ d _⟩

/-- No signer is bound in two directions. -/
theorem State.Bound.unique {d' : Direction} (h : σ.Bound d name) (h' : σ.Bound d' name) :
    d' = d := by
  obtain ⟨r, hr, hleaves⟩ := h
  obtain ⟨r', hr', hleaves'⟩ := h'
  rw [hr] at hr'
  cases hr'
  rw [hleaves] at hleaves'
  revert hleaves'
  cases d <;> cases d' <;> decide

/-- **The invariant of runs**: what is known since a signer that was not bound in a direction at the
start, and is so now, was turned. -/
theorem sinceTurn_of_run (hrun : Run c (fun σ τ => τ = σ) (Deed.Fits c zone) σ₀ run σ)
    (hstart : ¬ σ₀.Bound d name) (hnow : σ.Bound d name) : SinceTurn c zone d name run σ := by
  induction hrun with
  | start => exact absurd hnow hstart
  | @deed run σ e past hbefore hfits ih =>
    subst hbefore
    -- a deed that leaves the signer alone found it bound already
    have hkeep : (e.after c).state.signers.get? name = e.before.state.signers.get? name →
        (∀ later, Came c zone d later e.before.state →
          Came c zone d (later ++ [e]) (e.after c).state) →
        SinceTurn c zone d name (run ++ [e]) (e.after c).state := fun hsame hcame =>
      have hbound := (State.bound_congr hsame d).1 hnow
      (ih hbound).snoc e (fun hturn => hturn.1 hbound) hcame
    rcases hfits with hsteps | hchanges | haway
    · exact hkeep (by rw [hsteps.signers]) fun later h => h.step hsteps
    · rcases hchanges.turned.1 with hsame | ⟨d', n, ht⟩
      · refine hkeep (by rw [hsame]) fun later h => ?_
        rw [hsame]
        exact h.stay e
      · by_cases hn : name = n
        · subst hn
          obtain rfl := State.Bound.unique hnow ht.after
          exact sinceTurn_of_turned ht run
        · exact hkeep (ht.others name hn) fun later _ => Came.turned ht later
    · have hsame := (Session.lasting_eq_iff.1 haway.lasting).1
      refine hkeep (by rw [hsame]) fun later h => ?_
      rw [hsame]
      exact h.stay e

/-! ## 3. Keys that are withdrawn -/

theorem two_le_length {α : Type} {l : List α} {a b : α} (ha : a ∈ l) (hb : b ∈ l) (hne : a ≠ b) :
    2 ≤ l.length := by
  match l with
  | [] => cases ha
  | [x] => exact absurd ((List.mem_singleton.1 ha).trans (List.mem_singleton.1 hb).symm) hne
  | _ :: _ :: _ => simp

/-- What a step sends stems from a plan of its group's stage. -/
theorem Deed.Steps.plan {x : Delivery} (he : e.Steps c zone) (hx : e.Sends c x) :
    ∃ z g d a plans m p, (z == zone) = true ∧ e.before.state.groups.get? zone = some g ∧
      g.stage = .walking d a ∧ (planning z a).perform c.outside e.before = (.ok plans, m) ∧
      p ∈ plans ∧ x.update.changes = p.changes ∧
      (e.after c).state.dnskeyOrigin = m.state.dnskeyOrigin := by
  obtain ⟨z, r, t, hz, hstep, hlasting⟩ := he.stepped
  obtain ⟨hstate, -, -, hd⟩ := Session.lasting_eq_iff.1 hlasting
  obtain ⟨ds, hds, hxds⟩ := hx
  obtain ⟨ds', hds', hsent⟩ := hstep.sent
  rw [hd, hds', List.append_cancel_left_eq] at hds
  subst hds
  obtain ⟨g, d, a, u, hg, hstage, ⟨plans, m, p, hplan, hp, hu, hum⟩, horigin⟩ := hsent x hxds
  rw [State.groups_get?_of_beq _ hz] at hg
  refine ⟨z, g, d, a, plans, m, p, hz, hg, hstage, hplan, hp, (Push.update_eq_ok hu).2.2.2, ?_⟩
  rw [hstate, horigin, hum]

/-- **What precedes the withdrawal of a key.**  In a run that starts without leaving signers, a step
sends a change that takes out a key whose origin is a leaving signer.  Then, since that signer was
last marked as leaving, the name servers were brought in line and checked at the signers and at the
parent, and the hold for them was over; or else a walk was started for a signer that joins. -/
theorem key_withdrawn (hrun : Run c (fun σ τ => τ = σ) (Deed.Fits c zone) σ₀ run e.before.state)
    (hstart : ∀ name, ¬ σ₀.Bound .leaving name) (he : e.Steps c zone) {x : Delivery}
    (hx : e.Sends c x) {k : Dnskey} (hk : RemovesKey x.update.changes k)
    (horigin : (e.after c).state.dnskeyOrigin.get? k.fingerprint = some name) :
    e.before.state.Bound .leaving name ∧
      ∃ earlier mark later, run = earlier ++ mark :: later ∧ mark.Turns c .leaving name ∧
      (∀ f ∈ later, ¬ f.Turns c .leaving name) ∧
      (e.stage? zone = some (.walking .leaving .syncDnskeys) ∧
          List.SublistForall₂ (Deed.Passes c zone .leaving)
            [.syncNs, .checkNs, .addCsync, .checkParentNs, .removeCsync, .wait] later
        ∨ e.stage? zone = some (.walking .joining .syncDnskeys) ∧
          ∃ f ∈ later, f.Starts c zone .joining) := by
  obtain ⟨z, g, d, a, plans, m, p, hz, hg, hstage, hplan, hp, hchanges, hafter⟩ := he.plan hx
  rw [hchanges] at hk
  obtain ⟨rfl, members, hmembers, ⟨hpm, hstays⟩, v, hv, hleaves, hv_origin⟩ :=
    removal_of_planning hplan hp hk
  obtain ⟨g', hg', hnames, hrecords⟩ := State.members_eq_ok.1 hmembers
  rw [State.groups_get?_of_beq _ hz, hg] at hg'
  cases hg'
  obtain rfl : v.name = name := by
    rw [hafter, hv_origin] at horigin
    exact Option.some.inj horigin
  have hleaving : e.before.state.Bound .leaving v.name := ⟨v.signer, hrecords v hv, hleaves⟩
  -- one member stays and another one is leaving
  have hlen : 2 ≤ g.signers.length := by
    rw [← hnames, List.length_map]
    refine two_le_length hpm hv fun h => ?_
    rw [h, hleaves] at hstays
    cases hstays
  obtain ⟨earlier, mark, later, hsplit, hmark, hlater, hcame⟩ :=
    sinceTurn_of_run hrun (hstart v.name) hleaving
  refine ⟨hleaving, earlier, mark, later, hsplit, hmark, hlater, ?_⟩
  have hfound : e.stage? zone = some (.walking d .syncDnskeys) := by
    rw [Deed.stage?, hg, Option.map_some, hstage]
  rcases hcame g d _ hg hlen hstage with ⟨rfl, hw⟩ | ⟨hd, hstarts⟩
  · exact .inl ⟨hfound, hw⟩
  · cases d with
    | leaving => exact absurd rfl hd
    | joining => exact .inr ⟨hfound, hstarts⟩

namespace Sample

/-- Both signers are marked as leaving, and one of them stays after all. -/
def marked : Deed Int := command ["signer-mark-leave", "a"] document
def markedToo : Deed Int := command ["signer-mark-leave", "b"] (marked.after controller).state
def unmarked : Deed Int := command ["signer-unmark-leave", "b"] (markedToo.after controller).state
def afterUnmarked : Deed Int := tick (unmarked.after controller).state 0

theorem fits_mark (name : String) (leaving : Bool) {args : List String} {s : State}
    (hp : Command.parse .once args = .ok (.signerLeave name leaving))
    (hs : ((s.signers.get? name).all fun r => r.group == Sample.zone) = true) :
    (command args s).Fits controller Sample.zone :=
  .inr (.inl (.mark rfl hp fun r hr => by rwa [show s.signers.get? name = some r from hr] at hs))

theorem fits_marked : marked.Fits controller Sample.zone :=
  fits_mark "a" true rfl (by decide +kernel)

theorem fits_markedToo : markedToo.Fits controller Sample.zone :=
  fits_mark "b" true rfl (by decide +kernel)

theorem fits_unmarked : unmarked.Fits controller Sample.zone :=
  fits_mark "b" false rfl (by decide +kernel)

theorem run_unmarked : Run controller (fun σ τ => τ = σ) (Deed.Fits controller Sample.zone) document
    ([] ++ [marked] ++ [markedToo] ++ [unmarked]) afterUnmarked.before.state :=
  .deed (.deed (.deed .start rfl fits_marked) rfl fits_markedToo) rfl fits_unmarked

theorem nobody_leaving (name : String) : ¬ document.Bound .leaving name := by
  rintro ⟨r, hr, hleaves⟩
  obtain ⟨e, he, rfl⟩ := Option.map_eq_some_iff.1 hr
  have hall : ∀ e ∈ document.signers.entries, e.2.leaving = false := by decide +kernel
  rw [hall e (List.mem_of_find?_eq_some he)] at hleaves
  cases hleaves

theorem removesKey_of_any {ds : List Delivery} {k : Dnskey} (h : (ds.any fun x =>
    x.update.changes.removes.any fun r => r.data.same (.dnskey k)) = true) :
    ∃ x ∈ ds, RemovesKey x.update.changes k := by
  obtain ⟨x, hx, h⟩ := List.any_eq_true.1 h
  obtain ⟨r, hr, h⟩ := List.any_eq_true.1 h
  refine ⟨x, hx, .inl ⟨r, hr, ?_⟩⟩
  cases hd : r.data <;> rw [hd] at h <;> simp_all [RecordData.same]

end Sample

/-- **A key is withdrawn without a hold.**  Signer `a` is leaving; `b` was, and is taken back.  The
next step takes the key of `a` out at `b`, and no deed of the run was done in the stage of the
hold. -/
theorem key_withdrawn_for_newcomer :
    (∀ f ∈ [Sample.marked, Sample.markedToo, Sample.unmarked],
      f.stage? Sample.zone ≠ some (.walking .leaving .wait)) ∧
    ∃ x, Sample.afterUnmarked.Sends Sample.controller x ∧ RemovesKey x.update.changes Sample.key ∧
      Sample.afterUnmarked.before.state.Bound .leaving "a" ∧
      ∃ earlier mark later, [Sample.marked, Sample.markedToo, Sample.unmarked]
          = earlier ++ mark :: later ∧ mark.Turns Sample.controller .leaving "a" ∧
        (∀ f ∈ later, ¬ f.Turns Sample.controller .leaving "a") ∧
        (Sample.afterUnmarked.stage? Sample.zone = some (.walking .leaving .syncDnskeys) ∧
            List.SublistForall₂ (Deed.Passes Sample.controller Sample.zone .leaving)
              [.syncNs, .checkNs, .addCsync, .checkParentNs, .removeCsync, .wait] later
          ∨ Sample.afterUnmarked.stage? Sample.zone = some (.walking .joining .syncDnskeys) ∧
            ∃ f ∈ later, f.Starts Sample.controller Sample.zone .joining) := by
  refine ⟨by decide +kernel, ?_⟩
  obtain ⟨x, hx, hk⟩ := Sample.removesKey_of_any
    (show ((Sample.afterUnmarked.after Sample.controller).deliveries.any fun x =>
      x.update.changes.removes.any fun r => r.data.same (.dnskey Sample.key)) = true
      by decide +kernel)
  exact ⟨x, Sample.sends_tick hx, hk, key_withdrawn Sample.run_unmarked Sample.nobody_leaving
    (Sample.steps_tick _ _) (Sample.sends_tick hx) hk (by decide +kernel)⟩

/-! ## 4. Names that are announced -/

/-- What is known of a group that was idle at the start: it has two members if it walks, and every
signer that is new since then. -/
def Grown (zone : DomainName) (σ₀ σ : State) : Prop :=
  ∃ g, σ.groups.get? zone = some g ∧ (g.stage.isWalking = true → 2 ≤ g.signers.length) ∧
    ∀ n, σ₀.signers.get? n = none → (σ.signers.get? n).isSome → n ∈ g.signers

theorem Grown.step (h : Grown zone σ₀ e.before.state) (he : e.Steps c zone) :
    Grown zone σ₀ (e.after c).state := by
  obtain ⟨g, hg, hwalk, hnew⟩ := h
  obtain ⟨-, z, g', -, hget, hled, halike⟩ := he.group hg
  refine ⟨g', hget, fun hw => ?_, ?_⟩
  · rw [halike.signers]
    refine hwalk ?_
    cases hstage : g'.stage with
    | walking d a =>
      rw [hstage] at hled
      obtain ⟨b, hb⟩ := exists_walking_of_led hled
      rw [hb]
      rfl
    | ready | manual | error =>
      rw [hstage] at hw
      cases hw
  · rw [halike.signers, he.signers]
    exact hnew

theorem Grown.turned {τ : State} {n : String} (h : Grown zone σ₀ σ)
    (ht : Turned zone d n σ τ) : Grown zone σ₀ τ := by
  obtain ⟨g, hg, hwalk, hnew⟩ := h
  obtain ⟨g', hget, hmembers, hafter⟩ := ht.group g hg
  have hsub : g.signers ⊆ g'.signers := by
    rcases hmembers with ⟨h, -⟩ | ⟨h, -⟩
    · rw [h]
      exact List.Subset.refl _
    · rw [h]
      exact List.subset_append_left _ _
  refine ⟨g', hget, fun hw => ?_, fun m hm hsome => ?_⟩
  · unfold stageAfter at hafter
    split at hafter
    · rename_i hmany
      exact hmany.1
    · rw [hafter] at hw
      have hlen := hwalk hw
      rcases hmembers with ⟨h, -⟩ | ⟨h, -⟩
      · rw [h]
        exact hlen
      · rw [h, List.length_append]
        exact Nat.le_trans hlen (Nat.le_add_right _ _)
  · by_cases hmn : m = n
    · subst hmn
      rcases hmembers with ⟨-, hthere⟩ | ⟨h, -⟩
      · exact hsub (hnew m hm hthere)
      · rw [h]
        exact List.mem_append_right _ (List.mem_singleton_self m)
    · rw [ht.others m hmn] at hsome
      exact hsub (hnew m hm hsome)

theorem grown_of_run (hrun : Run c (fun σ τ => τ = σ) (Deed.Fits c zone) σ₀ run σ)
    {g₀ : Group} (hg₀ : σ₀.groups.get? zone = some g₀) (hready : g₀.stage = .ready) :
    Grown zone σ₀ σ := by
  induction hrun with
  | start =>
    refine ⟨g₀, hg₀, fun hw => ?_, fun n hnone hsome => ?_⟩
    · rw [hready] at hw
      cases hw
    · rw [hnone] at hsome
      cases hsome
  | deed past hbefore hfits ih =>
    subst hbefore
    rcases hfits with hsteps | hchanges | haway
    · exact ih.step hsteps
    · rcases hchanges.turned.1 with hsame | ⟨d', n, ht⟩
      · rw [hsame]
        exact ih
      · exact ih.turned ht
    · rw [(Session.lasting_eq_iff.1 haway.lasting).1]
      exact ih

/-- **What precedes the announcement of a name.**  In a run that starts with an idle group, a step
sends a change that puts in the name of a signer that was added in the run.  Then, since that signer
was added or last taken back from leaving, the keys were brought in line and checked at the signers
and at the parent, and the hold for them was over; or else a walk was started for a signer that
leaves. -/
theorem name_announced (hrun : Run c (fun σ τ => τ = σ) (Deed.Fits c zone) σ₀ run e.before.state)
    {g₀ : Group} (hg₀ : σ₀.groups.get? zone = some g₀) (hready : g₀.stage = .ready)
    (he : e.Steps c zone) {x : Delivery} (hx : e.Sends c x) {n : DomainName}
    (hn : InsertsName x.update.changes n) {r : Signer} (hnew : σ₀.signers.get? name = none)
    (hr : e.before.state.signers.get? name = some r) (hname : (r.nameserver == n) = true) :
    ∃ earlier turn later, run = earlier ++ turn :: later ∧ turn.Turns c .joining name ∧
      (∀ f ∈ later, ¬ f.Turns c .joining name) ∧
      (e.stage? zone = some (.walking .joining .syncNs) ∧
          List.SublistForall₂ (Deed.Passes c zone .joining)
            [.syncDnskeys, .checkDnskeys, .syncCds, .checkCds, .checkParentDs, .removeCds, .wait]
            later
        ∨ e.stage? zone = some (.walking .leaving .syncNs) ∧
          ∃ f ∈ later, f.Starts c zone .leaving) := by
  obtain ⟨z, g, d, a, plans, m, p, hz, hg, hstage, hplan, hp, hchanges, -⟩ := he.plan hx
  rw [hchanges] at hn
  obtain ⟨rfl, members, hmembers, hstays⟩ := insertion_of_planning hplan hp hn
  obtain ⟨g', hg', hwalk, hmember⟩ := grown_of_run hrun hg₀ hready
  rw [hg] at hg'
  cases hg'
  -- the signer is a member, and its name would not be put in if it were leaving
  have hjoined : e.before.state.Bound .joining name := by
    obtain ⟨g', hg', hnames, hrecords⟩ := State.members_eq_ok.1 hmembers
    rw [State.groups_get?_of_beq _ hz, hg] at hg'
    cases hg'
    have hin := hmember name hnew (by rw [hr]; rfl)
    rw [← hnames] at hin
    obtain ⟨v, hv, rfl⟩ := List.mem_map.1 hin
    have hrecord := hrecords v hv
    rw [hr] at hrecord
    cases hrecord
    exact ⟨_, hr, hstays v hv hname⟩
  have hfresh : ¬ σ₀.Bound .joining name := by
    rintro ⟨r', hr', -⟩
    rw [hnew] at hr'
    cases hr'
  obtain ⟨earlier, turn, later, hsplit, hturn, hlater, hcame⟩ :=
    sinceTurn_of_run hrun hfresh hjoined
  refine ⟨earlier, turn, later, hsplit, hturn, hlater, ?_⟩
  have hfound : e.stage? zone = some (.walking d .syncNs) := by
    rw [Deed.stage?, hg, Option.map_some, hstage]
  rcases hcame g d _ hg (hwalk (by rw [hstage]; rfl)) hstage with ⟨rfl, hw⟩ | ⟨hd, hstarts⟩
  · exact .inl ⟨hfound, hw⟩
  · cases d with
    | joining => exact absurd rfl hd
    | leaving => exact .inr ⟨hfound, hstarts⟩

namespace Sample

/-- A third signer is added, and then another one is marked as leaving. -/
def added : Deed Int := command ["signer-add", "x.", "c", "c.", "192.0.2.3"] document
def markedNext : Deed Int := command ["signer-mark-leave", "a"] (added.after controller).state
def afterMarked : Deed Int := tick (markedNext.after controller).state 0

theorem fits_added : added.Fits controller Sample.zone :=
  .inr (.inl (@Deed.ChangesMembers.add _ _ _ _ _ Sample.zone "c" (name 99) "192.0.2.3:53" rfl
    (by decide +kernel) rfl))

theorem fits_markedNext : markedNext.Fits controller Sample.zone :=
  fits_mark "a" true rfl (by decide +kernel)

theorem run_markedNext : Run controller (fun σ τ => τ = σ) (Deed.Fits controller Sample.zone)
    document ([] ++ [added] ++ [markedNext]) afterMarked.before.state :=
  .deed (.deed .start rfl fits_added) rfl fits_markedNext

theorem insertsName_of_any {ds : List Delivery} {n : DomainName} (h : (ds.any fun x =>
    x.update.changes.inserts.any fun r => match r.data with
      | .ns m => decide (m = n)
      | _ => false) = true) :
    ∃ x ∈ ds, InsertsName x.update.changes n := by
  obtain ⟨x, hx, h⟩ := List.any_eq_true.1 h
  obtain ⟨r, hr, h⟩ := List.any_eq_true.1 h
  refine ⟨x, hx, r, hr, ?_⟩
  split at h
  · rename_i m hm
    rw [hm, of_decide_eq_true h]
  · cases h

end Sample

/-- **A name is announced without a hold.**  Signer `c` is added, and then `a` is marked as leaving.
The next step puts the name of `c` in, and no deed of the run was done in the stage of the hold. -/
theorem name_announced_for_leaver :
    (∀ f ∈ [Sample.added, Sample.markedNext],
      f.stage? Sample.zone ≠ some (.walking .joining .wait)) ∧
    ∃ x, Sample.afterMarked.Sends Sample.controller x ∧
      InsertsName x.update.changes (Sample.name 99) ∧
      ∃ earlier turn later, [Sample.added, Sample.markedNext] = earlier ++ turn :: later ∧
        turn.Turns Sample.controller .joining "c" ∧
        (∀ f ∈ later, ¬ f.Turns Sample.controller .joining "c") ∧
        (Sample.afterMarked.stage? Sample.zone = some (.walking .joining .syncNs) ∧
            List.SublistForall₂ (Deed.Passes Sample.controller Sample.zone .joining)
              [.syncDnskeys, .checkDnskeys, .syncCds, .checkCds, .checkParentDs, .removeCds, .wait]
              later
          ∨ Sample.afterMarked.stage? Sample.zone = some (.walking .leaving .syncNs) ∧
            ∃ f ∈ later, f.Starts Sample.controller Sample.zone .leaving) := by
  refine ⟨by decide +kernel, ?_⟩
  obtain ⟨x, hx, hn⟩ := Sample.insertsName_of_any
    (show ((Sample.afterMarked.after Sample.controller).deliveries.any fun x =>
      x.update.changes.inserts.any fun r => match r.data with
        | .ns m => decide (m = Sample.name 99)
        | _ => false) = true by decide +kernel)
  have hr : Sample.afterMarked.before.state.signers.get? "c"
      = some { group := Sample.zone, address := "192.0.2.3:53", nameserver := Sample.name 99 } := by
    decide +kernel
  exact ⟨x, Sample.sends_tick hx, hn, name_announced Sample.run_markedNext
    (show Sample.document.groups.get? Sample.zone = some Sample.group by decide +kernel) rfl
    (Sample.steps_tick _ _) (Sample.sends_tick hx) hn (by decide +kernel) hr rfl⟩

end MultiSigner
