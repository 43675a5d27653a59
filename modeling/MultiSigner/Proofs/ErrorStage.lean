/-
# The error stage and its message

A group that a failure moved to the error stage has the failure's message, and a group in any other
stage has none.  The converse has one exception, and it is an operator's: a group in manual mode may
be resumed at any stage that has a name, and the error stage has one.  It is in the error stage then
and has no message, until it leaves that stage.

`ResumedToError` says of a document that it came about so, and `error_explained` that there is no
other way to a group in the error stage without a message.  It is an invariant of the documents that
can be reached (`explained_of_reachable`), read off `Deed.Moves` case by case.
-/
import MultiSigner.Proofs.Integrity.Reachable
import MultiSigner.Proofs.Transitions

namespace MultiSigner

open Operation Automation

variable {ω : Type} {c : Controller ω} {zone z : DomainName} {e : Deed ω} {o : Outside ω}
  {s t : Session ω} {σ : State} {g g' : Group}

/-! ## 1. Groups that are new -/

namespace Deed

theorem Bids.changesMembers {d : Direction} {name : String} (h : e.Bids c zone d name) :
    e.ChangesMembers c zone := by
  cases h with
  | add ha hp hz => exact .add ha hp hz
  | mark ha hp hfound hz =>
    refine .mark ha hp fun signer hsigner => ?_
    rw [hfound] at hsigner
    cases hsigner
    exact hz

/-- A step and a change of members make no group. -/
theorem Restrained.missing (h : e.Restrained c) (hg : e.before.state.groups.get? zone = none) :
    (e.after c).state.groups.get? zone = none := by
  rcases (h.cases : e.Steps c zone ∨ _) with hsteps | ⟨d, name, hbids⟩ | hkeeps
  · obtain ⟨z, r, t, hz, hstep, hlasting⟩ := hsteps.stepped
    rw [(Session.lasting_eq_iff.1 hlasting).1,
      hstep.state_of_missing ((State.groups_get?_of_beq _ hz).trans hg)]
    exact hg
  · rcases hbids.changesMembers.turned.1 with hstate | ⟨d, name, hturned⟩
    · rw [hstate]
      exact hg
    · exact hturned.missing hg
  · rw [Keeps, Session.plight, Session.plight, hg] at hkeeps
    exact Option.map_eq_none_iff.1 hkeeps

theorem Amends.missing {p : Group → Bool} {f : Group → Group} (h : e.Amends c z p f)
    (hg : e.before.state.groups.get? zone = none) :
    (e.after c).state.groups.get? zone = none := by
  rw [h.state]
  cases hz : z == zone with
  | false => rw [State.get?_amendGroup_elsewhere hz, hg]
  | true =>
    unfold State.amendGroup
    rw [State.groups_get?_of_beq _ hz, hg]
    exact hg

/-- A group that is added is ready, without a message. -/
theorem fresh_of_addGroup {parent : String} {r : Except Error Unit}
    (hg : s.state.groups.get? zone = none)
    (h : (Command.addGroup z parent).perform o s = (r, t))
    (hg' : t.state.groups.get? zone = some g') : g'.plight = (.ready, none) := by
  simp only [Command.addGroup, perform_bind, perform_state, perform_lift] at h
  cases hadd : s.state.addGroup z { parent := parent } with
  | error failure =>
    rw [hadd] at h
    cases h
    rw [hg] at hg'
    cases hg'
  | ok τ =>
    simp only [hadd, perform_modifyState, perform_line, perform_publishStatus] at h
    cases h
    simp only at hg'
    unfold State.addGroup at hadd
    split at hadd
    · cases hadd
    · cases hadd
      rw [OrderedMap.get?_insert] at hg'
      split at hg'
      · cases hg'
        rfl
      · rw [hg] at hg'
        cases hg'

/-- **A group that a deed makes** is ready, without a message. -/
theorem fresh_of_deed (hg : e.before.state.groups.get? zone = none)
    (hg' : (e.after c).state.groups.get? zone = some g') : g'.plight = (.ready, none) := by
  have hnone (h : (e.after c).state.groups.get? zone = none) : g'.plight = (.ready, none) := by
    rw [h] at hg'
    cases hg'
  cases ha : e.action with
  | tick z => exact hnone ((Restrained.tick ha).missing hg)
  | command args =>
    cases hp : Command.parse c.mode args with
    | error failure =>
      refine hnone ?_
      rw [(Session.lasting_eq_iff.1 (TurnedAway.unread ha hp).lasting).1, hg]
    | ok cmd =>
      cases hcalm : cmd.calm with
      | true =>
        have hkeeps : e.Keeps c zone := keeps_of_calm ha hp (Command.calm_command hcalm)
        rw [Keeps, Session.plight, Session.plight, hg] at hkeeps
        exact hnone (Option.map_eq_none_iff.1 hkeeps)
      | false =>
        cases cmd with
        | automateStep z name => exact hnone ((Restrained.step ha hp).missing hg)
        | signerAdd z name nameserver address => exact hnone ((Restrained.add ha hp).missing hg)
        | signerLeave name leaving => exact hnone ((Restrained.mark ha hp).missing hg)
        | automateClearError z stage => exact hnone ((Amends.clear ha hp).missing hg)
        | automateManual z => exact hnone ((Amends.manual ha hp).missing hg)
        | automateResume z stage => exact hnone ((Amends.resume ha hp).missing hg)
        | groupAdd z parent =>
          rcases hrun : (Command.addGroup z parent).perform c.outside e.before with ⟨r, t⟩
          rw [state_of_parsed ha hp hrun] at hg'
          exact fresh_of_addGroup hg hrun hg'
        | groupRemove z =>
          rcases hrun : (Command.removeGroup z).perform c.outside e.before with ⟨r, t⟩
          rw [state_of_parsed ha hp hrun] at hg'
          rw [get?_of_removeGroup hg' hrun] at hg
          cases hg
        | _ => cases hcalm

end Deed

/-! ## 2. Messages -/

/-- The document was left by a deed that resumed the zone's group at the error stage, and later
deeds left the group there. -/
inductive ResumedToError (zone : DomainName) : State → Prop
  | resumed {ω : Type} (c : Controller ω) {e : Deed ω} (past : Reachable e.before.state)
      (found : e.stage? zone = some .manual) (orders : e.Orders c zone .manual .error) :
      ResumedToError zone (e.after c).state
  | later {ω : Type} (c : Controller ω) {e : Deed ω} (past : ResumedToError zone e.before.state)
      (stays : e.stageAfter? c zone = some .error) : ResumedToError zone (e.after c).state

theorem onward_ne_error {stage next : Stage} (hwalks : stage.isWalking = true)
    (h : next = stage.next ∨ next = stage.retry) : next ≠ .error := by
  rcases stage with _ | _ | _ | ⟨d, a⟩
  · cases hwalks
  · cases hwalks
  · cases hwalks
  · rcases h with rfl | rfl
    · cases d <;> cases a <;> decide
    · cases d <;> cases a <;> decide

/-- A group that is not in the error stage has no message, and one that is there without a message
was resumed there. -/
def Explained (zone : DomainName) (σ : State) (g : Group) : Prop :=
  (g.error.isSome = true → g.stage = .error) ∧
    (g.stage = .error → g.error = none → ResumedToError zone σ)

theorem explained_of_plight {stage : Stage} (h : g.plight = (stage, none))
    (hstage : stage ≠ .error) : Explained zone σ g := by
  have hstage' : g.stage = stage := congrArg Prod.fst h
  have htext : g.error = none := congrArg Prod.snd h
  refine ⟨fun hsome => ?_, fun herror => ?_⟩
  · rw [htext] at hsome
    cases hsome
  · exact absurd (hstage'.symm.trans herror) hstage

/-- A group that was not in the error stage had no message. -/
theorem Explained.silent (h : Explained zone σ g) (hstage : g.stage ≠ .error) : g.error = none := by
  cases htext : g.error with
  | none => rfl
  | some text => exact absurd (h.1 (by rw [htext]; rfl)) hstage

/-- What leaves stage or message to be seen from those before. -/
theorem explained_of_silent (hstage : g'.stage ≠ .error) (htext : g'.error = none) :
    Explained zone σ g' :=
  explained_of_plight (Prod.ext rfl htext) hstage

theorem Explained.orders (h : Explained zone e.before.state g) (hpast : Reachable e.before.state)
    (hg : e.before.state.groups.get? zone = some g)
    (horders : e.Orders c zone g.stage g'.stage)
    (htext : g'.error = if g.stage = .manual then g.error else none) :
    Explained zone (e.after c).state g' := by
  have hsilent : g'.error = none := by
    rw [htext]
    split
    · rename_i hmanual
      refine h.silent ?_
      rw [hmanual]
      decide
    · rfl
  by_cases hstage : g'.stage = .error
  · refine ⟨fun _ => hstage, fun _ _ => ?_⟩
    -- of the three orders only one leads to the error stage
    rw [hstage] at horders
    generalize hold : g.stage = old at horders
    cases horders with
    | clear _ _ _ htarget => rcases htarget with h | h <;> cases h
    | resume ha hp hz =>
      refine .resumed c hpast ?_ (.resume ha hp hz)
      rw [Deed.stage?, hg, Option.map_some, hold]
  · exact explained_of_silent hstage hsilent

/-- **The invariant of messages.** -/
theorem explained_of_reachable (h : Reachable σ) (hg : σ.groups.get? zone = some g) :
    Explained zone σ g := by
  induction h generalizing g with
  | empty => cases hg
  | @deed ω c e past ih =>
    cases hbefore : e.before.state.groups.get? zone with
    | none => exact explained_of_plight (Deed.fresh_of_deed hbefore hg) (by decide)
    | some g₀ =>
      have hknown : Explained zone e.before.state g₀ := ih hbefore
      cases Deed.moves_of_deed hbefore hg with
      | stays hplight =>
        have hstage : g.stage = g₀.stage := congrArg Prod.fst hplight
        have htext : g.error = g₀.error := congrArg Prod.snd hplight
        refine ⟨fun hsome => ?_, fun herror hnone => ?_⟩
        · rw [htext] at hsome
          exact hstage.trans (hknown.1 hsome)
        · refine .later c (hknown.2 (hstage.symm.trans herror) (htext.symm.trans hnone)) ?_
          rw [Deed.stageAfter?, hg, Option.map_some, herror]
      | goesOn _ hwalks hstage htext =>
        refine explained_of_silent (onward_ne_error hwalks hstage) (htext.trans (hknown.silent ?_))
        intro herror
        rw [herror] at hwalks
        cases hwalks
      | fails _ _ hstage htext =>
        refine ⟨fun _ => hstage, fun _ hnone => ?_⟩
        rw [htext] at hnone
        cases hnone
      | starts _ _ hfree _ hstage _ _ htext =>
        refine explained_of_silent ?_ (htext.trans (hknown.silent hfree.2))
        rw [hstage]
        intro herror
        cases herror
      | ordered horders htext => exact hknown.orders past hbefore horders htext

/-- Nothing gives a message to a group in manual mode or in the error stage. -/
theorem Deed.Moves.silent (h : e.Moves c zone g g') (hstage : g.stage = .manual ∨ g.stage = .error)
    (htext : g.error = none) : g'.error = none := by
  have hrests : g.stage.isWalking = false := by rcases hstage with h | h <;> rw [h] <;> rfl
  cases h with
  | stays hplight => exact (congrArg Prod.snd hplight).trans htext
  | goesOn _ hwalks _ _ | fails _ hwalks _ _ =>
    rw [hrests] at hwalks
    cases hwalks
  | starts _ _ hfree _ _ _ _ _ => exact (hstage.elim hfree.1 hfree.2).elim
  | ordered _ hordered =>
    rw [hordered]
    split
    · exact htext
    · rfl

/-- A group that was resumed at the error stage is there without a message. -/
theorem ResumedToError.plight (h : ResumedToError zone σ) (hg : σ.groups.get? zone = some g) :
    g.plight = (.error, none) := by
  induction h generalizing g with
  | @resumed ω c e past hfound horders =>
    obtain ⟨g₀, hbefore, hmanual⟩ := Option.map_eq_some_iff.1 hfound
    obtain ⟨g', hg', hstage⟩ := horders.taken hbefore hmanual
    rw [hg] at hg'
    cases hg'
    have hsilent : g₀.error = none := by
      refine (explained_of_reachable past hbefore).silent ?_
      rw [hmanual]
      decide
    exact Prod.ext hstage ((Deed.moves_of_deed hbefore hg).silent (.inl hmanual) hsilent)
  | @later ω c e past hstays ih =>
    rw [Deed.stageAfter?, hg, Option.map_some, Option.some.injEq] at hstays
    cases hbefore : e.before.state.groups.get? zone with
    | none =>
      have hready : g.stage = .ready := congrArg Prod.fst (Deed.fresh_of_deed hbefore hg)
      rw [hready] at hstays
      cases hstays
    | some g₀ =>
      have hplight : g₀.plight = (.error, none) := ih hbefore
      have herror : g₀.stage = .error := congrArg Prod.fst hplight
      exact Prod.ext hstays
        ((Deed.moves_of_deed hbefore hg).silent (.inr herror) (congrArg Prod.snd hplight))

/-- **Who explains the error stage.**  In a document to which commands and steps lead from the empty
one, on any network, a group that has a message is in the error stage; and a group in the error
stage lacks one just if it was resumed there from manual mode. -/
theorem error_explained (h : Reachable σ) (hg : σ.groups.get? zone = some g) :
    (g.error.isSome = true → g.stage = .error) ∧
      (g.stage = .error ∧ g.error = none ↔ ResumedToError zone σ) := by
  have hknown : Explained zone σ g := explained_of_reachable h hg
  refine ⟨hknown.1, fun ⟨hstage, htext⟩ => hknown.2 hstage htext, fun hresumed => ?_⟩
  have hplight : g.plight = (.error, none) := hresumed.plight hg
  exact ⟨congrArg Prod.fst hplight, congrArg Prod.snd hplight⟩

namespace Sample

/-- The group is put into manual mode and resumed at the error stage. -/
def manual : Deed Int := command ["automate-manual", "x."] (founding.after controller).state
def misled : Deed Int := command ["automate-resume", "x.", "error"] (manual.after controller).state

end Sample

/-- **A group that refuses to step without an explanation.** -/
theorem error_unexplained : ∃ g, (Sample.misled.after Sample.controller).state.groups.get?
      Sample.zone = some g ∧ g.stage = .error ∧ g.error = none ∧
      ResumedToError Sample.zone (Sample.misled.after Sample.controller).state := by
  have hreachable : Reachable (Sample.misled.after Sample.controller).state :=
    .deed Sample.controller (e := Sample.misled) (.deed Sample.controller (e := Sample.manual)
      (.deed Sample.controller (e := Sample.founding) .empty))
  obtain ⟨g, hg, hplight⟩ := Option.map_eq_some_iff.1
    (show ((Sample.misled.after Sample.controller).state.groups.get? Sample.zone).map Group.plight
      = some (.error, none) by decide +kernel)
  have hstage : g.stage = .error := congrArg Prod.fst hplight
  have htext : g.error = none := congrArg Prod.snd hplight
  exact ⟨g, hg, hstage, htext, (error_explained hreachable hg).2.1 ⟨hstage, htext⟩⟩

end MultiSigner
