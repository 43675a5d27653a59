/-
# Journeys

A journey is a group's walk on a faithful network: steps of the automation, each of which finds the
document and the servers of the members as the one before it left them.  The parent takes over what
the signers ask for by the time it is checked, and the clock shows dates; apart from that both are
free.

`standing_of_journey` is the invariant of journeys, by induction on their steps: `Standing.step` is
what one step preserves.
-/
import Mathlib.Tactic.IntervalCases
import MultiSigner.Proofs.Progress

namespace MultiSigner

open Operation Automation

namespace Deployment

variable {ω : Type} {n : Deployment ω} {start s t : Session ω} {d : Direction}
  {run : List (Session ω)}

/-! ## 1. Journeys -/

/-- A group at the start of a walk, on a network on which it can be worked on. -/
structure Departs (n : Deployment ω) (d : Direction) (start : Session ω) : Prop where
  group : ∃ g, start.state.groups.get? n.zone = some g ∧ g.stage = .start d ∧
    g.waitDs = none ∧ g.waitNs = none
  found : n.Found start
  started : n.Started start
  workable : n.Workable start

/-- What may happen between two steps: neither the document nor what members serve changes. -/
structure Meanwhile (n : Deployment ω) (s t : Session ω) : Prop where
  state : t.state = s.state
  members : ∀ m ∈ n.members,
    n.holds t.world m.signer.address = n.holds s.world m.signer.address
  parent : ∃ rs, n.holds t.world n.parent = some rs

/-- The sessions that the steps of a walk found, the earliest one first, and the session after the
last one. -/
inductive Journey (n : Deployment ω) (d : Direction) (start : Session ω) :
    List (Session ω) → Session ω → Prop
  | start : Journey n d start [] start
  | step {run : List (Session ω)} {s t : Session ω} (past : Journey n d start run s)
      (meanwhile : n.Meanwhile s t)
      (heeds : ∀ d' a, n.stage? t = some (.walking d' a) → n.Heeds t a) :
      Journey n d start (run ++ [t]) (n.left t)

/-- How many of the steps were not held. -/
def advances (n : Deployment ω) (d : Direction) (run : List (Session ω)) : Nat :=
  run.countP fun s => !n.held d s

theorem advances_snoc (run : List (Session ω)) (s : Session ω) :
    n.advances d (run ++ [s])
      = if n.held d s then n.advances d run else n.advances d run + 1 := by
  rw [advances, List.countP_append, List.countP_singleton, advances]
  cases n.held d s <;> rfl

/-- Where the group stands after so many steps that were not held: at the activity of this number,
or at the end if all of them are behind. -/
def stageAt (d : Direction) (count : Nat) : Stage :=
  d.activities[count]?.elim .ready (Stage.walking d)

theorem length_activities (d : Direction) : d.activities.length = 12 := by
  cases d <;> rfl

theorem stageAt_of_le {count : Nat} (h : 12 ≤ count) : stageAt d count = .ready := by
  rw [stageAt, List.getElem?_eq_none (by rwa [length_activities])]
  rfl

theorem stageAt_zero (d : Direction) : stageAt d 0 = .start d := by
  cases d <;> rfl

/-- The activities of a walk follow each other. -/
theorem stageAt_succ (d : Direction) (count : Nat) :
    stageAt d (count + 1) = (stageAt d count).next := by
  by_cases h : count < 12
  · interval_cases count <;> cases d <;> rfl
  · rw [stageAt_of_le (Nat.le_succ_of_le (Nat.not_lt.1 h)), stageAt_of_le (Nat.not_lt.1 h)]
    rfl

/-! ## 2. The steps of a journey -/

theorem Departs.standing (h : n.Departs d start) : n.Standing start d (.start d) start := by
  obtain ⟨g, hg, hstage, hds, hns⟩ := h.group
  have hidle : n.deadline? (holdOf d) start = none := by
    rw [deadline?, hg, Option.bind_some]
    cases d
    · exact hds
    · exact hns
  refine .walking ⟨by rw [stage?, hg, Option.map_some, hstage]; rfl, ?_, fun _ => hidle,
    fun deadline hd => ?_⟩
  · rw [d.before_first]
    exact underway_nil h.found h.started
  · rw [hidle] at hd
    cases hd

theorem Meanwhile.underway {done : List Activity} (h : n.Meanwhile s t)
    (hs : n.Underway start done s) : n.Underway start done t := by
  refine hs.congr ⟨?_, fun m hm => ?_, h.parent⟩ (by rw [h.state]) fun m hm => ?_
  · rw [h.state]
    exact hs.found.documented
  · rw [h.members m hm]
    exact hs.found.serving.members m hm
  · rw [records, h.members m hm, records]

theorem Meanwhile.standing {stage : Stage} (h : n.Meanwhile s t)
    (hs : n.Standing start d stage s) : n.Standing start d stage t := by
  have hstage : n.stage? t = n.stage? s := by rw [stage?, h.state, stage?]
  have hdeadline : n.deadline? (holdOf d) t = n.deadline? (holdOf d) s := by
    rw [deadline?, h.state, deadline?]
  cases hs with
  | walking here =>
    refine .walking ⟨hstage.trans here.stage, h.underway here.underway, ?_, ?_⟩
    · rw [hdeadline]
      exact here.idle
    · rw [hdeadline]
      exact here.written
  | arrived hready hunderway hidle =>
    exact .arrived (hstage.trans hready) (h.underway hunderway) (hdeadline.trans hidle)

theorem Standing.stage?_eq {stage : Stage} (h : n.Standing start d stage s) :
    n.stage? s = some stage := by
  cases h with
  | walking here => exact here.stage
  | arrived hready _ _ => exact hready

theorem Standing.found {stage : Stage} (h : n.Standing start d stage s) : n.Found s := by
  cases h with
  | walking here => exact here.underway.found
  | arrived _ hunderway _ => exact hunderway.found

/-- **The invariant of journeys**: every step so far found the group where its walk leads to, and
succeeded. -/
theorem standing_of_journey (hn : n.Faithful) (ha : n.Addressed) (hs : n.Departs d start)
    (hj : n.Journey d start run t)
    (hdel : (∃ s ∈ run, n.stage? s = some (.walking d .syncCds)) → n.Delegable start) :
    (∀ past s later, run = past ++ s :: later →
      n.Steps start d (stageAt d (n.advances d past)) s) ∧
        n.Standing start d (stageAt d (n.advances d run)) t := by
  induction hj with
  | start =>
    refine ⟨fun past s later hsplit => ?_, ?_⟩
    · cases past <;> cases hsplit
    · rw [advances, List.countP_nil, stageAt_zero]
      exact hs.standing
  | @step run s t _ hmeanwhile hheeds ih =>
    obtain ⟨hsteps, hstanding⟩ := ih fun ⟨x, hx, hsync⟩ =>
      hdel ⟨x, List.mem_append_left _ hx, hsync⟩
    have hfound := hmeanwhile.standing hstanding
    have hstage := hfound.stage?_eq
    have hsync : stageAt d (n.advances d run) = .walking d .syncCds → n.Delegable start :=
      fun h => hdel ⟨t, List.mem_append_right _ List.mem_cons_self, hstage.trans (congrArg some h)⟩
    have hstep := hfound.step hn ha hs.workable hsync fun d' a h =>
      hheeds d' a (hstage.trans (congrArg some h))
    refine ⟨forall_split_snoc hsteps hstep, ?_⟩
    have hnext := hstep.standing
    rw [advances_snoc]
    cases hheld : n.held d t with
    | true => rwa [hheld, if_pos rfl] at hnext
    | false =>
      rw [hheld, if_neg Bool.false_ne_true] at hnext
      rwa [if_neg Bool.false_ne_true, stageAt_succ]

end Deployment
end MultiSigner
