/-
# What is seen of a move

A move changes what can be seen of at most one group, and observers are told how that group is then;
or it removes a group, of which they are told nothing.  `seen_of_take` says so of every move, whether
it succeeds or fails, and which names of zones can be written in the document after it.

`there_of_take`: a group with a task that goes on is not removed.
-/
import MultiSigner.Proofs.Daemon.History

namespace MultiSigner

open Operation Automation
open State (Intact)

variable {ω : Type} {o : Outside ω} {c : Controller ω} {s t u : Session ω} {zone z : DomainName}
  {named : DomainName → Prop}

/-! ## 1. What is shown -/

/-- What becomes of what can be seen, and what observers are told of it. -/
inductive Shows (named : DomainName → Prop) (s t : Session ω) : Prop
  | nothing {logs : List Event} (sights : ∀ z, t.state.sight z = s.state.sight z)
      (plain : ∀ e ∈ logs, e.Plain) (events : t.events = s.events ++ logs)
  /-- One group is different.  Whatever else observers are told, its status is part of it. -/
  | changed {zone : DomainName} {news logs : List Event} (named : named zone)
      (elsewhere : ∀ z, (z == zone) = false → t.state.sight z = s.state.sight z)
      (there : (t.state.sight zone).isSome = true)
      (fresh : ∀ e ∈ news, e.Plain) (plain : ∀ e ∈ logs, e.Plain)
      (events : t.events = s.events ++ (news ++ (Event.status? t.state zone).toList ++ logs))
  | removed {zone : DomainName} {logs : List Event} (idle : s.scheduler.isRunning zone = false)
      (elsewhere : ∀ z, (z == zone) = false → t.state.sight z = s.state.sight z)
      (gone : ∀ z, (z == zone) = true → t.state.sight z = none)
      (plain : ∀ e ∈ logs, e.Plain) (events : t.events = s.events ++ logs)

/-- What is seen, and which names of zones are written in the document then. -/
structure Seen (named : DomainName → Prop) (s t : Session ω) : Prop where
  shows : Shows named s t
  spells : ∀ n, t.state.Spells n → s.state.Spells n ∨ named n

namespace Seen

/-- Nothing is seen. -/
theorem of_sights (hsights : ∀ z, t.state.sight z = s.state.sight z)
    (hspells : ∀ n, t.state.Spells n → s.state.Spells n ∨ named n) (hevents : t.events = s.events) :
    Seen named s t :=
  ⟨.nothing hsights (List.forall_mem_nil _) (by rw [hevents, List.append_nil]), hspells⟩

theorem of_same (hstate : t.state = s.state) (hevents : t.events = s.events) : Seen named s t :=
  of_sights (fun _ => by rw [hstate]) (fun n hn => .inl (hstate ▸ hn)) hevents

theorem of_outward (h : t.outward = s.outward) : Seen named s t :=
  have houtline : t.state.outline = s.state.outline := congrArg Prod.fst h
  of_sights (State.sight_of_outline houtline) (fun _ hn => .inl (State.spells_of_outline houtline hn))
    (congrArg (fun p => p.2.2) h)

/-- Lines of a log make no difference. -/
theorem of_logs {logs : List Event} (h : Seen named s u) (hstate : t.state = u.state)
    (hlogs : ∀ e ∈ logs, e.Plain) (hevents : t.events = u.events ++ logs) : Seen named s t := by
  have hplain {old : List Event} (hold : ∀ e ∈ old, e.Plain) : ∀ e ∈ old ++ logs, e.Plain :=
    fun e he => (List.mem_append.1 he).elim (hold e) (hlogs e)
  refine ⟨?_, fun n hn => h.spells n (hstate ▸ hn)⟩
  cases h.shows with
  | nothing hsights hold hsaid =>
    exact .nothing (hstate ▸ hsights) (hplain hold) (by rw [hevents, hsaid, List.append_assoc])
  | changed hnamed helsewhere hthere hfresh hold htold =>
    refine .changed hnamed (hstate ▸ helsewhere) (hstate ▸ hthere) hfresh (hplain hold) ?_
    rw [hevents, htold, hstate]
    simp only [List.append_assoc]
  | removed hidle helsewhere hgone hold hsaid =>
    exact .removed hidle (hstate ▸ helsewhere) (hstate ▸ hgone) (hplain hold)
      (by rw [hevents, hsaid, List.append_assoc])

theorem of_lasting (h : Seen named s u) (ht : t.lasting = u.lasting) : Seen named s t := by
  obtain ⟨hstate, -, hevents, -⟩ := Session.lasting_eq_iff.1 ht
  exact h.of_logs hstate (List.forall_mem_nil _) (by rw [hevents, List.append_nil])

/-- It makes no difference what was written before. -/
theorem of_before (h : Seen named u t) (hs : u.lasting = s.lasting) : Seen named s t := by
  obtain ⟨hstate, hscheduler, hevents, -⟩ := Session.lasting_eq_iff.1 hs
  refine ⟨?_, hstate ▸ h.spells⟩
  cases h.shows with
  | nothing hsights hplain hsaid => exact .nothing (hstate ▸ hsights) hplain (hevents ▸ hsaid)
  | changed hnamed helsewhere hthere hfresh hplain htold =>
    exact .changed hnamed (hstate ▸ helsewhere) hthere hfresh hplain (hevents ▸ htold)
  | removed hidle helsewhere hgone hplain hsaid =>
    exact .removed (hscheduler ▸ hidle) (hstate ▸ helsewhere) hgone hplain (hevents ▸ hsaid)

theorem mono {p q : DomainName → Prop} (h : Seen p s t) (hpq : ∀ n, p n → q n) : Seen q s t := by
  refine ⟨?_, fun n hn => (h.spells n hn).imp_right (hpq n)⟩
  cases h.shows with
  | nothing hsights hplain hsaid => exact .nothing hsights hplain hsaid
  | changed hnamed helsewhere hthere hfresh hplain htold =>
    exact .changed (hpq _ hnamed) helsewhere hthere hfresh hplain htold
  | removed hidle helsewhere hgone hplain hsaid => exact .removed hidle helsewhere hgone hplain hsaid

end Seen

/-! ## 2. Commands and steps -/

/-- **What is seen of a step** is the group of the zone. -/
theorem seen_of_step (hs : s.state.Intact) {r : Except Error Unit}
    (h : (step zone).perform o s = (r, t)) : Seen (· = zone) s t := by
  have hconfined : s.state.Confined zone t.state := by
    have := (rel_confined_step (o := o) hs zone).1
    rwa [h] at this
  -- after the work of a stage the group is changed, and observers are told
  have htold {stage : Stage} {r : Except Error Stage} {u : Session ω} {g : Group}
      {f : Group → Group} (hg : s.state.groups.get? zone = some g)
      (hrun : (runStage zone stage).perform o s = (r, u))
      (ht : t.lasting = u.told zone (u.state.modifyGroup zone f)) : Seen (· = zone) s t := by
    have hu : u.outward = s.outward := (inward_runStage zone stage).rel_of_perform hrun
    have houtline : u.state.outline = s.state.outline := congrArg Prod.fst hu
    have hstate : t.state = u.state.modifyGroup zone f := congrArg Prod.fst ht
    have hevents : t.events = u.events ++ (Event.status? (u.state.modifyGroup zone f) zone).toList :=
      congrArg (fun p => p.2.2.1) ht
    refine ⟨.changed rfl (fun z hz => hconfined.sight hs hz) ?_ (List.forall_mem_nil _)
      (List.forall_mem_nil _) ?_, fun n hn => .inl ?_⟩
    · rw [hstate, State.isSome_sight, State.get?_modifyGroup, Option.isSome_map,
        ← State.isSome_sight, State.sight_of_outline houtline, State.isSome_sight, hg]
      rfl
    · rw [hevents, hstate, show u.events = s.events from congrArg (fun p => p.2.2) hu,
        List.nil_append, List.append_nil]
    · rw [hstate] at hn
      exact State.spells_of_outline houtline (State.spells_modifyGroup hn)
  cases outcome_of_step h with
  | missing => exact .of_same rfl rfl
  | rested hrest => exact .of_outward (Session.outward_of_lasting hrest)
  | stayed _ _ hrun hrest =>
    exact .of_lasting (.of_outward ((inward_runStage zone _).rel_of_perform hrun)) hrest
  | moved hg _ hrun ht | failed hg _ hrun ht => exact htold hg hrun ht

/-- **What is seen of a command** is the group that it is about. -/
theorem seen_of_command {cmd : Command} (hs : s.state.Intact) {r : Except Error Unit}
    (h : cmd.run.perform o s = (r, t)) :
    Seen (fun n => s.state.Spells n ∨ cmd.zone? = some n) s t := by
  cases hasks : cmd.asks with
  | true =>
    by_cases hstep : ∃ zone, cmd = .automateStep zone none
    · obtain ⟨zone, rfl⟩ := hstep
      rcases Command.step_of_automateStep h with hrest | hstep
      · exact .of_outward (Session.outward_of_lasting hrest)
      · exact (seen_of_step hs hstep).mono fun n hn => .inr (by rw [hn]; rfl)
    · exact .of_outward ((Command.inward_of_asks hasks (not_exists.1 hstep)).rel_of_perform h)
  | false =>
    have helsewhere {zone : DomainName} (habout : cmd.About zone s.state) (z : DomainName)
        (hz : (z == zone) = false) : t.state.sight z = s.state.sight z := by
      have := (habout.confined (o := o) hs).1
      rw [h] at this
      exact this.sight hs hz
    cases Command.outcome_of_command hs hasks h with
    | refused hrest => exact .of_outward (Session.outward_of_lasting hrest)
    | unseen hrest => exact .of_outward hrest
    | listed hsights hspells _ hevents =>
      exact .of_sights hsights (fun n hn => (hspells n hn).imp_right .inr) hevents
    | @removed zone g _ hidle hremoved _ hevents =>
      refine ⟨.removed hidle (helsewhere (.inl ⟨zone, rfl, BEq.rfl⟩)) (fun z hz => ?_)
        (List.forall_mem_nil _) (by rw [hevents, List.append_nil]),
        fun n hn => .inl (State.spells_removeGroup hremoved hn)⟩
      rw [State.sight_of_beq _ hz, State.sight_of_removeGroup hremoved]
    | announced hconcerns hthere hspells _ hplain hevents =>
      refine ⟨.changed ?_ (helsewhere hconcerns.about) hthere hplain (List.forall_mem_nil _)
        (by rw [hevents, List.append_nil]), fun n hn => (hspells n hn).imp_right .inr⟩
      rcases hconcerns with hzone | ⟨name, signer, -, hsigner, hgroup⟩
      · exact .inr hzone
      · exact .inl (.home hsigner hgroup)
    | started _ _ hstate hevents | stopped _ _ hstate hevents => exact .of_same hstate hevents

/-! ## 3. Moves -/

/-- A name of a zone is in use. -/
inductive Moment.Mentions (m : Moment ω) (n : DomainName) : Prop
  | document (spells : m.session.state.Spells n)
  | waiting (mem : n ∈ m.waiting)
  | task {task : Task} (mem : task ∈ m.session.scheduler.tasks) (zone : task.zone = n)

theorem Moment.Passes.mentions {m n : Moment ω} (h : m.Passes n) {k : DomainName}
    (hk : n.Mentions k) : m.Mentions k := by
  cases hk with
  | document hspells => exact .document (h.state ▸ hspells)
  | waiting hmem => exact .waiting (h.waiting ▸ hmem)
  | task hmem hzone => exact .task (h.tasks ▸ hmem) hzone

/-- The move is a command that is given the zone. -/
def Move.Given (c : Controller ω) (move : Move) (zone : DomainName) : Prop :=
  ∃ args cmd, move = .command args ∧ Command.parse c.mode args = .ok cmd ∧ cmd.zone? = some zone

namespace Move

variable {m : Moment ω}

/-- **What is seen of a move.** -/
theorem seen_of_take (c : Controller ω) (move : Move) (h : m.session.state.Intact) :
    Seen (fun n => m.Mentions n ∨ move.Given c n) m.session (move.take c m).session := by
  obtain ⟨s, waiting⟩ := m
  cases move with
  | command args =>
    rcases c.ran_of_execute args s with hrest | ⟨cmd, r, t, hparse, hrun, hrest⟩
    · exact .of_outward (Session.outward_of_lasting hrest)
    · refine ((seen_of_command h hrun).mono fun n hn => ?_).of_lasting hrest
      exact hn.imp .document fun hzone => ⟨args, cmd, rfl, hparse, hzone⟩
  | wake id =>
    have hwoken := woken_of_wake c id s
    rw [take]
    generalize c.wake id s = t at hwoken ⊢
    cases hwoken with
    | missing _ | ended _ _ => exact .of_same rfl rfl
    | @stepped task r u _ logs htask _ hstep hstate _ hplain hevents _ =>
      have hseen := (seen_of_step (s := { s with transcript := .empty }) h hstep).of_before
        (s := s) rfl
      refine (hseen.mono fun n hn => .inl ?_).of_logs hstate hplain hevents
      exact .task (Scheduler.mem_of_task? htask).1 hn.symm
  | launch =>
    cases waiting with
    | nil => exact .of_same rfl rfl
    | cons zone rest =>
      rw [take, Controller.startOne]
      cases s.scheduler.start zone <;> exact .of_same rfl rfl
  | read | tell | finish _ => exact .of_same rfl rfl

/-- **Names come from commands.** -/
theorem mentions_of_take (c : Controller ω) (move : Move) (h : m.session.state.Intact)
    {n : DomainName} (hn : (move.take c m).Mentions n) : m.Mentions n ∨ move.Given c n := by
  cases hn with
  | document hspells =>
    rcases (seen_of_take c move h).spells n hspells with hold | hnew
    · exact .inl (.document hold)
    · exact hnew
  | waiting hmem =>
    left
    obtain ⟨s, waiting⟩ := m
    cases move with
    | read =>
      rcases List.mem_append.1 hmem with hmem | hmem
      · exact .waiting hmem
      · exact .document (.autostart (List.mem_filter.1 hmem).1)
    | launch =>
      cases waiting with
      | nil => cases hmem
      | cons zone rest => exact .waiting (List.mem_cons_of_mem _ hmem)
    | command _ | wake _ | tell | finish _ => exact .waiting hmem
  | @task task hmem hzone =>
    subst hzone
    rcases Scheduler.origin_of_becomes (move.becomes_of_take c h) hmem with
      ⟨past, hpast, haged⟩ | ⟨-, hstarts⟩
    · exact .inl (.task hpast haged.zone)
    · cases hstarts with
      | command hparse _ => exact .inr ⟨_, _, rfl, hparse, rfl⟩
      | launch hmem => exact .inl (.waiting hmem)

/-- **A group with a task that goes on is not removed.** -/
theorem there_of_take (c : Controller ω) (move : Move) (h : m.session.state.Intact)
    (hthere : (m.session.state.sight zone).isSome = true)
    (hrunning : m.session.scheduler.isRunning zone = true) :
    ((move.take c m).session.state.sight zone).isSome = true := by
  cases (seen_of_take c move h).shows with
  | nothing hsights _ _ =>
    rw [hsights]
    exact hthere
  | @changed zone' _ _ _ helsewhere hthere' _ _ _ =>
    cases hz : zone == zone' with
    | true =>
      rw [State.sight_of_beq _ hz]
      exact hthere'
    | false =>
      rw [helsewhere zone hz]
      exact hthere
  | @removed zone' _ hidle helsewhere _ _ _ =>
    cases hz : zone == zone' with
    | true =>
      rw [Scheduler.isRunning_of_beq _ hz, hidle] at hrunning
      cases hrunning
    | false =>
      rw [helsewhere zone hz]
      exact hthere

end Move
end MultiSigner
