/-
# Tasks take turns, and a stop is final

A task is told to stop while it sleeps, or while it waits for the controller; it is still there then,
and another task of the same group may be started before it ends.  It does no harm, since what was told
to stop does nothing when it is its turn.  `turns_of_history` draws the conclusions.  They rest on the
numbers of tasks: a task that goes on and is not new was there before and went on before.
-/
import MultiSigner.Proofs.Daemon.History

namespace MultiSigner

open Operation Automation

variable {ω : Type} {o : Outside ω} {c : Controller ω} {zone z : DomainName} {id : Nat}

/-! ## 1. Stopping -/

namespace Scheduler

variable {s t : Scheduler}

/-- No task of a group that was stopped goes on. -/
theorem idle_of_stop (h : s.stop zone = .ok t) : t.isRunning zone = false := by
  obtain ⟨-, rfl⟩ := stop_eq_ok h
  refine isRunning_eq_false.2 fun u hu => ?_
  obtain ⟨v, -, rfl⟩ := List.mem_map.1 hu
  split
  · exact nofun
  · rename_i hv
    intro hgoes
    rw [runs, hgoes, Bool.not_false, Bool.and_true] at hv
    exact Bool.eq_false_iff.2 hv

theorem idle_of_stop_error {e : Error} (h : s.stop zone = .error e) : s.isRunning zone = false := by
  rw [stop] at h
  split at h
  · cases h
  · exact Bool.eq_false_iff.2 ‹_›

/-- Nothing ends that is not there. -/
theorem finish_of_missing (h : s.task? id = none) : s.finish id = s := by
  rw [finish]
  congr 1
  refine List.filter_eq_self.2 fun t ht => ?_
  have := List.find?_eq_none.1 h t ht
  simpa using this

end Scheduler

/-- Stopping the automation of a group that is there succeeds if it has a task that goes on, and in
any case leaves none. -/
theorem Command.stops_of_there {s t : Session ω} {r : Except Error Unit}
    (hthere : (s.state.sight zone).isSome = true)
    (h : (Command.automateStop zone).run.perform o s = (r, t)) :
    (s.scheduler.isRunning zone = true → r = .ok ()) ∧ t.scheduler.isRunning zone = false := by
  rw [State.isSome_sight] at hthere
  obtain ⟨g, hg⟩ := Option.isSome_iff_exists.1 hthere
  simp only [run, stop, perform_bind, perform_state, perform_lift, State.group_eq_ok.2 hg,
    perform_get] at h
  cases hstop : s.scheduler.stop zone with
  | error e =>
    rw [hstop] at h
    cases h
    have hidle := Scheduler.idle_of_stop_error hstop
    exact ⟨fun hrunning => absurd hrunning (Bool.eq_false_iff.1 hidle), hidle⟩
  | ok scheduler =>
    rw [hstop] at h
    cases h
    exact ⟨fun _ => rfl, Scheduler.idle_of_stop hstop⟩

namespace Happening

variable {x : Happening ω}

/-- The task of the number does a step of the zone's group.  It was not told to stop. -/
def StepBy (x : Happening ω) (id : Nat) (zone : DomainName) : Prop :=
  x.move = .wake id ∧ ∃ task, x.before.session.scheduler.task? id = some task ∧
    task.stopped = false ∧ (task.zone == zone) = true

/-- The task of the number is started, for the zone's group. -/
def Begins (c : Controller ω) (x : Happening ω) (id : Nat) (zone : DomainName) : Prop :=
  (∀ task ∈ x.before.session.scheduler.tasks, task.id ≠ id) ∧
    ∃ task ∈ (x.after c).session.scheduler.tasks, task.id = id ∧ (task.zone == zone) = true

/-- The automation of the zone's group is stopped: by a command, or with all others. -/
inductive Stops (c : Controller ω) (x : Happening ω) (zone : DomainName) : Prop
  | command {args : List String} {z : DomainName} (move : x.move = .command args)
      (parse : Command.parse c.mode args = .ok (.automateStop z))
      (there : (x.before.session.state.sight z).isSome = true) (same : (z == zone) = true)
  | shutdown (move : x.move = .tell)

/-- **After a stop no task of the group goes on.** -/
theorem Stops.idle (h : x.Stops c zone) :
    (x.after c).session.scheduler.isRunning zone = false := by
  cases h with
  | @command args z hmove hparse hthere hz =>
    have hidle : (x.after c).session.scheduler.isRunning z = false := by
      rw [after, hmove, Move.take]
      have hlasting := Deed.lasting_of_parsed (c := c)
        (e := ⟨.command args, x.before.session⟩) rfl hparse
      exact (congrArg (·.isRunning z) (Session.lasting_eq_iff.1 hlasting).2.1).trans
        (Command.stops_of_there hthere rfl).2
    rw [Scheduler.isRunning_eq_false] at hidle ⊢
    refine fun t ht hgoes => Bool.eq_false_iff.2 fun hzone => ?_
    exact Bool.eq_false_iff.1 (hidle t ht hgoes) (BEq.trans hzone (BEq.symm hz))
  | shutdown hmove =>
    rw [after, hmove, Move.take, Scheduler.isRunning_eq_false]
    intro t ht hgoes
    obtain ⟨u, -, rfl⟩ := List.mem_map.1 ht
    cases hgoes

/-- **What is not a step is nothing.** -/
theorem after_of_wake (hmove : x.move = .wake id) (h : ∀ zone, ¬ x.StepBy id zone) :
    (x.after c).session
      = { x.before.session with scheduler := x.before.session.scheduler.finish id } := by
  have hwoken := woken_of_wake c id x.before.session
  rw [after, hmove, Move.take]
  generalize c.wake id x.before.session = t at hwoken ⊢
  cases hwoken with
  | missing hnone => rw [Scheduler.finish_of_missing hnone]
  | ended _ _ => rfl
  | stepped htask hgoing _ _ _ _ _ _ =>
    exact absurd ⟨hmove, _, htask, hgoing, BEq.rfl⟩ (h _)

end Happening

/-! ## 2. Histories -/

namespace History

variable {first last : Moment ω} {hs past between future : List (Happening ω)}
  {x y : Happening ω}

/-- A task that is new was started. -/
theorem begins (h : History c first hs last) (hfirst : first.Sound) {task : Task}
    (htask : task ∈ last.session.scheduler.tasks)
    (hnew : first.session.scheduler.nextId ≤ task.id) :
    ∃ x ∈ hs, x.Begins c task.id task.zone := by
  induction h with
  | nil m => exact absurd (hfirst.proper.fresh task htask) hnew.not_gt
  | @cons m n x hs hpasses hrest ih =>
    have hx := hpasses.sound hfirst
    have hafter : (x.after c).Sound := Moment.sound_of_take c _ hx
    rcases Nat.lt_or_ge task.id (x.after c).session.scheduler.nextId with hold | hnew'
    · -- the task was there after this move, and its number was not given out before
      obtain ⟨begun, hbegun, hid, hzone, -⟩ := (hrest.succeeds hafter).old task htask hold
      refine ⟨x, List.mem_cons_self, fun u hu hsame => ?_, begun, hbegun, hid, by rw [hzone, BEq.rfl]⟩
      have := hx.proper.fresh u hu
      rw [hsame, hpasses.nextId] at this
      exact this.not_ge hnew
    · obtain ⟨w, hw, hbegins⟩ := ih hafter htask hnew'
      exact ⟨w, List.mem_cons_of_mem _ hw, hbegins⟩

/-- What leads from one of two moves of a history to the other one. -/
theorem split_between (h : History c first (past ++ x :: (between ++ y :: future)) last)
    (hfirst : first.Sound) : x.before.Sound ∧ y.before.Sound ∧
      ∃ m, History c (x.after c) between m ∧ m.Passes y.before := by
  obtain ⟨m, hpast, hx, hfuture⟩ := h.split
  have hsound := hx.sound (hpast.sound hfirst)
  obtain ⟨n, hbetween, hy, -⟩ := hfuture.split
  exact ⟨hsound, hy.sound (hbetween.sound (Moment.sound_of_take c _ hsound)), n, hbetween, hy⟩

/-- **A stop is final.**  Whoever does a step of the group later was started in between. -/
theorem begins_of_stops (h : History c first (past ++ x :: (between ++ y :: future)) last)
    (hfirst : first.Sound) (hx : x.Stops c zone) (hy : y.StepBy id zone) :
    ∃ w ∈ between, w.Begins c id zone := by
  obtain ⟨hsound, -, m, hbetween, hpasses⟩ := h.split_between hfirst
  have hafter : (x.after c).Sound := Moment.sound_of_take c _ hsound
  obtain ⟨-, task, htask, hgoes, hzone⟩ := hy
  obtain ⟨hmem, rfl⟩ := Scheduler.mem_of_task? htask
  rw [hpasses.tasks] at hmem
  have hnew : (x.after c).session.scheduler.nextId ≤ task.id := by
    by_contra hold
    obtain ⟨old, hold, -, hsame, hgoes'⟩ :=
      (hbetween.succeeds hafter).old task hmem (Nat.lt_of_not_le hold)
    have hidle := Scheduler.isRunning_eq_false.1 hx.idle old hold (hgoes' hgoes)
    rw [hsame, hzone] at hidle
    cases hidle
  obtain ⟨w, hw, hnone, begun, hbegun, hid, hsame⟩ := hbetween.begins hafter hmem hnew
  exact ⟨w, hw, hnone, begun, hbegun, hid, BEq.trans hsame hzone⟩

/-- **Tasks of a group take turns in the order in which they were started.** -/
theorem le_of_stepBy (h : History c first (past ++ x :: (between ++ y :: future)) last)
    (hfirst : first.Sound) {i j : Nat} (hx : x.StepBy i zone) (hy : y.StepBy j zone) : i ≤ j := by
  obtain ⟨hsound, -, m, hbetween, hpasses⟩ := h.split_between hfirst
  have hsucceeds := (Scheduler.succeeds_of_becomes
    (x.move.becomes_of_take c hsound.reachable.intact)).trans
      (hbetween.succeeds (Moment.sound_of_take c _ hsound))
  obtain ⟨-, t, ht, hgoes, hzone⟩ := hx
  obtain ⟨htmem, rfl⟩ := Scheduler.mem_of_task? ht
  obtain ⟨-, u, hu, hgoes', hzone'⟩ := hy
  obtain ⟨humem, rfl⟩ := Scheduler.mem_of_task? hu
  rw [hpasses.tasks] at humem
  by_contra hlt
  -- the later one was there at the earlier step, and both went on then
  obtain ⟨old, hold, hid, hsame, hold'⟩ := hsucceeds.old u humem
    ((Nat.lt_of_not_le hlt).trans (hsound.proper.fresh t htmem))
  have heq := hsound.proper.eq_of_zone hold htmem
    (BEq.trans (by rw [hsame]; exact hzone') (BEq.symm hzone)) (hold' hgoes') hgoes
  rw [← heq, hid] at hlt
  exact hlt (le_refl _)

end History

/-- Tasks do not get in each other's way. -/
structure Turns (c : Controller ω) (hs : List (Happening ω)) : Prop where
  /-- A number belongs to one task. -/
  numbered : ∀ x ∈ hs, ∀ t ∈ x.before.session.scheduler.tasks,
    ∀ u ∈ x.before.session.scheduler.tasks, t.id = u.id → t = u
  /-- At most one task of each group goes on, at every moment. -/
  unique : ∀ x ∈ hs, x.before.session.scheduler.Unique ∧ (x.after c).session.scheduler.Unique
  /-- A task whose turn it is does a step, or it was told to stop and just ends. -/
  told : ∀ x ∈ hs, ∀ id, x.move = .wake id → (∃ zone, x.StepBy id zone) ∨ (x.after c).session
    = { x.before.session with scheduler := x.before.session.scheduler.finish id }
  /-- After a stop only tasks that are started later do steps of the group. -/
  final : ∀ past x between y future id zone, hs = past ++ x :: (between ++ y :: future) →
    x.Stops c zone → y.StepBy id zone → ∃ w ∈ between, w.Begins c id zone
  /-- So a task does no steps any more once a later one of its group has done one. -/
  ordered : ∀ past x between y future i j zone, hs = past ++ x :: (between ++ y :: future) →
    x.StepBy i zone → y.StepBy j zone → i ≤ j

/-- **Tasks take turns, and a stop is final**, whatever commands, wakes, starts and stops there are
and in whatever order, from any moment on at which there are no tasks. -/
theorem turns_of_history (c : Controller ω) {first last : Moment ω} {hs : List (Happening ω)}
    (hreach : Reachable first.session.state) (htasks : first.session.scheduler.tasks = [])
    (h : History c first hs last) : Turns c hs := by
  have hfirst := Moment.sound_of_no_tasks hreach htasks
  have hsound : ∀ x ∈ hs, x.before.Sound := fun x hx => by
    obtain ⟨past, future, rfl⟩ := List.append_of_mem hx
    exact h.sound_before hfirst
  refine ⟨fun x hx t ht u hu => (hsound x hx).proper.eq_of_id ht hu,
    fun x hx => ⟨(hsound x hx).proper.unique,
      (Moment.sound_of_take c _ (hsound x hx)).proper.unique⟩,
    fun x hx id hmove => ?_, ?_, ?_⟩
  · by_cases hstep : ∃ zone, x.StepBy id zone
    · exact .inl hstep
    · exact .inr (x.after_of_wake hmove (not_exists.1 hstep))
  · rintro past x between y future id zone rfl hx hy
    exact h.begins_of_stops hfirst hx hy
  · rintro past x between y future i j zone rfl hx hy
    exact h.le_of_stepBy hfirst hx hy

namespace Sample

/-- A process whose tasks can be started by commands. -/
def served : Controller Int := ⟨.daemon, outside⟩

/-- A daemon with one group. -/
def daemon : Moment Int where
  session := session (course .empty [["group-add", "x.", "192.0.2.4"]]) 0

/-- The automation of the group is started, stopped and started again, and then the first task
wakes. -/
def restarting : List Move :=
  [.command ["automate-start", "x."], .wake 0, .command ["automate-stop", "x."],
    .command ["automate-start", "x."], .wake 0, .wake 1]

/-- The first task does a step before the stop and none after it, and the second one does one. -/
theorem turns_of_restarting :
    ((daemon.happenings served restarting).map fun x => match x.move with
      | .wake id => (x.before.session.scheduler.task? id).map Task.stopped
      | _ => none) = [none, some false, none, none, some true, some false] ∧
      Reachable daemon.session.state ∧ daemon.session.scheduler.tasks = [] ∧
      Turns served (daemon.happenings served restarting) := by
  have hreach : Reachable daemon.session.state := reachable_course _ .empty
  exact ⟨by decide +kernel, hreach, rfl,
    turns_of_history served hreach rfl (history_happenings served restarting daemon)⟩

end Sample
end MultiSigner
