/-
# Tasks without a group

A group is not removed while a task of it goes on, and a command starts a task only for a group that is
there.  The start of the automation looks whether a group is there when it reads its list, but not when
it starts the tasks, and in between groups can be removed.  A task of a group that is gone fails at
every turn, and no command stops it, since there is no group to name.

`lodging_of_history` says that a task without a group has always been started in this way, and that
its group has not been there since: if the group is added again, the task is one with a group.
-/
import MultiSigner.Proofs.Daemon.Sights
import MultiSigner.Proofs.Daemon.Tasks
import MultiSigner.Proofs.Refusals

namespace MultiSigner

open Operation Automation

variable {ω : Type} {o : Outside ω} {c : Controller ω} {s t : Session ω} {zone z : DomainName}
  {id : Nat} {exchange : Exchange ω} {e : Error}

/-! ## 1. Tasks with a group -/

/-- A step of a group that is there does not fail for want of it. -/
theorem there_of_step (ho : o.Candid exchange) (hs : s.state.Intact)
    (h : (step zone).perform o s = (.error (.noSuchGroup z), t)) : s.state.sight zone = none := by
  have he : ¬ (Error.noSuchGroup z).Blameless := not_not.2 rfl
  generalize herror : Error.noSuchGroup z = e at h he
  cases outcome_of_step h with
  | missing hgone => exact hgone
  | failed _ _ hrun _ =>
    rcases blamed_of_runStage ho hs hrun he with ⟨-, hlacking⟩ | hhalted
    · cases hlacking with
      | group hgone => exact hgone
      | signers _ _ => cases herror
    · obtain ⟨_, _, -, -, -, _, _, _, _, -, -, -, -, -, -, hname⟩ := hhalted.sent
      cases herror.trans hname

/-- **A group that is there can be stepped and stopped.** -/
structure Moment.Housed (c : Controller ω) (m : Moment ω) (zone : DomainName) : Prop where
  there : (m.session.state.sight zone).isSome = true
  tick : ∀ z, ((Controller.tick zone).perform c.outside { m.session with transcript := .empty }).1
    ≠ .error (.noSuchGroup z)
  stop : ∀ z, (z == zone) = true → ∃ t, (Command.automateStop z).run.perform c.outside m.session
    = (.ok (), t) ∧ t.scheduler.isRunning zone = false

/-- **A group that is not there can be neither.** -/
structure Moment.Orphaned (c : Controller ω) (m : Moment ω) (zone : DomainName) : Prop where
  gone : m.session.state.sight zone = none
  tick : ((Controller.tick zone).perform c.outside { m.session with transcript := .empty }).1
    = .error (.noSuchGroup zone)
  stop : ∀ z, (z == zone) = true → (Command.automateStop z).run.perform c.outside m.session
    = (.error (.noSuchGroup z), m.session)

namespace Moment

variable {m : Moment ω}

theorem housed_of_there (hc : c.outside.Candid exchange) (hm : m.Sound)
    (hthere : (m.session.state.sight zone).isSome = true)
    (hrunning : m.session.scheduler.isRunning zone = true) : m.Housed c zone where
  there := hthere
  tick z h := by
    obtain ⟨u, -, hstep | hsave⟩ := failed_of_attempt (perform_of_fst h)
    · have hgone := there_of_step (s := { m.session with transcript := .empty }) hc
        hm.reachable.intact hstep
      rw [Option.isSome_iff_ne_none] at hthere
      exact hthere hgone
    · exact hc.save hsave rfl
  stop z hz := by
    have hthere' : (m.session.state.sight z).isSome = true := by
      rw [State.sight_of_beq _ hz]
      exact hthere
    rcases hrun : (Command.automateStop z).run.perform c.outside m.session with ⟨r, t⟩
    obtain ⟨hok, hidle⟩ := Command.stops_of_there hthere' hrun
    rw [← Scheduler.isRunning_of_beq _ hz] at hrunning
    exact ⟨t, by rw [hok hrunning], (Scheduler.isRunning_of_beq _ hz).symm.trans hidle⟩

theorem orphaned_of_gone (hgone : m.session.state.sight zone = none) : m.Orphaned c zone where
  gone := hgone
  tick := by
    have hstep : (step zone).perform c.outside { m.session with transcript := .empty }
        = (.error (.noSuchGroup zone), { m.session with transcript := .empty }) := by
      simp only [step, perform_bind, perform_state, perform_lift, State.group_of_unseen hgone]
    simp only [Controller.tick, perform_bind, perform_attempt, hstep, perform_save, perform_lift]
  stop z hz := by
    rw [← State.sight_of_beq _ hz] at hgone
    simp only [Command.run, Command.stop, perform_bind, perform_state, perform_lift,
      State.group_of_unseen hgone]

end Moment

/-! ## 2. Where tasks without a group come from -/

/-- A task was started for a group that had been removed after the start of the automation had read
that it was to be started.  There has been no such group since. -/
inductive StartedLate (c : Controller ω) (id : Nat) (zone : DomainName) :
    List (Happening ω) → Prop
  | intro {past between future : List (Happening ω)} {r x : Happening ω} (read : r.move = .read)
      (was : (r.before.session.state.sight zone).isSome = true) (launch : x.move = .launch)
      (begins : x.Begins c id zone) (gone : x.before.session.state.sight zone = none)
      (since : ∀ y ∈ future, y.before.session.state.sight zone = none) :
      StartedLate c id zone (past ++ r :: (between ++ x :: future))

/-- Starting the automation of a group leaves the document alone. -/
theorem Command.state_of_automateStart {r : Except Error Unit}
    (h : (Command.automateStart zone).run.perform o s = (r, t)) : t.state = s.state := by
  have hstart : Leaves (.keeping Session.state) (Command.start zone : Operation ω Unit) :=
    leaves_bind leaves_state fun _ => leaves_bind (leaves_lift _) fun _ => leaves_bind leaves_get
      fun _ => leaves_bind (leaves_lift _) fun _ => leaves_bind (fun _ _ => rfl) fun _ _ _ => rfl
  exact hstart.rel_of_perform h

namespace Move

variable {m : Moment ω} {move : Move}

/-- A move does not remove a group of which a task goes on. -/
theorem gone_of_take (h : m.session.state.Intact) {task : Task}
    (htask : task ∈ m.session.scheduler.tasks) (hgoes : task.stopped = false)
    (hgone : (move.take c m).session.state.sight task.zone = none) :
    m.session.state.sight task.zone = none := by
  rw [← Option.not_isSome_iff_eq_none]
  intro hthere
  have hrunning : m.session.scheduler.isRunning task.zone = true := by
    refine List.any_eq_true.2 ⟨task, htask, ?_⟩
    rw [Scheduler.runs, hgoes, BEq.rfl]
    rfl
  have hafter := move.there_of_take c h hthere hrunning
  rw [hgone] at hafter
  cases hafter

/-- **Only the start of the automation starts a task without a group.**  A command that starts one
leaves the document, in which there is a group, alone. -/
theorem launch_of_starts (h : move.Starts c m zone)
    (hgone : (move.take c m).session.state.sight zone = none) :
    move = .launch ∧ zone ∈ m.waiting ∧ m.session.state.sight zone = none := by
  cases h with
  | @command args _ hparse hthere =>
    have hsame : (take c (.command args) m).session.state = m.session.state := by
      rcases c.ran_of_execute args m.session with hrest | ⟨cmd, r, t, hparse', hrun, hrest⟩
      · exact (Session.lasting_eq_iff.1 hrest).1
      · cases hparse.symm.trans hparse'
        exact (Session.lasting_eq_iff.1 hrest).1.trans (Command.state_of_automateStart hrun)
    rw [← hsame, hgone] at hthere
    cases hthere
  | launch hmem =>
    refine ⟨rfl, hmem, ?_⟩
    obtain ⟨s, waiting⟩ := m
    cases waiting with
    | nil => cases hmem
    | cons z rest =>
      rw [take, Controller.startOne] at hgone
      cases hstart : s.scheduler.start z with
      | error e =>
        rw [hstart] at hgone
        exact hgone
      | ok scheduler =>
        rw [hstart] at hgone
        exact hgone

end Move

namespace History

variable {first last : Moment ω} {hs : List (Happening ω)}

/-- What waits to be started was read when its group was there. -/
theorem read_of_waiting (h : History c first hs last) (hwaiting : zone ∈ last.waiting) :
    zone ∈ first.waiting ∨ ∃ past r between, hs = past ++ r :: between ∧ r.move = .read ∧
      (r.before.session.state.sight zone).isSome = true := by
  induction h with
  | nil m => exact .inl hwaiting
  | @cons m n x hs hpasses hrest ih =>
    rcases ih hwaiting with hafter | ⟨past, r, between, rfl, hr⟩
    · rw [← hpasses.waiting]
      rw [Happening.after] at hafter
      obtain ⟨move, s, waiting⟩ := x
      cases move with
      | read =>
        rcases List.mem_append.1 hafter with hold | hread
        · exact .inl hold
        · refine .inr ⟨[], _, hs, rfl, rfl, ?_⟩
          rw [State.isSome_sight]
          exact (List.mem_filter.1 hread).2
      | launch =>
        cases waiting with
        | nil => cases hafter
        | cons z rest => exact .inl (List.mem_cons_of_mem _ hafter)
      | command _ | wake _ | tell | finish _ => exact .inl hafter
    · exact .inr ⟨x :: past, r, between, rfl, hr⟩

/-- **A task whose group is not there** was there from the beginning, or it was launched; and its group
has not been there since. -/
theorem launch_of_gone (h : History c first hs last) (hfirst : first.Sound) {task : Task}
    (htask : task ∈ last.session.scheduler.tasks) (hgoes : task.stopped = false)
    (hgone : last.session.state.sight task.zone = none) :
    ((∃ past ∈ first.session.scheduler.tasks, Scheduler.Aged past task) ∧
        first.session.state.sight task.zone = none ∧
        ∀ x ∈ hs, x.before.session.state.sight task.zone = none) ∨
      ∃ past x future, hs = past ++ x :: future ∧ x.move = .launch ∧
        task.zone ∈ x.before.waiting ∧ x.Begins c task.id task.zone ∧
        x.before.session.state.sight task.zone = none ∧
        ∀ y ∈ future, y.before.session.state.sight task.zone = none := by
  induction h with
  | nil m => exact .inl ⟨⟨task, htask, .refl task⟩, hgone, by simp⟩
  | @cons m n x hs hpasses hrest ih =>
    have hx := hpasses.sound hfirst
    have hintact := hx.reachable.intact
    rcases ih (Moment.sound_of_take c _ hx) htask hgone with
      ⟨⟨begun, hbegun, haged⟩, hafter, hsince⟩ | ⟨past, y, future, rfl, hy⟩
    · rcases Scheduler.origin_of_becomes (x.move.becomes_of_take c hintact) hbegun with
        ⟨old, hold, haged'⟩ | ⟨hnew, hstarts⟩
      · -- the task went on before, so its group was not removed by this move
        left
        have hall := haged'.trans haged
        have hbefore : x.before.session.state.sight task.zone = none := by
          rw [← hall.zone] at hafter ⊢
          exact Move.gone_of_take hintact hold (hall.goes hgoes) hafter
        exact ⟨⟨old, hpasses.tasks ▸ hold, hall⟩, hpasses.state ▸ hbefore,
          List.forall_mem_cons.2 ⟨hbefore, hsince⟩⟩
      · right
        rw [haged.zone] at hstarts
        obtain ⟨hlaunch, hmem, hbefore⟩ := Move.launch_of_starts hstarts hafter
        refine ⟨[], x, hs, rfl, hlaunch, hmem, ?_, hbefore, hsince⟩
        refine ⟨fun u hu hsame => ?_, begun, hbegun, haged.id, by rw [haged.zone, BEq.rfl]⟩
        exact (hx.proper.fresh u hu).ne (hsame.trans (haged.id.symm.trans hnew))
    · exact .inr ⟨x :: past, y, future, rfl, hy⟩

end History

namespace Command

theorem mode_of_parseArguments {mode : Mode} {name : String} {a : Arguments}
    (h : parseArguments mode name a = .ok (.automateStop z)) : mode = .daemon := by
  unfold parseArguments at h
  split at h
  case h_24 =>
    cases mode with
    | daemon => rfl
    | once => cases h
  -- every other branch gives another command
  all_goals try split at h
  all_goals
    repeat obtain ⟨_, -, h⟩ := bind_eq_ok.1 h
    cases h

/-- Only a daemon is told to stop the automation of a group. -/
theorem mode_of_parse {mode : Mode} {args : List String}
    (h : parse mode args = .ok (.automateStop z)) : mode = .daemon := by
  cases args with
  | nil => cases h
  | cons name values =>
    simp only [parse] at h
    split at h
    · cases h
    · exact mode_of_parseArguments h

end Command

/-- **Every task that goes on has a group, or was started late.**  With a group, no turn of it fails
because there is none, and the command that stops it succeeds.  A task that was started late fails at
every turn, and the command is refused.  A process that is no daemon has no such command, though it
can start tasks.  The network does anything. -/
theorem lodging_of_history (c : Controller ω) (exchange : Exchange ω)
    (hc : c.outside.Candid exchange) {first last : Moment ω} {hs : List (Happening ω)}
    (hreach : Reachable first.session.state) (htasks : first.session.scheduler.tasks = [])
    (hwaiting : first.waiting = []) (h : History c first hs last) {task : Task}
    (htask : task ∈ last.session.scheduler.tasks) (hgoes : task.stopped = false) :
    (last.Housed c task.zone ∨
      last.Orphaned c task.zone ∧ StartedLate c task.id task.zone hs) ∧
      (c.mode = .once → ∀ args z, Command.parse c.mode args ≠ .ok (.automateStop z)) := by
  refine ⟨?_, fun hmode args z hparse => nomatch hmode.symm.trans (Command.mode_of_parse hparse)⟩
  have hfirst := Moment.sound_of_no_tasks hreach htasks
  cases hsight : last.session.state.sight task.zone with
  | some p =>
    refine .inl (Moment.housed_of_there hc (h.sound hfirst) (by rw [hsight]; rfl) ?_)
    refine List.any_eq_true.2 ⟨task, htask, ?_⟩
    rw [Scheduler.runs, hgoes, BEq.rfl]
    rfl
  | none =>
    refine .inr ⟨Moment.orphaned_of_gone hsight, ?_⟩
    rcases h.launch_of_gone hfirst htask hgoes hsight with
      ⟨⟨past, hpast, -⟩, -⟩ | ⟨past, x, future, rfl, hlaunch, hmem, hbegins, hgone, hsince⟩
    · rw [htasks] at hpast
      cases hpast
    · obtain ⟨m, hpast, hpasses, -⟩ := h.split
      rw [hpasses.waiting] at hmem
      rcases hpast.read_of_waiting hmem with hmem | ⟨before, r, between, rfl, hread, hwas⟩
      · rw [hwaiting] at hmem
        cases hmem
      · rw [List.append_assoc, List.cons_append]
        exact .intro hread hwas hlaunch hbegins hgone hsince

namespace Sample

/-- A daemon whose signers take signed updates. -/
def signed : Controller Int := ⟨.daemon, signing⟩

/-- A daemon with one group, which is to be started with it. -/
def scheduled : Moment Int where
  session := session (course .empty [["group-add", "x.", "192.0.2.4"],
    ["automate-autostart", "x."]]) 0

/-- The group is removed after it was read that it is to be started. -/
def removing : List Move :=
  [.read, .command ["group-remove", "x."], .launch, .wake 0, .command ["automate-stop", "x."]]

/-- Its task is there, and fails, and can not be stopped. -/
theorem lodging_of_removing :
    let last := scheduled.makes signed removing
    let task : Task := ⟨0, Sample.zone, 1, false⟩
    Outside.Candid (fun _ _ _ w => (.ok ⟨.noError, ""⟩, w)) signed.outside ∧
      Reachable scheduled.session.state ∧ last.session.state.sight Sample.zone = none ∧
      task ∈ last.session.scheduler.tasks ∧
      (last.Housed signed Sample.zone ∨ last.Orphaned signed Sample.zone ∧
        StartedLate signed 0 Sample.zone (scheduled.happenings signed removing)) := by
  intro last task
  have hreach : Reachable scheduled.session.state := reachable_course _ .empty
  have htask : task ∈ last.session.scheduler.tasks := by decide +kernel
  exact ⟨candid_signing, hreach, by decide +kernel, htask,
    (lodging_of_history signed _ candid_signing hreach rfl rfl
      (history_happenings signed removing scheduled) htask rfl).1⟩

end Sample
end MultiSigner
