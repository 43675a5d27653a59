/-
# What happens in a daemon, in any order

Commands, wakes of tasks, the start of the automation and its end come from different sides, and each
of them finds what the one before it left.  A `Move` is one of them, and none is ever split: a command
and a step of a task each have the controller to themselves, and whoever starts or stops the task of a
group waits for nothing between looking at the tasks and changing them.  But three things that look
like one are several moves, with anything in between.

* The start of the automation reads which groups to start, and then starts one after the other.
* Its end tells the tasks to stop; each of them ends when it gets to it.
* A task that was told to stop may have slept, or waited for the controller, when it was told.

A `History` is a list of moves with the moments they find, the earliest one first.  What a move does
to the tasks is said once (`becomes_of_take`), and `proper_of_becomes` and `succeeds_of_becomes` derive
from it what holds at every moment, and what holds between two of them.
-/
import MultiSigner.Proofs.Outcomes
import Mathlib.Data.List.Pairwise

namespace MultiSigner

open Operation Automation
open State (Intact)

variable {ω : Type} {o : Outside ω} {c : Controller ω} {s t u : Scheduler} {zone z : DomainName}
  {id : Nat}

/-! ## 1. Schedulers -/

namespace Scheduler

/-- Tells all tasks to stop. -/
def tell (s : Scheduler) : Scheduler :=
  { s with tasks := s.tasks.map fun t => { t with stopped := true } }

/-- What one move makes of the tasks, if it starts them only for some zones. -/
inductive Becomes (starts : DomainName → Prop) (s : Scheduler) : Scheduler → Prop
  | same : Becomes starts s s
  | started {zone : DomainName} {t : Scheduler} (named : starts zone) (start : s.start zone = .ok t) :
      Becomes starts s t
  | stopped {zone : DomainName} {t : Scheduler} (stop : s.stop zone = .ok t) : Becomes starts s t
  | slept {task : Task} (mem : task ∈ s.tasks) : Becomes starts s (s.sleep task)
  | told : Becomes starts s s.tell
  | finished (id : Nat) : Becomes starts s (s.finish id)

theorem Becomes.mono {p q : DomainName → Prop} (h : s.Becomes p t) (hpq : ∀ zone, p zone → q zone) :
    s.Becomes q t := by
  cases h with
  | same => exact .same
  | started hnamed hstart => exact .started (hpq _ hnamed) hstart
  | stopped hstop => exact .stopped hstop
  | slept hmem => exact .slept hmem
  | told => exact .told
  | finished id => exact .finished id

/-- Numbers are given once, and at most one task of each group goes on. -/
structure Proper (s : Scheduler) : Prop where
  fresh : ∀ t ∈ s.tasks, t.id < s.nextId
  distinct : s.tasks.Pairwise fun t u => t.id ≠ u.id
  unique : s.Unique

/-- The same task at a later time.  It may have been told to stop in between. -/
structure Aged (t u : Task) : Prop where
  id : t.id = u.id
  zone : t.zone = u.zone
  goes : u.stopped = false → t.stopped = false

/-- Tasks that are there later and are not new were there before. -/
structure Succeeds (s t : Scheduler) : Prop where
  later : s.nextId ≤ t.nextId
  old : ∀ task ∈ t.tasks, task.id < s.nextId → ∃ past ∈ s.tasks, Aged past task

theorem Aged.refl (t : Task) : Aged t t :=
  ⟨rfl, rfl, fun h => h⟩

theorem Aged.trans {t u v : Task} (h : Aged t u) (h' : Aged u v) : Aged t v :=
  ⟨h.id.trans h'.id, h.zone.trans h'.zone, fun hv => h.goes (h'.goes hv)⟩

theorem start_eq_ok (h : s.start zone = .ok t) : s.isRunning zone = false ∧ t = { s with
    tasks := s.tasks ++ [⟨s.nextId, zone, s.clock + s.interval, false⟩], nextId := s.nextId + 1 } := by
  rw [start] at h
  split at h
  · cases h
  · cases h
    exact ⟨Bool.eq_false_iff.2 ‹_›, rfl⟩

theorem stop_eq_ok (h : s.stop zone = .ok t) : s.isRunning zone = true ∧ t = { s with
    tasks := s.tasks.map fun t => if runs zone t then { t with stopped := true } else t } := by
  rw [stop] at h
  split at h
  · cases h
    exact ⟨‹_›, rfl⟩
  · cases h

theorem isRunning_eq_false : s.isRunning zone = false ↔
    ∀ t ∈ s.tasks, t.stopped = false → (t.zone == zone) = false := by
  rw [isRunning, List.any_eq_false]
  refine forall₂_congr fun t _ => ?_
  rw [runs]
  cases t.stopped <;> cases t.zone == zone <;> simp

/-- Some of the tasks are left, and some were told to stop. -/
theorem proper_of_fewer {f : Task → Task} {p : Task → Bool} (h : s.Proper)
    (hf : ∀ t, Aged t (f t)) (htasks : t.tasks = (s.tasks.filter p).map f)
    (hnext : t.nextId = s.nextId) : t.Proper where
  fresh u hu := by
    rw [htasks] at hu
    obtain ⟨v, hv, rfl⟩ := List.mem_map.1 hu
    rw [hnext, ← (hf v).id]
    exact h.fresh v (List.mem_filter.1 hv).1
  distinct := by
    rw [htasks, List.pairwise_map]
    refine (h.distinct.filter p).imp fun {u v} huv => ?_
    rw [← (hf u).id, ← (hf v).id]
    exact huv
  unique := by
    rw [Unique, htasks, List.pairwise_map]
    refine (List.Pairwise.filter p h.unique).imp fun {u v} huv hu hv => ?_
    rw [← (hf u).zone, ← (hf v).zone]
    exact huv ((hf u).goes hu) ((hf v).goes hv)

theorem aged_told (t : Task) : Aged t { t with stopped := true } :=
  ⟨rfl, rfl, nofun⟩

theorem isRunning_of_beq (s : Scheduler) (h : (z == zone) = true) :
    s.isRunning z = s.isRunning zone := by
  rw [isRunning, isRunning]
  congr 1
  funext t
  rw [runs, runs, BEq.congr_right h]

theorem tell_tasks (s : Scheduler) : s.tell.tasks
    = (s.tasks.filter fun _ => true).map fun t => { t with stopped := true } := by
  rw [List.filter_true]
  rfl

theorem finish_tasks (s : Scheduler) (id : Nat) :
    (s.finish id).tasks = (s.tasks.filter fun t => t.id != id).map fun t => t := by
  rw [List.map_id']
  rfl

theorem stop_tasks (h : s.stop zone = .ok t) : t.tasks = (s.tasks.filter fun _ => true).map
    fun t => if runs zone t then { t with stopped := true } else t := by
  rw [(stop_eq_ok h).2, List.filter_true]

theorem aged_stop (zone : DomainName) (t : Task) :
    Aged t (if runs zone t then { t with stopped := true } else t) := by
  split
  · exact aged_told t
  · exact .refl t

/-- Two tasks of a group that go on are the same. -/
theorem Proper.eq_of_zone (h : s.Proper) {t u : Task} (ht : t ∈ s.tasks) (hu : u ∈ s.tasks)
    (hzone : (t.zone == u.zone) = true) (ht' : t.stopped = false) (hu' : u.stopped = false) :
    t = u := by
  have hsymm : Std.Symm fun t u : Task =>
      t.stopped = false → u.stopped = false → (t.zone == u.zone) = false :=
    ⟨fun a b hab hb ha => BEq.comm.trans (hab ha hb)⟩
  by_contra hne
  rw [h.unique.forall ht hu hne ht' hu'] at hzone
  cases hzone

/-- A number belongs to one task. -/
theorem Proper.eq_of_id (h : s.Proper) {t u : Task} (ht : t ∈ s.tasks) (hu : u ∈ s.tasks)
    (hid : t.id = u.id) : t = u := by
  have hsymm : Std.Symm fun t u : Task => t.id ≠ u.id := ⟨fun _ _ => Ne.symm⟩
  by_contra hne
  exact h.distinct.forall ht hu hne hid

/-- **Every move keeps tasks proper.** -/
theorem proper_of_becomes {starts : DomainName → Prop} (h : s.Proper) (hb : s.Becomes starts t) :
    t.Proper := by
  cases hb with
  | same => exact h
  | started _ hstart =>
    refine ⟨fun u hu => ?_, ?_, start_unique h.unique hstart⟩
    all_goals obtain ⟨-, rfl⟩ := start_eq_ok hstart
    · rcases List.mem_append.1 hu with hu | hu
      · exact Nat.lt_succ_of_lt (h.fresh u hu)
      · rw [List.mem_singleton.1 hu]
        exact Nat.lt_succ_self _
    · refine List.pairwise_append.2 ⟨h.distinct, List.pairwise_singleton _ _, fun u hu v hv => ?_⟩
      rw [List.mem_singleton.1 hv]
      exact (h.fresh u hu).ne
  | stopped hstop =>
    exact proper_of_fewer h (aged_stop _) (stop_tasks hstop) (by rw [(stop_eq_ok hstop).2])
  | @slept task hmem =>
    refine ⟨fun u hu => ?_, ?_, ?_⟩
    · rcases List.mem_append.1 hu with hu | hu
      · exact h.fresh u (List.mem_filter.1 hu).1
      · rw [List.mem_singleton.1 hu]
        exact h.fresh task hmem
    · refine List.pairwise_append.2 ⟨h.distinct.filter _, List.pairwise_singleton _ _,
        fun u hu v hv => ?_⟩
      rw [List.mem_singleton.1 hv]
      exact bne_iff_ne.1 (List.mem_filter.1 hu).2
    · refine List.pairwise_append.2 ⟨List.Pairwise.filter _ h.unique, List.pairwise_singleton _ _,
        fun u hu v hv hu' hv' => ?_⟩
      obtain ⟨hu, hne⟩ := List.mem_filter.1 hu
      rw [List.mem_singleton] at hv
      subst hv
      refine Bool.eq_false_iff.2 fun hzone => bne_iff_ne.1 hne ?_
      rw [h.eq_of_zone hu hmem hzone hu' hv']
  | told => exact proper_of_fewer h aged_told (tell_tasks s) rfl
  | finished id => exact proper_of_fewer h .refl (finish_tasks s id) rfl

/-- **After a move** a task was there before, or it is new and for one of the zones that tasks are
started for. -/
theorem origin_of_becomes {starts : DomainName → Prop} (hb : s.Becomes starts t) {task : Task}
    (htask : task ∈ t.tasks) :
    (∃ past ∈ s.tasks, Aged past task) ∨ task.id = s.nextId ∧ starts task.zone := by
  have haged {f : Task → Task} {p : Task → Bool} (hf : ∀ t, Aged t (f t))
      (htasks : t.tasks = (s.tasks.filter p).map f) : ∃ past ∈ s.tasks, Aged past task := by
    rw [htasks] at htask
    obtain ⟨past, hpast, rfl⟩ := List.mem_map.1 htask
    exact ⟨past, (List.mem_filter.1 hpast).1, hf past⟩
  cases hb with
  | same => exact .inl ⟨task, htask, .refl task⟩
  | started hnamed hstart =>
    obtain ⟨-, rfl⟩ := start_eq_ok hstart
    rcases List.mem_append.1 htask with htask | htask
    · exact .inl ⟨task, htask, .refl task⟩
    · rw [List.mem_singleton.1 htask]
      exact .inr ⟨rfl, hnamed⟩
  | stopped hstop => exact .inl (haged (aged_stop _) (stop_tasks hstop))
  | @slept past hmem =>
    rcases List.mem_append.1 htask with htask | htask
    · exact .inl ⟨task, (List.mem_filter.1 htask).1, .refl task⟩
    · rw [List.mem_singleton.1 htask]
      exact .inl ⟨past, hmem, rfl, rfl, fun h => h⟩
  | told => exact .inl (haged aged_told (tell_tasks s))
  | finished id => exact .inl (haged .refl (finish_tasks s id))

theorem Succeeds.refl (s : Scheduler) : s.Succeeds s :=
  ⟨le_refl _, fun task htask _ => ⟨task, htask, .refl task⟩⟩

theorem Succeeds.trans (h : s.Succeeds t) (h' : t.Succeeds u) : s.Succeeds u where
  later := h.later.trans h'.later
  old task htask hid := by
    obtain ⟨past, hpast, haged⟩ := h'.old task htask (hid.trans_le h.later)
    obtain ⟨older, holder, haged'⟩ := h.old past hpast (haged.id ▸ hid)
    exact ⟨older, holder, haged'.trans haged⟩

theorem succeeds_of_becomes {starts : DomainName → Prop} (hb : s.Becomes starts t) :
    s.Succeeds t where
  later := by
    cases hb with
    | started _ hstart =>
      obtain ⟨-, rfl⟩ := start_eq_ok hstart
      exact Nat.le_succ _
    | stopped hstop =>
      obtain ⟨-, rfl⟩ := stop_eq_ok hstop
      exact le_refl _
    | same | slept _ | told | finished _ => exact le_refl _
  old task htask hid := (origin_of_becomes hb htask).resolve_right fun h => hid.ne h.1

end Scheduler

/-! ## 2. Moves -/

/-- What is shared: the session, and the groups that the start of the automation has read and not
yet started. -/
structure Moment (ω : Type) where
  session : Session ω
  waiting : List DomainName := []

/-- One of the things that happen in a daemon. -/
inductive Move
  | command (args : List String)
  /-- A task wakes, and it is its turn. -/
  | wake (id : Nat)
  /-- The start of the automation reads which groups to start. -/
  | read
  /-- It starts the next one of them. -/
  | launch
  /-- The end of the automation tells the tasks to stop. -/
  | tell
  /-- A task ends, for whatever reason. -/
  | finish (id : Nat)

namespace Move

/-- The moment after a move. -/
def take (c : Controller ω) : Move → Moment ω → Moment ω
  | .command args, m => { m with session := (c.execute args m.session).2 }
  | .wake id, m => { m with session := c.wake id m.session }
  | .read, m => { m with waiting := m.waiting ++ Controller.autostartZones m.session.state }
  | .launch, ⟨s, []⟩ => ⟨s, []⟩
  | .launch, ⟨s, zone :: rest⟩ => ⟨(Controller.startOne zone s).2, rest⟩
  | .tell, m =>
    { m with session := { m.session with scheduler := m.session.scheduler.tell } }
  | .finish id, m =>
    { m with session := { m.session with scheduler := m.session.scheduler.finish id } }

end Move

/-- What a command leaves is what it left before that was saved. -/
theorem Controller.ran_of_execute (c : Controller ω) (args : List String) (s : Session ω) :
    (c.execute args s).2.lasting = s.lasting ∨
      ∃ cmd r t, Command.parse c.mode args = .ok cmd ∧ cmd.run.perform c.outside s = (r, t) ∧
        (c.execute args s).2.lasting = t.lasting := by
  cases hparse : Command.parse c.mode args with
  | error e => exact .inl (Deed.TurnedAway.unread (e := ⟨.command args, s⟩) rfl hparse).lasting
  | ok cmd =>
    exact .inr ⟨cmd, _, _, rfl, rfl, Deed.lasting_of_parsed (e := ⟨.command args, s⟩) rfl hparse⟩

/-- What a task does when it is its turn.  A step begins with an empty transcript, and its lines
become events. -/
inductive Woken (c : Controller ω) (id : Nat) (s : Session ω) : Session ω → Prop
  | missing (none : s.scheduler.task? id = none) : Woken c id s s
  | ended {task : Task} (some : s.scheduler.task? id = some task) (told : task.stopped = true) :
      Woken c id s { s with scheduler := s.scheduler.finish id }
  | stepped {task : Task} {r : Except Error Unit} {u t : Session ω} {logs : List Event}
      (some : s.scheduler.task? id = some task) (going : task.stopped = false)
      (step : (step task.zone).perform c.outside { s with transcript := .empty } = (r, u))
      (state : t.state = u.state) (scheduler : t.scheduler = s.scheduler.sleep task)
      (plain : ∀ e ∈ logs, e.Plain)
      (events : t.events = u.events ++ logs) (deliveries : t.deliveries = u.deliveries) :
      Woken c id s t

theorem plain_logEvents (zone : DomainName) (lines : List String) (r : Except Error Unit) :
    ∀ e ∈ Controller.logEvents zone lines r, e.Plain := by
  intro e he
  rcases List.mem_append.1 he with he | he
  · obtain ⟨_, -, rfl⟩ := List.mem_map.1 he
    exact nofun
  · cases r with
    | ok _ => cases he
    | error _ =>
      rw [List.mem_singleton] at he
      subst he
      exact nofun

/-- **A task that was told to stop does nothing when it is its turn.** -/
theorem woken_of_wake (c : Controller ω) (id : Nat) (s : Session ω) :
    Woken c id s (c.wake id s) := by
  rw [Controller.wake]
  cases htask : s.scheduler.task? id with
  | none => exact .missing htask
  | some task =>
    simp only
    split
    · exact .ended htask ‹_›
    · have hlasting := Deed.lasting_of_tick (c := c)
        (e := ⟨.tick task.zone, { s with transcript := .empty }⟩) rfl
      rcases hstep : (step task.zone).perform c.outside { s with transcript := .empty } with ⟨r, u⟩
      rw [hstep] at hlasting
      obtain ⟨hstate, hscheduler, hevents, hdeliveries⟩ := Session.lasting_eq_iff.1 hlasting
      exact .stepped htask (Bool.eq_false_iff.2 ‹_›) hstep hstate
        (congrArg (fun s => s.sleep task) (hscheduler.trans (outcome_of_step hstep).scheduler))
        (plain_logEvents _ _ _) (congrArg (· ++ _) hevents) hdeliveries

theorem Scheduler.mem_of_task? {task : Task} (h : s.task? id = some task) :
    task ∈ s.tasks ∧ task.id = id :=
  ⟨List.mem_of_find?_eq_some h, by simpa using List.find?_some h⟩

/-- **What a command does to the tasks.**  Starting the automation of a group is the only one that
starts a task, and it does so for a group that is there. -/
theorem Command.becomes {cmd : Command} {s t : Session ω} {r : Except Error Unit}
    (h : s.state.Intact) (hrun : cmd.run.perform o s = (r, t)) :
    s.scheduler.Becomes (fun zone => cmd = .automateStart zone ∧
      (s.state.sight zone).isSome = true) t.scheduler := by
  have hsame {starts : DomainName → Prop} (h : t.scheduler = s.scheduler) :
      s.scheduler.Becomes starts t.scheduler := by
    rw [h]
    exact .same
  cases hasks : cmd.asks with
  | false =>
    cases outcome_of_command h hasks hrun with
    | refused hrest => exact hsame (Session.lasting_eq_iff.1 hrest).2.1
    | unseen hrest => exact hsame (congrArg (fun p => p.2.1) hrest)
    | removed _ _ hscheduler _ | announced _ _ _ hscheduler _ _ | listed _ _ hscheduler _ =>
      exact hsame hscheduler
    | started hthere hstart _ _ => exact .started ⟨rfl, hthere⟩ hstart
    | stopped _ hstop _ _ => exact .stopped hstop
  | true =>
    by_cases hstep : ∃ zone, cmd = .automateStep zone none
    · obtain ⟨zone, rfl⟩ := hstep
      rcases step_of_automateStep hrun with hrest | hstep
      · exact hsame (Session.lasting_eq_iff.1 hrest).2.1
      · exact hsame (outcome_of_step hstep).scheduler
    · exact hsame (congrArg (fun p => p.2.1)
        ((inward_of_asks hasks (not_exists.1 hstep)).rel_of_perform hrun))

namespace Move

variable {m : Moment ω}

/-- A move may start a task for a zone: a command for a group that is there, and the start of the
automation for a group that was there when it read the list. -/
inductive Starts (c : Controller ω) (m : Moment ω) : Move → DomainName → Prop
  | command {args : List String} {zone : DomainName}
      (parse : Command.parse c.mode args = .ok (.automateStart zone))
      (there : (m.session.state.sight zone).isSome = true) : Starts c m (.command args) zone
  | launch {zone : DomainName} (mem : zone ∈ m.waiting) : Starts c m .launch zone

/-- **What a move does to the tasks.** -/
theorem becomes_of_take (c : Controller ω) (move : Move) (h : m.session.state.Intact) :
    m.session.scheduler.Becomes (move.Starts c m) (move.take c m).session.scheduler := by
  obtain ⟨s, waiting⟩ := m
  cases move with
  | command args =>
    rcases c.ran_of_execute args s with hrest | ⟨cmd, r, t, hparse, hrun, hrest⟩
    · rw [take, (Session.lasting_eq_iff.1 hrest).2.1]
      exact .same
    · rw [take, (Session.lasting_eq_iff.1 hrest).2.1]
      refine (Command.becomes h hrun).mono fun zone hzone => ?_
      obtain ⟨rfl, hthere⟩ := hzone
      exact .command hparse hthere
  | wake id =>
    have hwoken := woken_of_wake c id s
    rw [take]
    generalize c.wake id s = t at hwoken ⊢
    cases hwoken with
    | missing _ => exact .same
    | ended _ _ => exact .finished id
    | stepped htask _ _ _ hscheduler _ _ _ =>
      rw [hscheduler]
      exact .slept (Scheduler.mem_of_task? htask).1
  | read => exact .same
  | launch =>
    cases waiting with
    | nil => exact .same
    | cons zone rest =>
      rw [take, Controller.startOne]
      cases hstart : s.scheduler.start zone with
      | error e => exact .same
      | ok scheduler => exact .started (.launch List.mem_cons_self) hstart
  | tell => exact .told
  | finish id => exact .finished id

/-- **A move leads to a document that can be reached.** -/
theorem reachable_of_take (c : Controller ω) (move : Move) (h : Reachable m.session.state) :
    Reachable (move.take c m).session.state := by
  obtain ⟨s, waiting⟩ := m
  cases move with
  | command args => exact .deed c (e := ⟨.command args, s⟩) h
  | wake id =>
    rw [take, Controller.wake]
    split
    · exact h
    · rename_i task _
      split
      · exact h
      · exact .deed c (e := ⟨.tick task.zone, { s with transcript := .empty }⟩) h
  | read => exact h
  | launch =>
    cases waiting with
    | nil => exact h
    | cons zone rest =>
      rw [take, Controller.startOne]
      cases s.scheduler.start zone <;> exact h
  | tell => exact h
  | finish id => exact h

end Move

/-- Time passes, and what the controller has told the outside is gone. -/
structure Moment.Passes (m n : Moment ω) : Prop where
  state : n.session.state = m.session.state
  tasks : n.session.scheduler.tasks = m.session.scheduler.tasks
  nextId : n.session.scheduler.nextId = m.session.scheduler.nextId
  waiting : n.waiting = m.waiting

/-- A move at the moment that it finds. -/
structure Happening (ω : Type) where
  move : Move
  before : Moment ω

/-- The moment that a move leaves. -/
def Happening.after (c : Controller ω) (x : Happening ω) : Moment ω :=
  x.move.take c x.before

/-- What happens between two moments, the earliest first.  Clock and outside may have become anything
in between. -/
inductive History (c : Controller ω) : Moment ω → List (Happening ω) → Moment ω → Prop
  | nil (m : Moment ω) : History c m [] m
  | cons {m n : Moment ω} {x : Happening ω} {hs : List (Happening ω)}
      (passes : m.Passes x.before) (rest : History c (x.after c) hs n) : History c m (x :: hs) n

/-- What holds at every moment. -/
structure Moment.Sound (m : Moment ω) : Prop where
  reachable : Reachable m.session.state
  proper : m.session.scheduler.Proper

namespace Moment

variable {m n : Moment ω}

theorem Passes.sound (h : m.Passes n) (hm : m.Sound) : n.Sound where
  reachable := by
    rw [h.state]
    exact hm.reachable
  proper := by
    refine ⟨?_, ?_, ?_⟩
    · rw [h.tasks, h.nextId]
      exact hm.proper.fresh
    · rw [h.tasks]
      exact hm.proper.distinct
    · rw [Scheduler.Unique, h.tasks]
      exact hm.proper.unique

theorem Passes.succeeds (h : m.Passes n) : m.session.scheduler.Succeeds n.session.scheduler where
  later := h.nextId.ge
  old task htask _ := ⟨task, h.tasks ▸ htask, .refl task⟩

theorem sound_of_take (c : Controller ω) (move : Move) (h : m.Sound) : (move.take c m).Sound where
  reachable := move.reachable_of_take c h.reachable
  proper := Scheduler.proper_of_becomes h.proper
    (move.becomes_of_take c h.reachable.intact)

/-- Nothing has happened yet. -/
theorem sound_of_no_tasks (h : Reachable m.session.state) (htasks : m.session.scheduler.tasks = []) :
    m.Sound := by
  refine ⟨h, ?_, ?_, ?_⟩
  · simp [htasks]
  · simp [htasks]
  · simp [Scheduler.Unique, htasks]

end Moment

namespace History

variable {first last : Moment ω} {hs past future : List (Happening ω)} {x : Happening ω}

/-- A history is what happens up to a move, the move, and what happens after it. -/
theorem split : ∀ {past : List (Happening ω)} {first : Moment ω},
    History c first (past ++ x :: future) last →
      ∃ m, History c first past m ∧ m.Passes x.before ∧ History c (x.after c) future last
  | [], first, h => by
    cases h with
    | cons hpasses hrest => exact ⟨first, .nil first, hpasses, hrest⟩
  | y :: past, first, h => by
    cases h with
    | cons hpasses hrest =>
      obtain ⟨m, hpast, hx, hfuture⟩ := split hrest
      exact ⟨m, .cons hpasses hpast, hx, hfuture⟩

/-- **Every moment of a history is sound.** -/
theorem sound (h : History c first hs last) (hfirst : first.Sound) : last.Sound := by
  induction h with
  | nil m => exact hfirst
  | cons hpasses _ ih => exact ih (Moment.sound_of_take c _ (hpasses.sound hfirst))

theorem sound_before (h : History c first (past ++ x :: future) last) (hfirst : first.Sound) :
    x.before.Sound := by
  obtain ⟨m, hpast, hpasses, -⟩ := h.split
  exact hpasses.sound (hpast.sound hfirst)

/-- **Tasks of later moments that are not new were there before.** -/
theorem succeeds (h : History c first hs last) (hfirst : first.Sound) :
    first.session.scheduler.Succeeds last.session.scheduler := by
  induction h with
  | nil m => exact .refl _
  | @cons m n x hs hpasses _ ih =>
    have hx := hpasses.sound hfirst
    have hmove := Scheduler.succeeds_of_becomes
      (x.move.becomes_of_take c hx.reachable.intact)
    exact (hpasses.succeeds.trans hmove).trans (ih (Moment.sound_of_take c _ hx))

end History

/-- What happens when these moves are made at a moment, one right after the other. -/
def Moment.happenings (c : Controller ω) : Moment ω → List Move → List (Happening ω)
  | _, [] => []
  | m, move :: rest => ⟨move, m⟩ :: (move.take c m).happenings c rest

/-- The moment after them. -/
def Moment.makes (c : Controller ω) (m : Moment ω) (moves : List Move) : Moment ω :=
  moves.foldl (fun m move => move.take c m) m

/-- **Moves that are made make a history.** -/
theorem history_happenings (c : Controller ω) : ∀ (moves : List Move) (m : Moment ω),
    History c m (m.happenings c moves) (m.makes c moves)
  | [], m => .nil m
  | move :: rest, m => .cons ⟨rfl, rfl, rfl, rfl⟩ (history_happenings c rest (move.take c m))

end MultiSigner
