import MultiSigner.Error
/-!
# Automation tasks

A task steps the automation of one group again and again, `interval` seconds apart.  Tasks are
stopped by telling them so: a task that was told to stop ends when it wakes and does nothing more.
Times are seconds of the scheduler's own clock.

Main statement: `Scheduler.start_unique` (if at most one task of each group goes on, that is so
after another one was started).

## Contents

1. Tasks.
2. Starting and stopping.
3. Waking.
-/

namespace MultiSigner

/-! ## 1. Tasks -/

/-- A task that has not ended. -/
structure Task where
  id : Nat
  zone : DomainName
  /-- When it wakes. -/
  due : Nat
  /-- Whether it was told to stop. -/
  stopped : Bool
  deriving Repr, DecidableEq

/-- The tasks of a daemon, in the order in which they went to sleep. -/
structure Scheduler where
  interval : Nat
  clock : Nat := 0
  tasks : List Task := []
  nextId : Nat := 0
  deriving Repr, DecidableEq

namespace Scheduler

/-- Whether a task is one of the group and goes on. -/
def runs (zone : DomainName) (t : Task) : Bool :=
  t.zone == zone && !t.stopped

/-- Whether the group has a task that goes on. -/
def isRunning (s : Scheduler) (zone : DomainName) : Bool :=
  s.tasks.any (runs zone)

/-- Puts a name in its place among names in order. -/
def insertName (n : DomainName) : List DomainName → List DomainName
  | [] => [n]
  | m :: rest => if compare m n == .gt then n :: m :: rest else m :: insertName n rest

/-- The groups whose tasks go on, in the order of their names. -/
def running (s : Scheduler) : List DomainName :=
  ((s.tasks.filter fun t => !t.stopped).map Task.zone).foldr insertName []

/-! ## 2. Starting and stopping -/

/-- Starts a task for a group that has none. -/
def start (s : Scheduler) (zone : DomainName) : Except Error Scheduler :=
  if s.isRunning zone then .error (.automationRunning zone)
  else .ok { s with
    tasks := s.tasks ++ [⟨s.nextId, zone, s.clock + s.interval, false⟩]
    nextId := s.nextId + 1 }

/-- Tells the task of a group to stop. -/
def stop (s : Scheduler) (zone : DomainName) : Except Error Scheduler :=
  if s.isRunning zone then
    .ok { s with tasks := s.tasks.map fun t => if runs zone t then { t with stopped := true } else t }
  else .error (.automationNotRunning zone)

/-- Tells all tasks to stop, and waits for their end. -/
def shutdown (s : Scheduler) : Scheduler :=
  { s with tasks := [] }

/-- Lets the tasks that were told to stop end.  Without an interval no task can sleep, and every
one ends. -/
def settle (s : Scheduler) : Scheduler :=
  { s with tasks := s.tasks.filter fun t => !t.stopped && s.interval != 0 }

/-! ## 3. Waking -/

/-- The task of the given number. -/
def task? (s : Scheduler) (id : Nat) : Option Task :=
  s.tasks.find? fun t => t.id == id

/-- Ends a task. -/
def finish (s : Scheduler) (id : Nat) : Scheduler :=
  { s with tasks := s.tasks.filter fun t => t.id != id }

/-- Lets a task sleep for another interval. -/
def sleep (s : Scheduler) (t : Task) : Scheduler :=
  { s with tasks := (s.tasks.filter fun u => u.id != t.id)
      ++ [{ t with due := s.clock + s.interval }] }

/-- The clock a second later. -/
def tick (s : Scheduler) : Scheduler :=
  { s with clock := s.clock + 1 }

/-- The tasks that have to wake by now. -/
def due (s : Scheduler) : List Nat :=
  (s.tasks.filter fun t => t.due ≤ s.clock).map Task.id

/-- At most one task of each group goes on. -/
def Unique (s : Scheduler) : Prop :=
  s.tasks.Pairwise fun t u => t.stopped = false → u.stopped = false → (t.zone == u.zone) = false

theorem start_unique {s t : Scheduler} {zone : DomainName} (h : s.Unique)
    (hs : s.start zone = .ok t) : t.Unique := by
  simp only [start] at hs
  split at hs
  · cases hs
  · rename_i hr
    cases hs
    simp only [Unique, List.pairwise_append]
    refine ⟨h, List.pairwise_singleton .., fun u hu v hv hus _ => ?_⟩
    rw [List.mem_singleton] at hv
    subst hv
    simp only [isRunning, runs, List.any_eq_true, not_exists, not_and] at hr
    have := hr u hu
    simpa [hus] using this

end Scheduler
end MultiSigner
