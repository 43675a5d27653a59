import MultiSigner.Command.Parser
import MultiSigner.Command.Run
/-!
# The controller

All commands and all automation steps of a process are run here, one after the other, and the state
document is saved after each.  A failing command is saved too, since it may have moved its group to
the error stage.

## Contents

1. Commands.
2. Automation tasks.
3. Observers, start and end.
-/

namespace MultiSigner

/-- What does not change while a process runs. -/
structure Controller (ω : Type) where
  mode : Mode
  outside : Outside ω

namespace Controller

variable {ω : Type}

/-! ## 1. Commands -/

/-- Runs a command and saves the document.  The failure of the command goes before that of
saving. -/
def command (mode : Mode) (args : List String) : Operation ω Unit := do
  let result ← Operation.attempt (do (← Command.parse mode args).run)
  let saved ← Operation.attempt Operation.save
  result
  saved

/-- Runs the command that the arguments name. -/
def execute (c : Controller ω) (args : List String) (s : Session ω) :
    Except Error Unit × Session ω :=
  (command c.mode args).perform c.outside s

/-! ## 2. Automation tasks -/

/-- A step of a group that is automated. -/
def tick (zone : DomainName) : Operation ω Unit := do
  let result ← Operation.attempt (Automation.step zone)
  let saved ← Operation.attempt Operation.save
  result
  saved

/-- What observers are told of a step: its lines and its failure. -/
def logEvents (zone : DomainName) (lines : List String) (result : Except Error Unit) :
    List Event :=
  lines.map (fun text => .log s!"{zone}: {text}")
    ++ match result with
      | .ok _ => []
      | .error e => [.log s!"{zone}: error: {e.message}"]

/-- Wakes a task.  One that was told to stop ends; any other one does a step and sleeps again. -/
def wake (c : Controller ω) (id : Nat) (s : Session ω) : Session ω :=
  match s.scheduler.task? id with
  | none => s
  | some task =>
    if task.stopped then { s with scheduler := s.scheduler.finish id }
    else
      let (result, t) := (tick task.zone).perform c.outside { s with transcript := .empty }
      { t with
        scheduler := t.scheduler.sleep task
        transcript := s.transcript
        events := t.events ++ logEvents task.zone t.transcript.lines result }

/-- Wakes the tasks that are due. -/
def wakeDue (c : Controller ω) (s : Session ω) : Session ω :=
  s.scheduler.due.foldl (fun s id => c.wake id s) s

/-! ## 3. Observers, start and end -/

/-- What an observer is told first. -/
def current (s : Session ω) : List Event :=
  Event.statuses s.state

/-- The groups to start with the daemon. -/
def autostartZones (s : State) : List DomainName :=
  s.autostart.filter s.groups.contains

/-- Starts a task for one of these groups, if there is none; tells whether there is one more. -/
def startOne (zone : DomainName) (s : Session ω) : Bool × Session ω :=
  match s.scheduler.start zone with
  | .ok scheduler => (true, { s with scheduler := scheduler })
  | .error _ => (false, s)

/-- Starts the automation of the groups that start with the daemon, and counts them. -/
def autostart (s : Session ω) : Nat × Session ω :=
  (autostartZones s.state).foldl (fun (count, s) zone =>
    let (started, s) := startOne zone s
    (if started then count + 1 else count, s)) (0, s)

/-- Stops the automation and saves the document. -/
def shutdown (c : Controller ω) (s : Session ω) : Except Error Unit × Session ω :=
  (Operation.save).perform c.outside { s with scheduler := s.scheduler.shutdown }

end Controller
end MultiSigner
