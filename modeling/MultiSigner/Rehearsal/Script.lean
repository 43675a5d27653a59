import MultiSigner.Controller
import MultiSigner.Rehearsal.Network
/-!
# Scripts

A script is a list of steps, played one after the other by a controller on a network in memory:
commands, changes to the network, and the passing of time.  Each step gives a reply and leaves
events, updates and perhaps another saved document.

## Contents

1. Steps and replies.
2. Time.
3. Playing a step.
-/

namespace MultiSigner.Rehearsal

/-! ## 1. Steps and replies -/

/-- A step of a script. -/
inductive Step
  | command (args : List String)
  | serve (server : String) (records : List Record)
  | add (server : String) (records : List Record)
  | unplug (server : String)
  | reject (server : String) (rcode : Option String)
  | mute (server : String) (kinds : List RecordKind)
  | inspect (server : String)
  /-- Sets the clock; tasks sleep on. -/
  | setClock (time : Timestamp)
  /-- Moves the clock; tasks sleep on. -/
  | skip (seconds : Int)
  /-- Lets time pass. -/
  | advance (seconds : Nat)
  | autostart
  | running
  | subscribe
  | shutdown
  | failSaves (fail : Bool)
  /-- A new process starts from the saved document. -/
  | reload

/-- What a step answers. -/
inductive Reply
  | none
  | finished (lines : List String) (result : Except Error Unit)
  | records (found : Option (List Record))
  | started (count : Nat)
  | running (zones : List DomainName)
  | current (events : List Event)

/-- What a step answers and leaves. -/
structure Outcome where
  reply : Reply
  events : List Event
  deliveries : List Delivery
  /-- The document that was saved before the step, and the one after it. -/
  before : State
  after : State

/-- The settings of a script. -/
structure Setting where
  mode : Mode := .once
  interval : Nat := 10
  usable : List UpdaterKind := [.nsupdate]

/-- The controller of a script. -/
def Setting.controller (p : Setting) : Controller World := ⟨p.mode, outside p.usable⟩

/-- The session of a new process. -/
def Setting.session (p : Setting) (state : State) (world : World) : Session World :=
  { state := state, world := world, scheduler := { interval := p.interval } }

/-! ## 2. Time -/

/-- Changes the network. -/
def onNetwork (f : Network → Network) (s : Session World) : Session World :=
  { s with world := { s.world with network := f s.world.network } }

/-- Moves the clock. -/
def skip (seconds : Int) (s : Session World) : Session World :=
  { s with world := { s.world with clock := s.world.clock.addSeconds seconds } }

/-- Lets a second pass and wakes the tasks that are due then. -/
def passSecond (p : Setting) (s : Session World) : Session World :=
  let s := skip 1 s
  p.controller.wakeDue { s with scheduler := s.scheduler.tick }

/-- Lets seconds pass. -/
def pass (p : Setting) : Nat → Session World → Session World
  | 0, s => s
  | n + 1, s => pass p n (passSecond p s)

/-! ## 3. Playing a step -/

/-- The reply of something that reports lines. -/
def finished (r : Except Error Unit × Session World) : Reply × Session World :=
  (.finished r.2.transcript.lines r.1, r.2)

/-- What a step does. -/
def act (p : Setting) (s : Session World) : Step → Reply × Session World
  | .command args => finished (p.controller.execute args s)
  | .serve server records => (.none, onNetwork (·.serve server records) s)
  | .add server records => (.none, onNetwork (·.add server records) s)
  | .unplug server => (.none, onNetwork (·.unplug server) s)
  | .reject server rcode => (.none, onNetwork (·.reject server rcode) s)
  | .mute server kinds => (.none, onNetwork (·.mute server kinds) s)
  | .inspect server => (.records (s.world.network.records? server), s)
  | .setClock time => (.none, { s with world := { s.world with clock := time } })
  | .skip seconds => (.none, skip seconds s)
  | .advance seconds => (.none, pass p seconds s)
  | .autostart =>
    let (count, s) := Controller.autostart s
    (.started count, s)
  | .running => (.running s.scheduler.running, s)
  | .subscribe => (.current (Controller.current s), s)
  | .shutdown => finished (p.controller.shutdown s)
  | .failSaves fail => (.none, { s with world := { s.world with savesFail := fail } })
  | .reload => (.none, p.session s.world.saved s.world)

/-- Plays a step. -/
def play (p : Setting) (s : Session World) (step : Step) : Outcome × Session World :=
  let s := { s with transcript := .empty, events := [], deliveries := [] }
  let (reply, t) := act p s step
  (⟨reply, t.events, t.deliveries, s.world.saved, t.world.saved⟩,
    { t with scheduler := t.scheduler.settle })

/-- Plays a script. -/
def playAll (p : Setting) : List Step → Session World → List Outcome
  | [], _ => []
  | step :: rest, s =>
    let (outcome, s) := play p s step
    outcome :: playAll p rest s

end MultiSigner.Rehearsal
