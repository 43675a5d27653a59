import MultiSigner.Config
import MultiSigner.Controller
import MultiSigner.Rpc.Client
/-!
# The command line

A process is started with the path of a configuration file and a command.  It sends the command to
the daemon that the configuration names, or is itself the daemon, or runs the command on the state
file.

A process that fails prints the failure on its error output and ends with another status than zero.

## Contents

1. What a process is asked to do.
2. How a process ends.
3. Running a command.
-/

namespace MultiSigner

/-! ## 1. What is asked -/

/-- How a process was started. -/
structure Invocation where
  program : String
  args : List String
  deriving Repr, DecidableEq

/-- What a process has to do. -/
inductive Assignment
  | refuse (message : String)
  /-- Send the command to a daemon. -/
  | forward (config : Config) (daemon : Net.SocketAddress) (args : List String)
  /-- Be the daemon. -/
  | serve (config : Config)
  /-- Run the command on the state file. -/
  | runOnce (config : Config) (args : List String)
  deriving Repr, DecidableEq

namespace Invocation

/-- The path of the configuration file. -/
def configPath? (i : Invocation) : Option String :=
  i.args.head?

/-- How the program is to be started. -/
def usage (i : Invocation) : String :=
  s!"usage: {i.program} /path/to/config.json <command> [args...]"

/-- What has to be done for a command. -/
def assignCommand (config : Config) (command : String) (args : List String) : Assignment :=
  match config.remote with
  | some daemon =>
    if command = Rpc.daemonCommand then .refuse (Error.noRemoteCall command).message
    else .forward config daemon (command :: args)
  | none =>
    if command = Rpc.daemonCommand then .serve config else .runOnce config (command :: args)

/-- What has to be done, where `config` is what the configuration file says. -/
def assignment (i : Invocation) (config : Except Error Config) : Assignment :=
  match i.args with
  | [] => .refuse i.usage
  | _ :: rest =>
    match config with
    | .error e => .refuse e.message
    | .ok c =>
      match rest with
      | [] => .refuse (i.usage ++ " (try help)")
      | command :: args => assignCommand c command args

end Invocation

/-! ## 2. Endings -/

/-- What a process printed, and why it failed. -/
structure Ending where
  lines : List String := []
  failure : Option String := none
  deriving Repr, DecidableEq

namespace Ending

/-- The end of a process that reported lines. -/
def ofResult (lines : List String) (result : Except Error Unit) : Ending :=
  match result with
  | .ok _ => ⟨lines, none⟩
  | .error e => ⟨lines, some e.message⟩

/-- The exit status. -/
def status (e : Ending) : Nat :=
  if e.failure.isSome then 1 else 0

/-- What is printed. -/
def output (e : Ending) : String :=
  (Transcript.mk e.lines).text

/-- The line on the error output. -/
def errorLine (e : Ending) : Option String :=
  e.failure.map fun message => s!"Error: {message}"

end Ending

/-! ## 3. Running a command -/

namespace CommandLine

variable {ω : Type}

/-- The session of a process that has opened its state file. -/
def session (config : Config) (state : State) (world : ω) : Session ω :=
  { state := state, world := world, scheduler := { interval := config.interval } }

/-- Runs a command, and tells how the process ends and what it leaves outside. -/
def runOnce (o : Outside ω) (config : Config) (args : List String) (state : State) (world : ω) :
    Ending × ω :=
  let (result, s) := (Controller.mk .once o).execute args (session config state world)
  (Ending.ofResult s.transcript.lines result, s.world)

end CommandLine
end MultiSigner
