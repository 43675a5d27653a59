import MultiSigner.CommandLine
import MultiSigner.Net.Endpoint
import MultiSigner.State.File
import MultiSigner.Update.Signed
/-!
# Processes in a directory in memory

Runs the program in a directory that is a list of files, on a host without a network.  Every process
reads the configuration and the state file anew and leaves the files for the next one.

## Contents

1. Directories.
2. The outside.
3. Processes.
-/

namespace MultiSigner.Rehearsal

/-! ## 1. Directories -/

/-- The files of a directory without others below it. -/
structure Directory where
  files : OrderedMap String String := .empty

namespace Directory

/-- The name of a file in the directory, if the path names one. -/
def fileName? (path : String) : Option String :=
  let name := if path.startsWith "./" then (path.drop 2).toString else path
  if name.isEmpty || name.toList.contains '/' || name == "." || name == ".." then none
  else some name

/-- The text of a file that can be read. -/
def read? (d : Directory) (path : String) : Option String :=
  (fileName? path).bind d.files.get?

/-- What stands at a path. -/
def disk (d : Directory) (path : String) : Disk :=
  match fileName? path with
  | none => .unusable
  | some name =>
    match d.files.get? name with
    | some text => .file text
    | none => .missing

/-- The directory in which something else stands at a path. -/
def withDisk (d : Directory) (path : String) (disk : Disk) : Directory :=
  match fileName? path, disk with
  | some name, .file text => { d with files := d.files.insert name text }
  | _, _ => d

end Directory

/-! ## 2. The outside -/

/-- A directory, a clock, and the state that is known to stand in the state file. -/
structure Host where
  directory : Directory
  clock : Timestamp
  written : State

/-- Why no server answers. -/
def noServer (server : String) : String :=
  match Net.Endpoint.ofString server with
  | .error fault => fault.message
  | .ok (.address _) => "io error: Network is unreachable (os error 101)"
  | .ok (.host _ _) =>
    "failed to lookup address information: Temporary failure in name resolution"

/-- An exchange with a server that does not answer. -/
def noExchange {ω : Type} : Exchange ω := fun server _ _ w =>
  (.error (.transport server (noServer server)), w)

/-- Saves the state document at a path. -/
def saveAt (path : String) (s : State) (h : Host) : Except Error Unit × Host :=
  let (result, store, disk) :=
    (StateStore.mk s h.written).saveDisk (h.directory.disk path) .done
  (result, { h with directory := h.directory.withDisk path disk, written := store.saved })

/-- The outside of a process without a network, which saves at a path. -/
def hostOutside (path : String) : Outside Host where
  now h := h.clock
  query server _ _ h := (.error (.transport server (noServer server)), h)
  updater := SignedUpdate.updaters noExchange
  save := saveAt path

/-! ## 3. Processes -/

/-- Runs a command on the state file. -/
def runHere (clock : Timestamp) (config : Config) (args : List String) (d : Directory) :
    Ending × Directory :=
  let path := config.statePath
  let (opened, disk) := StateStore.openDisk (d.disk path) .done
  let d := d.withDisk path disk
  match opened with
  | .error e => (Ending.ofResult [] (.error e), d)
  | .ok store =>
    let (ending, host) :=
      CommandLine.runOnce (hostOutside path) config args store.state ⟨d, clock, store.saved⟩
    (ending, host.directory)

/-- Runs the program; a daemon is told to end at once. -/
def runProcess (clock : Timestamp) (i : Invocation) (d : Directory) : Ending × Directory :=
  let config := match i.configPath? with
    | some path => Config.ofFile (d.read? path)
    | none => .error .io
  match i.assignment config with
  | .refuse message => (⟨[], some message⟩, d)
  | .forward _ _ args =>
    let (lines, result) := Rpc.Client.execute (fun _ => .error Rpc.Client.unreachable) args
    (Ending.ofResult lines result, d)
  | .serve config =>
    let (opened, disk) := StateStore.openDisk (d.disk config.statePath) .done
    (Ending.ofResult [] (opened.map fun _ => ()), d.withDisk config.statePath disk)
  | .runOnce config args => runHere clock config args d

end MultiSigner.Rehearsal
