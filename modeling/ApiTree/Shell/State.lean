import ApiTree.Files.Disk
import ApiTree.Shell.Bytes

namespace ApiTree.Shell

open ApiTree.Files (Disk FileFault Place joinPath isAbsolute)

/-!
# The state of a running script

A script runs on a disk, with variables, arguments and streams.  Output goes to
a file, to the log of errors, to whatever collects the output of a command, or
nowhere.  Time passes only while a command waits.
-/

/-- Where output goes. -/
inductive Channel where
  | discard
  | log
  | collect
  | file (place : Place)
  deriving Repr, DecidableEq

/-- How a command ends: the script goes on, ends, is killed, or runs too long. -/
inductive Flow where
  | next
  | leave
  | killed (signal : Nat)
  | outOfTime
  /-- A number of loops around is left. -/
  | leaveLoops (count : Nat)
  /-- A number of loops but one is left, and that one goes on. -/
  | nextRound (count : Nat)
  deriving Repr, DecidableEq

/-- The state of a script. -/
structure State where
  disk : Disk
  /-- The time that has passed, in milliseconds. -/
  clock : Nat := 0
  /-- The time that the script may take. -/
  limit : Nat
  bindings : List (Bytes × Bytes) := []
  name : Bytes := []
  arguments : List Bytes := []
  /-- The working directory, as a path from where the script was started. -/
  directory : String := ""
  /-- The status of the last command. -/
  status : Nat := 0
  /-- Whether a command that fails ends the script. -/
  stopsOnFailure : Bool := false
  input : Bytes := []
  output : Channel := .discard
  error : Channel := .log
  collected : Bytes := []
  logged : Bytes := []

/-- The path of a file that keeps nothing. -/
def discardPath : String := "/dev/null"

/-- The number of the process that runs a script. -/
def processNumber : Nat := 4242

namespace State

/-- The state with a status. -/
def withStatus
    (state : State)
    (status : Nat) :
    State :=
  { state with status := status }

/-- The path of a name as seen from where the script was started. -/
def resolve
    (state : State)
    (name : Bytes) :
    String :=
  let path := toName name
  if path.isEmpty || isAbsolute path then path else joinPath state.directory path

/-- The value of a variable. -/
def valueOf?
    (state : State)
    (name : Bytes) :
    Option Bytes :=
  state.bindings.lookup name

/-- The state with a variable set. -/
def setVariable
    (state : State)
    (name value : Bytes) :
    State :=
  { state with
    bindings := (name, value) :: state.bindings.filter (·.1 != name) }

/-- The state with bytes put out on a channel. -/
def emit
    (state : State)
    (channel : Channel)
    (bytes : Bytes) :
    State :=
  match channel with
  | .discard => state
  | .log => { state with logged := state.logged ++ bytes }
  | .collect => { state with collected := state.collected ++ bytes }
  | .file place =>
      match state.disk.entry? place with
      | some (.file content isExecutable) =>
          { state with
            disk := state.disk.put place
              (.file (content ++ toContent bytes) isExecutable) }
      | _ => state

/-- The state with bytes put out as output. -/
def print
    (state : State)
    (bytes : Bytes) :
    State :=
  state.emit state.output bytes

/-- The state with a line put out as error. -/
def report
    (state : State)
    (text : String) :
    State :=
  state.emit state.error (ofText text ++ ['\n'])

/-- The state with an error of the script at a line. -/
def reportAt
    (state : State)
    (line : Nat)
    (text : String) :
    State :=
  state.report (toName state.name ++ ": " ++ toString line ++ ": " ++ text)

/-- Waits for a time. -/
def wait
    (state : State)
    (milliseconds : Nat) :
    Flow × State :=
  let later := { state with clock := state.clock + milliseconds }
  if state.limit < later.clock then (.outOfTime, later) else (.next, later.withStatus 0)

/-- Opens a file to be written; it is made empty unless it is appended to. -/
def openFile
    (state : State)
    (path : String)
    (appends : Bool) :
    Except FileFault (Channel × State) := do
  if path = discardPath then
    return (.discard, state)
  let place ← state.disk.locate path
  match state.disk.entry? place with
  | some .directory => .error .isDirectory
  | some (.file content isExecutable) =>
      .ok
        ( .file place,
          { state with
            disk := state.disk.put place
              (.file (if appends then content else ByteArray.empty) isExecutable) } )
  | none => do
      let holder ← state.disk.holder path
      match state.disk.entry? holder with
      | some .directory =>
          .ok
            ( .file place,
              { state with disk := state.disk.put place (.file ByteArray.empty false) } )
      | _ => .error .missing

/-- A value of a parameter: nothing if it is not set. -/
def parameter?
    (state : State)
    (name : Bytes) :
    Option Bytes :=
  match decimal? name with
  | some 0 => some state.name
  | some (index + 1) => state.arguments[index]?
  | none =>
      match name with
      | ['#'] => some (ofText (toString state.arguments.length))
      | ['?'] => some (ofText (toString state.status))
      | ['$'] => some (ofText (toString processNumber))
      | ['*'] => some (List.intercalate [' '] state.arguments)
      | ['@'] => some (List.intercalate [' '] state.arguments)
      | ['-'] | ['!'] => some []
      | _ => state.valueOf? name

end State

end ApiTree.Shell
