import ApiTree.Files.Disk
import ApiTree.Interp.Trace

namespace ApiTree.Interp

open ApiTree.Files (Disk joinPath)

/-!
# Finding an interpreter

An interpreter that is asked for is taken if it exists, or if a command of that
name is on the search path.  Otherwise one variable may name it, an active
virtual environment may hold it, and last the search path is looked through.
A candidate that cannot be run is passed over.
-/

/-- What an interpreter is looked for in. -/
structure Environment where
  bindings : List (String × String) := []
  /-- The directories in which commands are looked for. -/
  searchPath : List String := []
  disk : Disk := {}

/-- The variable that names the active virtual environment. -/
def virtualVariable : String := "VIRTUAL_ENV"

/-- The names of interpreters, the preferred one first. -/
def interpreterNames : List String :=
  ["python3", "python"]

namespace Environment

/-- The value of a variable, if it has one that is not empty. -/
def valueOf?
    (environment : Environment)
    (name : String) :
    Option String :=
  (environment.bindings.lookup name).filter (!·.isEmpty)

/-- The path of a command on the search path. -/
def onSearchPath?
    (environment : Environment)
    (name : String) :
    Option String :=
  (environment.searchPath.map fun directory => joinPath directory name).find?
    environment.disk.isRunnableFile

/-- The path of a command: a path as it is, a bare name on the search path. -/
def command?
    (environment : Environment)
    (name : String) :
    Option String :=
  if name.isEmpty then
    none
  else if name.toList.contains '/' then
    if environment.disk.isRunnableFile name then some name else none
  else
    environment.onSearchPath? name

end Environment

/-- Where an interpreter was found. -/
inductive InterpreterSource where
  | requested
  | variable
  | virtualEnvironment
  | searchPath
  deriving Repr, DecidableEq

/-- The text of a source. -/
def InterpreterSource.text : InterpreterSource → String
  | .requested => "--python"
  | .variable => "$" ++ interpreterVariable
  | .virtualEnvironment => "$" ++ virtualVariable
  | .searchPath => "$PATH"

/-- An interpreter that was found. -/
structure FoundInterpreter where
  path : String
  source : InterpreterSource
  deriving Repr, DecidableEq

/-- Why a place gives no interpreter. -/
inductive Shortcoming where
  | notSet
  | notFound
  | nonexistent
  | notExecutable
  deriving Repr, DecidableEq

/-- The text of a shortcoming. -/
def Shortcoming.text : Shortcoming → String
  | .notSet => "not set"
  | .notFound => "not found"
  | .nonexistent => "path does not exist"
  | .notExecutable => "not executable"

/-- The record of a place that gives no interpreter. -/
def attempt
    (source : String)
    (found : Option String)
    (shortcoming : Shortcoming) :
    Attempt :=
  ⟨source, found, shortcoming.text⟩

namespace Environment

/-- The interpreter that the variable names. -/
def fromVariable (environment : Environment) : Except Attempt FoundInterpreter :=
  let source := InterpreterSource.variable.text
  match environment.valueOf? interpreterVariable with
  | none => .error (attempt source none .notSet)
  | some path =>
      if !environment.disk.exists? path then
        .error (attempt source (some path) .nonexistent)
      else if !environment.disk.isRunnable path then
        .error (attempt source (some path) .notExecutable)
      else
        .ok ⟨path, .variable⟩

/-- The interpreter in the active virtual environment. -/
def fromVirtualEnvironment
    (environment : Environment) :
    Except Attempt FoundInterpreter :=
  let source := InterpreterSource.virtualEnvironment.text
  match environment.valueOf? virtualVariable with
  | none => .error (attempt source none .notSet)
  | some directory =>
      let candidates :=
        interpreterNames.map (joinPath (joinPath directory "bin"))
      match candidates.find? environment.disk.isRunnable with
      | some path => .ok ⟨path, .virtualEnvironment⟩
      | none => .error (attempt source none .notFound)

/-- The interpreter on the search path. -/
def fromSearchPath (environment : Environment) : Except Attempt FoundInterpreter :=
  match interpreterNames.findSome? environment.onSearchPath? with
  | some path => .ok ⟨path, .searchPath⟩
  | none =>
      .error (attempt (InterpreterSource.searchPath.text ++ " (python3/python)")
        none .notFound)

/-- The interpreter that was asked for. -/
def requested
    (environment : Environment)
    (path : String) :
    Except DiscoveryError FoundInterpreter :=
  if environment.disk.exists? path then
    .ok ⟨path, .requested⟩
  else
    match environment.command? path with
    | some found => .ok ⟨found, .requested⟩
    | none => .error (.explicitMissing path)

/-- The first interpreter that a list of places gives, or why none does. -/
def firstFound
    (attempts : List Attempt) :
    List (Except Attempt FoundInterpreter) → Except DiscoveryError FoundInterpreter
  | [] => .error (.notFound attempts)
  | .ok found :: _ => .ok found
  | .error failed :: rest => firstFound (attempts ++ [failed]) rest

/-- Finds an interpreter: the one that was asked for, or any. -/
def findInterpreter
    (environment : Environment)
    (path : Option String) :
    Except DiscoveryError FoundInterpreter :=
  match path with
  | some path => environment.requested path
  | none =>
      firstFound [attempt InterpreterSource.requested.text none .notSet]
        [ environment.fromVariable,
          environment.fromVirtualEnvironment,
          environment.fromSearchPath ]

end Environment

end ApiTree.Interp
