import ApiTree.Command.Arguments
import ApiTree.Convert.Run

namespace ApiTree.Command

open ApiTree.Convert
open ApiTree.Files (Disk FileFault)

/-!
# Executing a command line

A command line ends with an exit code and what it prints.  A run prints one
envelope: its report, or its failure.
-/

/-- How a command line ends. -/
structure Outcome where
  exitCode : Nat
  output : String
  disk : Disk

/-- The exit code of arguments that ask for no run. -/
def Ending.exitCode : Ending → Nat
  | .usage => 2
  | .help | .version => 0

/-- What is printed for arguments that ask for no run. -/
def Ending.output : Ending → String
  | .usage => ""
  | .help => helpText
  | .version => versionText

/-- The settings of a run: those of a file, overridden by arguments. -/
def settingsFor
    (read : String → Except FileFault String)
    (arguments : Arguments) :
    Except SettingsError Settings :=
  (Settings.load read arguments.config).map fun settings =>
    settings.override arguments.interpreter arguments.projectName

/-- What arguments ask for. -/
def requestFor
    (arguments : Arguments)
    (settings : Settings) :
    Request :=
  { input := arguments.input
    output := arguments.output
    settings := settings
    resolvesTypes := !arguments.noTypeResolution }

/-- The end of a run that failed. -/
def failedOutcome
    (mishaps : Mishaps)
    (failure : Failure)
    (disk : Disk) :
    Outcome :=
  { exitCode := failure.code
    output := if mishaps.print.isSome then "" else envelope failure.json
    disk := disk }

/-- The end of a run that succeeded: printing its report may still fail. -/
def finishedOutcome
    (mishaps : Mishaps)
    (report : Report)
    (disk : Disk) :
    Outcome :=
  match mishaps.print with
  | some fault => failedOutcome mishaps (.internal fault.text) disk
  | none => { exitCode := 0, output := envelope report.json, disk := disk }

/-- Executes arguments that ask for a run. -/
def executeRun
    (launcher : Settings → Launcher)
    (mishaps : Mishaps)
    (disk : Disk)
    (arguments : Arguments) :
    Outcome :=
  let read path := step mishaps.readSettings (disk.readText path)
  match settingsFor read arguments with
  | .error error => failedOutcome mishaps error.failure disk
  | .ok settings =>
      match run (launcher settings) mishaps disk (requestFor arguments settings) with
      | (.error failure, after) => failedOutcome mishaps failure after
      | (.ok report, after) => finishedOutcome mishaps report after

/-- Executes a command line. -/
def execute
    (launcher : Settings → Launcher)
    (mishaps : Mishaps)
    (disk : Disk)
    (arguments : List String) :
    Outcome :=
  match Arguments.read arguments with
  | .error ending =>
      { exitCode := ending.exitCode, output := ending.output, disk := disk }
  | .ok arguments => executeRun launcher mishaps disk arguments

end ApiTree.Command
