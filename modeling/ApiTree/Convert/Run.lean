import ApiTree.Convert.Conversion
import ApiTree.Convert.Settings
import ApiTree.Files.Disk

namespace ApiTree.Convert

open ApiTree.Files (Disk FileFault)
open ApiTree.Interp (ParserError TypeParser)
open ApiTree.Json (Value)
open ApiTree.Resolve (Answers)

/-!
# Runs

A run reads a dump, converts it, and writes the project to its place.  The
project is written to a temporary file first, and only a finished file is moved
to its place: a run that fails before that leaves the place as it was.
-/

/-- What a run is asked for. -/
structure Request where
  input : String
  output : String
  settings : Settings := {}
  resolvesTypes : Bool := false

/-- Answers a batch and gives the disk as it is afterwards. -/
abbrev Launcher : Type :=
  Disk → List String → Except ParserError Answers × Disk

/-- The launcher that answers nothing and leaves the disk alone. -/
def silentLauncher : Launcher :=
  fun disk expressions => (TypeParser.silent expressions, disk)

/-- The faults that the steps of a run meet although the disk would allow them. -/
structure Mishaps where
  readSettings : Option FileFault := none
  readInput : Option FileFault := none
  /-- The temporary file cannot be made. -/
  create : Option FileFault := none
  /-- The project cannot be written to the temporary file. -/
  write : Option FileFault := none
  /-- The end of the temporary file cannot be written. -/
  finish : Option FileFault := none
  /-- The temporary file cannot be moved. -/
  move : Option FileFault := none
  /-- The report cannot be printed. -/
  print : Option FileFault := none

/-- The result of a step, or the fault that the step meets. -/
def step
    {α : Type}
    (mishap : Option FileFault)
    (result : Except FileFault α) :
    Except FileFault α :=
  match mishap with
  | some fault => .error fault
  | none => result

/-- The text of a project as it is written. -/
def projectText (project : Decl.Project) : String :=
  project.json.pretty ++ "\n"

/-- The report of a conversion. -/
def reportOf
    (request : Request)
    (stats : Stats) :
    Report :=
  { output := request.output
    modules := stats.modules
    declarations := stats.declarations
    inheritedMembers := stats.inheritedMembers
    resolvedTypes := stats.resolvedTypes
    warnings := stats.warnings }

/-- What a run writes and reports, given the content of its input. -/
def prepare
    (request : Request)
    (parser : TypeParser)
    (content : Except FileFault String) :
    Except Failure (String × Report) :=
  match content with
  | .error fault => .error (.io request.input fault.text)
  | .ok text =>
      match convert request.settings.options parser text with
      | .error error => .error error.failure
      | .ok conversion =>
          .ok (projectText conversion.project, reportOf request conversion.stats)

/-- The disk after the batch of a run has been answered, if one is sent. -/
def diskAfterBatch
    (request : Request)
    (launcher : Launcher)
    (disk : Disk) :
    Except FileFault String → Disk
  | .error _ => disk
  | .ok text =>
      match sentBatch? request.settings.options text with
      | some expressions => (launcher disk expressions).2
      | none => disk

/-- The disk with a text written to its place by way of a temporary file. -/
def writeText
    (mishaps : Mishaps)
    (disk : Disk)
    (path text : String) :
    Except Failure Disk :=
  match step mishaps.create (disk.holder path) with
  | .error fault => .error (.io path fault.text)
  | .ok _ =>
      match mishaps.write, mishaps.finish with
      | some fault, _ =>
          .error (.internal ("failed to serialize project: " ++ fault.text))
      | none, some fault => .error (.io path fault.text)
      | none, none =>
          match step mishaps.move (disk.destination path) with
          | .error fault => .error (.io path fault.text)
          | .ok place => .ok (disk.put place (.file text.toUTF8 false))

/-- Runs a conversion: its report or failure, and the disk afterwards. -/
def run
    (launcher : Launcher)
    (mishaps : Mishaps)
    (disk : Disk)
    (request : Request) :
    Except Failure Report × Disk :=
  let launcher := if request.resolvesTypes then launcher else silentLauncher
  let content := step mishaps.readInput (disk.readText request.input)
  let after := diskAfterBatch request launcher disk content
  match prepare request (fun batch => (launcher disk batch).1) content with
  | .error failure => (.error failure, after)
  | .ok (text, report) =>
      match writeText mishaps after request.output text with
      | .error failure => (.error failure, after)
      | .ok written => (.ok report, written)

end ApiTree.Convert
