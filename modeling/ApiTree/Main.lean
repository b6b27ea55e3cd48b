import ApiTree.Command.Execute
import ApiTree.Convert.Launching

/-!
# The command

The files that the arguments name are read into a disk, the command line is
executed on it, and the project that was written there is written to its place.
-/

namespace ApiTree.Command

open ApiTree.Files (Disk)

/-- The paths on the way to a path, the shortest first. -/
def pathsTo (path : String) : List String :=
  let start := if Files.isAbsolute path then Files.rootName else ""
  let parts := Files.pathParts path
  (List.range parts.length).map fun last =>
    start ++ String.intercalate "/" (parts.take (last + 1))

/-- A disk with what stands at a path; what exists but is no file is a directory. -/
def loadEntry
    (disk : Disk)
    (path : String) :
    IO Disk := do
  match disk.locate path with
  | .error _ => return disk
  | .ok place =>
      if (disk.entry? place).isSome then
        return disk
      try
        return disk.addFile place (← IO.FS.readBinFile path) true
      catch error =>
        match error with
        | .noFileOrDirectory _ _ _ => return disk
        | _ => return disk.makeDirectories place

/-- The paths that arguments name. -/
def namedPaths (arguments : Arguments) : List String :=
  arguments.config.toList ++ [arguments.input] ++ arguments.interpreter.toList ++
    [arguments.output]

/-- The disk that arguments are executed on. -/
def loadDisk (arguments : List String) : IO Disk :=
  match Arguments.read arguments with
  | .error _ => return Interp.systemDisk
  | .ok arguments =>
      ((namedPaths arguments).flatMap pathsTo).foldlM loadEntry Interp.systemDisk

/-- The path of the file that is moved to a path when it is finished. -/
def temporaryPath (path : String) : String :=
  path ++ ".partial"

/-- Writes a file to its place by way of a temporary file. -/
def store
    (path : String)
    (content : ByteArray) :
    IO Unit := do
  IO.FS.writeBinFile (temporaryPath path) content
  IO.FS.rename (temporaryPath path) path

/-- Writes what a run wrote to its disk, and tells how the run ends. -/
def finishRun
    (arguments : List String)
    (outcome : Outcome) :
    IO Outcome := do
  match Arguments.read arguments with
  | .error _ => return outcome
  | .ok arguments =>
      if outcome.exitCode ≠ 0 then
        return outcome
      match outcome.disk.readBytes arguments.output with
      | .error _ => return outcome
      | .ok content =>
          try
            store arguments.output content
            return outcome
          catch error =>
            return failedOutcome {} (.io arguments.output (toString error)) outcome.disk

/-- Executes a command line on the files that it names. -/
def runCommand (arguments : List String) : IO UInt32 := do
  let disk ← loadDisk arguments
  let launcher := Convert.interpreterLauncher [] Interp.systemSearchPath
  let outcome ← finishRun arguments (execute launcher {} disk arguments)
  IO.print outcome.output
  return outcome.exitCode.toUInt32

end ApiTree.Command

/-- Executes the command line. -/
def main (arguments : List String) : IO UInt32 :=
  ApiTree.Command.runCommand arguments
