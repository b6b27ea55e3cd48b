import ApiTree.Files.Fault
import ApiTree.Text.Blank

namespace ApiTree.Files

open ApiTree.Text (splitChars)

/-!
# Files

A disk holds files and directories by their places.  A place is the list of
names that leads to it from the working directory.  Places outside the working
directory start with `..`, or with `/` for the root of all directories; these
starting points always exist.
-/

/-- The names that lead from the working directory to a file or directory. -/
abbrev Place : Type := List String

/-- What is stored at a place. -/
inductive Entry where
  | file (content : ByteArray) (isExecutable : Bool)
  | directory
  deriving BEq

/-- Files and directories. -/
structure Disk where
  entries : List (Place × Entry) := []

/-- The name of the directory above. -/
def parentName : String := ".."

/-- The name of the root of all directories. -/
def rootName : String := "/"

/-- The number of bytes that a name may have. -/
def nameLimit : Nat := 255

/-- The number of bytes that a path may not reach. -/
def pathLimit : Nat := 4096

/-- The parts of a path between slashes, empty parts left out. -/
def pathParts (path : String) : List String :=
  ((splitChars (· == '/') path.toList).filter (!·.isEmpty)).map String.ofList

/-- Whether a path starts at the root of all directories. -/
def isAbsolute (path : String) : Bool :=
  path.toList.head? == some '/'

/-- Whether a path ends in a slash. -/
def endsInSlash (path : String) : Bool :=
  path.toList.getLast? == some '/'

/-- Where a path starts. -/
def startOf (path : String) : Place :=
  if isAbsolute path then [rootName] else []

/-- A path and a name below it. -/
def joinPath (directory name : String) : String :=
  if directory.isEmpty then name
  else if endsInSlash directory then directory ++ name
  else directory ++ "/" ++ name

/-- Whether a place is a starting point, which always exists. -/
def isStart (place : Place) : Bool :=
  place == [rootName] || place.all (· == parentName)

/-- The directory above a place. -/
def above (place : Place) : Place :=
  if place == [rootName] then place
  else if isStart place then place ++ [parentName]
  else place.dropLast

namespace Disk

/-- What is stored at a place. -/
def entry?
    (disk : Disk)
    (place : Place) :
    Option Entry :=
  if isStart place then some .directory else disk.entries.lookup place

/-- Stores something at a place. -/
def put
    (disk : Disk)
    (place : Place)
    (entry : Entry) :
    Disk :=
  { entries := (place, entry) :: disk.entries.filter (·.1 != place) }

/-- Removes what is stored at a place and below it. -/
def remove
    (disk : Disk)
    (place : Place) :
    Disk :=
  { entries := disk.entries.filter fun stored => !place.isPrefixOf stored.1 }

/-- Makes a directory and all directories on the way to it. -/
def makeDirectories
    (disk : Disk)
    (place : Place) :
    Disk :=
  ((List.range (place.length + 1)).map place.take).foldl
    (fun disk directory =>
      match disk.entry? directory with
      | some _ => disk
      | none => disk.put directory .directory)
    disk

/-- Stores a file and makes the directories on the way to it. -/
def addFile
    (disk : Disk)
    (place : Place)
    (content : ByteArray)
    (isExecutable : Bool) :
    Disk :=
  (disk.makeDirectories place.dropLast).put place (.file content isExecutable)

/-- Follows the parts of a path.  All but the last have to lead to directories. -/
def follow
    (disk : Disk)
    (place : Place) :
    List String → Except FileFault Place
  | [] => .ok place
  | part :: rest =>
      let next :=
        if part = "." then place
        else if part = parentName then above place
        else place ++ [part]
      if nameLimit < part.utf8ByteSize then
        .error .nameTooLong
      else if rest.isEmpty then
        .ok next
      else
        match disk.entry? next with
        | some .directory => disk.follow next rest
        | some (.file _ _) => .error .notDirectory
        | none => .error .missing

/-- The fault of a path that cannot be the path of anything. -/
def pathFault? (path : String) : Option FileFault :=
  if path.toList.contains '\x00' then some .zeroInName
  else if path.isEmpty then some .missing
  else if pathLimit ≤ path.utf8ByteSize then some .nameTooLong
  else none

/-- The place that a path leads to. -/
def locate
    (disk : Disk)
    (path : String) :
    Except FileFault Place :=
  match pathFault? path with
  | some fault => .error fault
  | none => disk.follow (startOf path) (pathParts path)

/-- What a path leads to. -/
def find
    (disk : Disk)
    (path : String) :
    Except FileFault Entry := do
  let place ← disk.locate path
  match disk.entry? place with
  | none => .error .missing
  | some (.file content isExecutable) =>
      if endsInSlash path then .error .notDirectory else .ok (.file content isExecutable)
  | some .directory => .ok .directory

/-- Whether a path leads to something. -/
def exists?
    (disk : Disk)
    (path : String) :
    Bool :=
  match disk.find path with
  | .ok _ => true
  | .error _ => false

/-- The content of a file. -/
def readBytes
    (disk : Disk)
    (path : String) :
    Except FileFault ByteArray := do
  match ← disk.find path with
  | .file content _ => .ok content
  | .directory => .error .isDirectory

/-- The content of a file as text. -/
def readText
    (disk : Disk)
    (path : String) :
    Except FileFault String := do
  let content ← disk.readBytes path
  match String.fromUTF8? content with
  | some text => .ok text
  | none => .error .notText

/-- Whether a path leads to something that may be run, as far as its mode tells. -/
def isRunnable
    (disk : Disk)
    (path : String) :
    Bool :=
  match disk.find path with
  | .ok (.file _ isExecutable) => isExecutable
  | .ok .directory => true
  | .error _ => false

/-- Whether a path leads to a file that may be run. -/
def isRunnableFile
    (disk : Disk)
    (path : String) :
    Bool :=
  match disk.find path with
  | .ok (.file _ isExecutable) => isExecutable
  | _ => false

/-- The place of a directory that the parts of a path lead to. -/
def directoryAt
    (disk : Disk)
    (path : String)
    (parts : List String) :
    Except FileFault Place := do
  let place ← disk.follow (startOf path) parts
  match disk.entry? place with
  | some .directory => .ok place
  | some (.file _ _) => .error .notDirectory
  | none => .error .missing

/--
The directory in which a file is prepared that is to be moved to a path.  A dot
is no part of its own there.
-/
def holder
    (disk : Disk)
    (path : String) :
    Except FileFault Place :=
  disk.directoryAt path ((pathParts path).filter (· != ".")).dropLast

/--
The place that a finished file may be moved to: one in an existing directory
that is no directory itself.
-/
def destination
    (disk : Disk)
    (path : String) :
    Except FileFault Place := do
  if let some fault := pathFault? path then
    .error fault
  let directory ← disk.directoryAt path (pathParts path).dropLast
  match (pathParts path).getLast? with
  | none => .error .busy
  | some last =>
      if last = "." ∨ last = parentName then
        .error .busy
      else if nameLimit < last.utf8ByteSize then
        .error .nameTooLong
      else if endsInSlash path then
        .error .notDirectory
      else
        let place := directory ++ [last]
        match disk.entry? place with
        | some .directory => .error .isDirectory
        | _ => .ok place

/-- Everything below the working directory, directories with a slash at the end. -/
def listing (disk : Disk) : List String :=
  let inside := disk.entries.filter fun stored =>
    stored.1.head? != some parentName && stored.1.head? != some rootName
  (inside.map fun stored =>
    String.intercalate "/" stored.1 ++
      (if stored.2 == .directory then "/" else "")).mergeSort
    fun first second => !decide (second < first)

end Disk

end ApiTree.Files
