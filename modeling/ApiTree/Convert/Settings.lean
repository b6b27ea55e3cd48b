import ApiTree.Convert.Assembly
import ApiTree.Convert.Failure
import ApiTree.Files.Fault
import ApiTree.Json.Decoder
import ApiTree.Text.Blank

namespace ApiTree.Convert

open ApiTree.Files (FileFault)
open ApiTree.Json (Decoder Fault RecordField Record)

/-!
# Settings

The settings of a run may come from a file, and some may be overridden.  What a
file says is checked; what overrides it is not.
-/

/-- The settings of a run. -/
structure Settings where
  /-- The name of the project. -/
  projectName : String := "python"
  /-- The interpreter to use; any that is found, if there is none. -/
  interpreter : Option String := none
  /-- The number of seconds that a batch may take. -/
  timeout : Nat := 120
  /-- The dotted path under which a symbol of a module is exported again. -/
  shortcuts : List (String × String) := []
  /-- What stands for the root of the repository in file names. -/
  repositoryRoot : String := "REPO_ROOT_PLACEHOLDER"
  deriving Repr, DecidableEq

/-- Why a file gives no settings. -/
inductive SettingsError where
  | unreadable (path : String) (fault : FileFault)
  | malformed (path text : String) (fault : Fault)
  | invalid (key reason : String)
  deriving Repr, DecidableEq

namespace SettingsError

/-- The message of the error. -/
def message : SettingsError → String
  | .unreadable path fault => "failed to read config " ++ path ++ ": " ++ fault.text
  | .malformed path text fault =>
      "invalid config " ++ path ++ ": " ++ fault.textIn text
  | .invalid key reason => "invalid config value `" ++ key ++ "`: " ++ reason

/-- The failure of a run that ends with the error. -/
def failure (error : SettingsError) : Failure :=
  match error with
  | .unreadable path fault => .io path fault.text
  | .malformed _ _ _ | .invalid _ _ => .invalidArguments error.message none

end SettingsError

namespace Settings

/-- The largest number of seconds. -/
def timeoutLimit : Nat := Nat.pow 2 64 - 1

/-- A field that may be left out. -/
def field
    {α : Type}
    (name : String)
    (content : Decoder α)
    (set : α → Settings → Settings) :
    RecordField Settings :=
  { name := name
    required := false
    read := fun levels tree => (content levels tree).map set }

/-- The record that a file holds. -/
def record : Record Settings :=
  { name := "struct Config"
    fields :=
      [ field "project_name" Decoder.text fun value settings =>
          { settings with projectName := value },
        field "python" (Decoder.optional (Decoder.textAs "path string"))
          fun value settings => { settings with interpreter := value },
        field "type_parser_timeout_secs" (Decoder.natUpTo timeoutLimit "u64")
          fun value settings => { settings with timeout := value },
        field "module_shortcuts" (Decoder.map Decoder.text) fun value settings =>
          { settings with shortcuts := value },
        field "repo_root_placeholder" Decoder.text fun value settings =>
          { settings with repositoryRoot := value } ]
    initial := {}
    skipsUnknown := false }

/-- What is wrong with settings. -/
def problem? (settings : Settings) : Option SettingsError :=
  if settings.timeout = 0 then
    some (.invalid "type_parser_timeout_secs" "must be at least 1")
  else if ApiTree.Text.isAllBlank settings.projectName then
    some (.invalid "project_name" "must not be empty")
  else
    none

/-- The settings in the content of the file at a path. -/
def ofContent
    (path : String)
    (content : Except FileFault String) :
    Except SettingsError Settings :=
  match content with
  | .error fault => .error (.unreadable path fault)
  | .ok text =>
      match Json.decode record.decoder text with
      | .error fault => .error (.malformed path text fault)
      | .ok settings =>
          match settings.problem? with
          | some error => .error error
          | none => .ok settings

/-- The settings of a file where one is named, else the ones that need no file. -/
def load
    (read : String → Except FileFault String) :
    Option String → Except SettingsError Settings
  | some path => ofContent path (read path)
  | none => .ok {}

/-- The settings with an interpreter and a name of the project in place of their own. -/
def override
    (settings : Settings)
    (interpreter projectName : Option String) :
    Settings :=
  { settings with
    interpreter := interpreter <|> settings.interpreter
    projectName := projectName.getD settings.projectName }

/-- The settings that a conversion needs. -/
def options (settings : Settings) : Options :=
  { projectName := settings.projectName
    shortcuts := settings.shortcuts
    repositoryRoot := settings.repositoryRoot }

/-- The time that a batch may take, in milliseconds. -/
def milliseconds (settings : Settings) : Nat :=
  1000 * settings.timeout

end Settings

end ApiTree.Convert
