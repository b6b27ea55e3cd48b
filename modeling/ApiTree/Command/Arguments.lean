namespace ApiTree.Command

/-!
# Command-line arguments

Every option has a long name, and a value follows it or is attached with an
equals sign.  An option is given once at most.  Arguments are read from left to
right, and the first fault, or the first request for help or for the version,
ends the reading.
-/

/-- The levels of detail of a log. -/
inductive LogLevel where
  | trace
  | debug
  | info
  | warn
  | error
  deriving Repr, DecidableEq

/-- The names of the levels. -/
def LogLevel.names : List (String × LogLevel) :=
  [("trace", .trace), ("debug", .debug), ("info", .info), ("warn", .warn),
    ("error", .error)]

/-- An option. -/
inductive CommandOption where
  | input
  | output
  | config
  | interpreter
  | projectName
  | noTypeResolution
  | logLevel
  | help
  | version
  deriving Repr, DecidableEq

namespace CommandOption

/-- All options in the order of the help text. -/
def all : List CommandOption :=
  [.input, .output, .config, .interpreter, .projectName, .noTypeResolution, .logLevel,
    .help, .version]

/-- The long name. -/
def name : CommandOption → String
  | .input => "input"
  | .output => "output"
  | .config => "config"
  | .interpreter => "python"
  | .projectName => "project-name"
  | .noTypeResolution => "no-type-resolution"
  | .logLevel => "log-level"
  | .help => "help"
  | .version => "version"

/-- The letter that stands for the option, where there is one. -/
def letter? : CommandOption → Option Char
  | .help => some 'h'
  | .version => some 'V'
  | _ => none

/-- How the help text names the value; an option without one takes none. -/
def valueName? : CommandOption → Option String
  | .input => some "INPUT"
  | .output => some "OUTPUT"
  | .config => some "CONFIG"
  | .interpreter => some "PYTHON"
  | .projectName => some "PROJECT_NAME"
  | .logLevel => some "LOG_LEVEL"
  | .noTypeResolution | .help | .version => none

/-- What the help text says of the option. -/
def description : CommandOption → String
  | .input => "Docspec dump (JSON array or one module per line)"
  | .output => "Path of the TypeDoc project JSON to write"
  | .config => "JSON configuration file"
  | .interpreter =>
      "Python interpreter for type resolution (overrides the config file)"
  | .projectName => "Name of the project root (overrides the config file)"
  | .noTypeResolution =>
      "Do not run the type parser; types stay bare references"
  | .logLevel =>
      "Log level for tracing output [default: warn] [possible values: " ++
        String.intercalate ", " (LogLevel.names.map (·.1)) ++ "]"
  | .help => "Print help"
  | .version => "Print version"

/-- The option of a long name. -/
def named? (name : String) : Option CommandOption :=
  all.find? fun option => option.name == name

/-- Whether the option takes a value. -/
def takesValue (option : CommandOption) : Bool :=
  option.valueName?.isSome

/-- Whether a value can be that of the option. -/
def accepts
    (option : CommandOption)
    (value : String) :
    Bool :=
  match option with
  | .input | .output | .config | .interpreter => !value.isEmpty
  | .logLevel => (LogLevel.names.lookup value).isSome
  | _ => true

end CommandOption

/-- The arguments of a run. -/
structure Arguments where
  input : String
  output : String
  config : Option String := none
  interpreter : Option String := none
  projectName : Option String := none
  noTypeResolution : Bool := false
  logLevel : LogLevel := .warn
  deriving Repr, DecidableEq

/-- Why arguments ask for no run. -/
inductive Ending where
  /-- They are no arguments of the command. -/
  | usage
  | help
  | version
  deriving Repr, DecidableEq

/-- The options that were given, with their values. -/
abbrev Given : Type :=
  List (CommandOption × String)

/-- Takes an option with its value, unless it was given before. -/
def Given.add
    (given : Given)
    (option : CommandOption)
    (value : String) :
    Except Ending Given :=
  match option with
  | .help => .error .help
  | .version => .error .version
  | _ =>
      if (given.lookup option).isSome || !option.accepts value then
        .error .usage
      else
        .ok (given ++ [(option, value)])

/-- What an argument with dashes asks for: an option, and the value attached to it. -/
def optionOf?
    (argument : String) :
    Option (CommandOption × Option String) :=
  match argument.toList with
  | '-' :: '-' :: rest =>
      let name := rest.takeWhile (· != '=')
      (CommandOption.named? (String.ofList name)).map fun option =>
        ( option,
          if name.length < rest.length then
            some (String.ofList (rest.drop (name.length + 1)))
          else
            none )
  | '-' :: letter :: _ =>
      (CommandOption.all.find? fun option => option.letter? == some letter).map
        fun option => (option, none)
  | _ => none

/-- Whether an argument can stand as the value of an option before it. -/
def isValue (argument : String) : Bool :=
  argument.toList.head? != some '-' || argument == "-"

/-- The options that arguments give.  Two dashes by themselves may end them. -/
def givenBy
    (given : Given) :
    List String → Except Ending Given
  | [] => .ok given
  | argument :: [] =>
      if argument = "--" then
        .ok given
      else
        match optionOf? argument with
        | none => .error .usage
        | some (option, attached) =>
            if option.takesValue == attached.isSome then
              given.add option (attached.getD "")
            else
              .error .usage
  | argument :: value :: rest =>
      match optionOf? argument with
      | none => .error .usage
      | some (option, attached) =>
          if option.takesValue && attached.isNone then
            if isValue value then
              match given.add option value with
              | .error ending => .error ending
              | .ok more => givenBy more rest
            else
              .error .usage
          else if option.takesValue == attached.isSome then
            match given.add option (attached.getD "") with
            | .error ending => .error ending
            | .ok more => givenBy more (value :: rest)
          else
            .error .usage

/-- Reads arguments. -/
def Arguments.read (arguments : List String) : Except Ending Arguments :=
  match givenBy [] arguments with
  | .error ending => .error ending
  | .ok given =>
      match given.lookup .input, given.lookup .output with
      | some input, some output =>
          .ok
            { input := input
              output := output
              config := given.lookup .config
              interpreter := given.lookup .interpreter
              projectName := given.lookup .projectName
              noTypeResolution := (given.lookup .noTypeResolution).isSome
              logLevel :=
                ((given.lookup .logLevel).bind fun name =>
                  LogLevel.names.lookup name).getD .warn }
      | _, _ => .error .usage

/-! ## Help and version -/

/-- The name of the command. -/
def commandName : String := "docspec-typedoc"

/-- The version of the command. -/
def commandVersion : String := "0.1.0"

/-- The text that tells the version. -/
def versionText : String :=
  commandName ++ " " ++ commandVersion ++ "\n"

/-- What the help text says of an option. -/
def CommandOption.helpText (option : CommandOption) : String :=
  (match option.letter? with
    | some letter => "  -" ++ letter.toString ++ ", --"
    | none => "      --") ++
  option.name ++
  (match option.valueName? with
    | some value => " <" ++ value ++ ">"
    | none => "") ++
  "\n          " ++ option.description ++ "\n"

/-- The text that explains the command. -/
def helpText : String :=
  "Convert docspec dumps into TypeDoc JSON\n\n" ++
  "Usage: " ++ commandName ++ " [OPTIONS] --input <INPUT> --output <OUTPUT>\n\n" ++
  "Options:\n" ++ String.join (CommandOption.all.map CommandOption.helpText)

end ApiTree.Command
