import ApiTree.Shell.Command
import ApiTree.Shell.Program

namespace ApiTree.Shell

open ApiTree.Files (Disk FileFault Place joinPath)

/-!
# Running scripts

A script is run command by command.  Running takes a bound on the number of
steps; a script that reaches it runs too long.  A program that is no script is
known by its name and stands in a directory of the system.
-/

/-- The programs that are known by their names, apart from the shell itself. -/
abbrev Installed : Type := List (String × Program)

/-- The programs of every system. -/
def basePrograms : Installed :=
  [ ("true", fun _ state => done state 0),
    ("false", fun _ state => done state 1),
    ("echo", echo),
    ("printf", printFormat),
    ("cat", concatenate),
    ("head", portion "head" List.take List.take),
    ("tail", portion "tail" lastOf lastOf),
    ("wc", count),
    ("grep", search),
    ("basename", baseName),
    ("dirname", directoryName),
    ("rm", removeFiles),
    ("mkdir", makeDirectories),
    ("touch", touchFiles),
    ("chmod", changeMode),
    ("cp", transfer "cp" false),
    ("mv", transfer "mv" true),
    ("ls", listNames),
    ("test", test),
    ("[", fun arguments state => test arguments.dropLast state),
    ("sleep", sleep) ]

/-- The names of the shell. -/
def shellNames : List String := ["sh", "dash", "bash"]

/-- The program that runs another one found on the search path. -/
def envName : String := "env"

/-- The directories of the system that hold programs. -/
def systemDirectories : List String :=
  ["/usr/bin", "/bin"]

/-- A disk that holds the programs of a system. -/
def systemDisk (installed : Installed) : Disk :=
  let names := installed.map (·.1) ++ shellNames ++ [envName]
  let places := systemDirectories.flatMap fun directory =>
    names.map fun name => Files.startOf directory ++ Files.pathParts directory ++ [name]
  let disk := places.foldl
    (fun (disk : Disk) place => disk.addFile place ByteArray.empty true) {}
  (disk.addFile [Files.rootName, "dev", "null"] ByteArray.empty false).makeDirectories
    [Files.rootName, "tmp"]

/-- The name of the program of the system that stands at a path. -/
def systemProgram? (path : String) : Option String :=
  systemDirectories.findSome? fun directory =>
    let start := joinPath directory ""
    if start.isPrefixOf path then some (path.drop start.length).toString else none

/-- The first field starts a list of fields, the others follow. -/
structure Fields where
  finished : List Bytes := []
  current : Option Bytes := none

namespace Fields

/-- Adds characters to the current field. -/
def add
    (fields : Fields)
    (chars : Bytes) :
    Fields :=
  { fields with current := some (fields.current.getD [] ++ chars) }

/-- Ends the current field. -/
def close (fields : Fields) : Fields :=
  match fields.current with
  | some field => { finished := fields.finished ++ [field], current := none }
  | none => fields

/-- Adds a value that is split into fields. -/
def addSplit
    (fields : Fields)
    (value : Bytes) :
    Fields :=
  value.foldl
    (fun fields char =>
      if isFieldSeparator char then fields.close else fields.add [char])
    fields

/-- Adds several values, each a field of its own. -/
def addEach (fields : Fields) : List Bytes → Fields
  | [] => fields
  | [value] => fields.add value
  | value :: rest => ((fields.add value).close).addEach rest

/-- The fields. -/
def all (fields : Fields) : List Bytes :=
  fields.close.finished

end Fields

/-- A value without the line feeds at its end. -/
def dropFinalLines (value : Bytes) : Bytes :=
  (value.reverse.dropWhile (· == '\n')).reverse

/-- The number of a signal by name or number. -/
def signalNumber?
    (names : List String)
    (text : Bytes) :
    Option Nat :=
  match decimal? text with
  | some number => some number
  | none =>
      let name := (String.ofList text).toUpper
      let bare := if name.startsWith "SIG" then (name.drop 3).toString else name
      (names.findIdx? (· == bare)).map (· + 1)

/-- The signals that end no process. -/
def harmlessSignals : List Nat := [0, 17, 18, 23, 28]

/-- The signals that stop a process without ending it. -/
def stoppingSignals : List Nat := [19, 20, 21, 22]

/-- Sends a signal to the process of the script. -/
def signalSelf
    (state : State)
    (signal : Nat) :
    Flow × State :=
  if harmlessSignals.contains signal then done state 0
  else if stoppingSignals.contains signal then (.outOfTime, state)
  else (.killed signal, state)

/-- Sends a signal. -/
def kill (names : List String) : Program :=
  fun arguments state =>
    let (signal, targets) :=
      match arguments with
      | ['-', 's'] :: name :: rest => (signalNumber? names name, rest)
      | ('-' :: name) :: rest =>
          if name = ['-'] then (some 15, rest) else (signalNumber? names name, rest)
      | other => (some 15, other)
    match signal, targets with
    | some number, target :: _ =>
        if decimal? target = some processNumber then signalSelf state number
        else failed state 1 "kill: No such process"
    | _, _ => failed state 2 "kill: Illegal option"

/-- How a script is run: its programs, the names of signals, and the search path. -/
structure Host where
  installed : Installed
  signalNames : List String
  searchPath : List String

/-- The text of a fault of opening a file that is written. -/
def writeFault
    (path : Bytes)
    (fault : FileFault) :
    String :=
  "cannot create " ++ toName path ++ ": " ++
    (match fault with
      | .missing => "Directory nonexistent"
      | other => faultReason other)

/-- The text of a fault of opening a file that is read. -/
def readFault
    (path : Bytes)
    (fault : FileFault) :
    String :=
  "cannot open " ++ toName path ++ ": " ++
    (match fault with
      | .missing => "No such file"
      | other => faultReason other)

/-- The channel of a stream. -/
def State.channel
    (state : State) :
    Nat → Channel
  | 1 => state.output
  | 2 => state.error
  | _ => .discard

/-- The state with a stream going to a channel. -/
def State.redirected
    (state : State)
    (stream : Nat)
    (channel : Channel) :
    State :=
  match stream with
  | 1 => { state with output := channel }
  | 2 => { state with error := channel }
  | _ => state

/-- The state with the streams of another one. -/
def State.withStreams
    (state saved : State) :
    State :=
  { state with input := saved.input, output := saved.output, error := saved.error }

/-- The path of the program that a name means. -/
def State.programPath?
    (host : Host)
    (state : State)
    (name : Bytes) :
    Option String :=
  if name.contains '/' then
    let path := state.resolve name
    if state.disk.exists? path then some path else none
  else
    (host.searchPath.map fun directory => joinPath directory (toName name)).find?
      state.disk.isRunnableFile

/-- The programs and arguments that the first line of a script names. -/
def interpreterLine? (content : Bytes) : Option (Bytes × List Bytes) :=
  match content with
  | '#' :: '!' :: rest =>
      let line := (rest.takeWhile (· != '\n')).dropWhile isSeparator
      let trimmed := (line.reverse.dropWhile isSeparator).reverse
      let program := trimmed.takeWhile fun char => !isSeparator char
      let argument := (trimmed.drop program.length).dropWhile isSeparator
      some (program, if argument.isEmpty then [] else [argument])
  | _ => none

/-- What running a file needs: a known program, or a script for another program. -/
inductive Launch where
  | known (name : String)
  | script (interpreter : Bytes) (arguments : List Bytes)
  | fault (fault : FileFault)

/-- What running the file at a path needs. -/
def launchOf
    (disk : Disk)
    (path : String) :
    Launch :=
  match disk.find path with
  | .error fault => .fault fault
  | .ok .directory => .fault .denied
  | .ok (.file content isExecutable) =>
      if !isExecutable then
        .fault .denied
      else
        match systemProgram? path with
        | some name => .known name
        | none =>
            match interpreterLine? (ofContent content) with
            | some (interpreter, arguments) =>
                if disk.exists? (toName interpreter) then
                  .script interpreter arguments
                else
                  .fault .missing
            | none => .fault .badFormat

/-- The end of a script as the end of a command of another one. -/
def asCommand
    (saved : State)
    (result : Flow × State) :
    Flow × State :=
  let restored :=
    { saved with
      disk := result.2.disk
      clock := result.2.clock
      status := result.2.status
      collected := result.2.collected
      logged := result.2.logged }
  match result.1 with
  | .outOfTime => (.outOfTime, restored)
  | .killed signal => (.next, restored.withStatus (128 + signal))
  | _ => (.next, restored)

/-- Whether a name is one of the commands that end the script when they fail. -/
def isSpecial (name : Bytes) : Bool :=
  [":", ".", "break", "continue", "eval", "exec", "exit", "export", "readonly", "return",
    "set", "shift", "trap", "unset"].contains (String.ofList name)

/-- Sets the variables that assignments name. -/
def setAll
    (assignments : List (Bytes × Bytes))
    (state : State) :
    State :=
  assignments.foldl (fun state entry => state.setVariable entry.1 entry.2) state

/-- The commands of the shell that change its own state. -/
def builtin?
    (host : Host)
    (line : Nat)
    (name : Bytes) :
    Option Program :=
  match String.ofList name with
  | ":" => some fun _ state => done state 0
  | "exit" | "return" => some fun arguments state =>
      match arguments with
      | [] => (.leave, state)
      | code :: _ =>
          match decimal? code with
          | some value => (.leave, state.withStatus (value % 256))
          | none =>
              ( .leave,
                (state.reportAt line
                  (toName name ++ ": Illegal number: " ++ toName code)).withStatus 2 )
  | "kill" => some (kill host.signalNames)
  | "cd" => some fun arguments state =>
      let target := arguments.headD []
      match state.disk.find (state.resolve target) with
      | .ok .directory =>
          done { state with directory := state.resolve target } 0
      | _ => done (state.reportAt line ("cd: can't cd to " ++ toName target)) 2
  | "shift" => some fun arguments state =>
      let places := ((arguments.head?).bind decimal?).getD 1
      if state.arguments.length < places then
        (.leave, (state.reportAt line "shift: can't shift that many").withStatus 2)
      else
        done { state with arguments := state.arguments.drop places } 0
  | "set" => some fun arguments state =>
      match arguments with
      | ['-', '-'] :: rest => done { state with arguments := rest } 0
      | ('-' :: letters) :: _ =>
          done
            { state with
              stopsOnFailure := state.stopsOnFailure || letters.contains 'e' }
            0
      | ('+' :: letters) :: _ =>
          done
            { state with
              stopsOnFailure := state.stopsOnFailure && !letters.contains 'e' }
            0
      | [] => done state 0
      | rest => done { state with arguments := rest } 0
  | "export" | "readonly" | "local" => some fun arguments state =>
      done
        (setAll
          (arguments.filterMap fun argument => splitAt? '=' argument) state)
        0
  | "unset" => some fun arguments state =>
      done
        { state with
          bindings := state.bindings.filter fun entry => !arguments.contains entry.1 }
        0
  | "trap" | "wait" | "umask" | "ulimit" | "hash" => some fun _ state => done state 0
  | "break" => some fun arguments state =>
      (.leaveLoops (((arguments.head?).bind decimal?).getD 1), state.withStatus 0)
  | "continue" => some fun arguments state =>
      (.nextRound (((arguments.head?).bind decimal?).getD 1), state.withStatus 0)
  | "read" => some fun arguments state =>
      if state.input.isEmpty then
        done state 1
      else
        let text := state.input.takeWhile (· != '\n')
        let names := arguments.filter fun argument => !isOption argument
        let isWhole := text.length < state.input.length
        let rest := state.input.drop (text.length + 1)
        done
          ({ state with input := rest }.setVariable (names.headD "REPLY".toList)
            ((text.dropWhile isSeparator).reverse.dropWhile isSeparator).reverse)
          (if isWhole then 0 else 1)
  | _ => none

mutual

/-- Expands the pieces of a word. -/
def expand
    (host : Host) :
    Nat → State → Fields → Word → Flow × State × Fields
  | 0, state, fields, _ => (.outOfTime, state, fields)
  | _, state, fields, [] => (.next, state, fields)
  | fuel + 1, state, fields, piece :: rest =>
      match piece with
      | .text chars _ => expand host fuel state (fields.add chars) rest
      | .parameter ['@'] none true =>
          expand host fuel state (fields.addEach state.arguments) rest
      | .parameter name fallback isQuoted =>
          let value :=
            match state.parameter? name with
            | some value =>
                if value.isEmpty then fallback.getD [] else value
            | none => fallback.getD []
          expand host fuel state
            (if isQuoted then fields.add value else fields.addSplit value) rest
      | .output script isQuoted =>
          let (flow, after) :=
            run host fuel false
              { state with output := .collect, collected := [] } (commandOf script)
          let value := dropFinalLines after.collected
          let (flow, restored) :=
            asCommand state (flow, { after with collected := state.collected })
          match flow with
          | .next =>
              expand host fuel restored
                (if isQuoted then fields.add value else fields.addSplit value) rest
          | other => (other, restored, fields)

/-- Expands words to fields. -/
def expandAll
    (host : Host) :
    Nat → State → List Bytes → List Word → Flow × State × List Bytes
  | 0, state, fields, _ => (.outOfTime, state, fields)
  | _, state, fields, [] => (.next, state, fields)
  | fuel + 1, state, fields, word :: rest =>
      match expand host fuel state {} word with
      | (.next, after, found) =>
          expandAll host fuel after (fields ++ found.all) rest
      | (other, after, _) => (other, after, fields)

/-- Expands a word to one field. -/
def expandOne
    (host : Host)
    (fuel : Nat)
    (state : State)
    (word : Word) :
    Flow × State × Bytes :=
  match fuel with
  | 0 => (.outOfTime, state, [])
  | fuel + 1 =>
      match expand host fuel state {} word with
      | (flow, after, found) => (flow, after, List.intercalate [' '] found.all)

/-- Expands the values of assignments. -/
def expandAssignments
    (host : Host) :
    Nat → State → List (Bytes × Bytes) → List (Bytes × Word) →
      Flow × State × List (Bytes × Bytes)
  | 0, state, found, _ => (.outOfTime, state, found)
  | _, state, found, [] => (.next, state, found)
  | fuel + 1, state, found, (name, word) :: rest =>
      match expandOne host fuel state word with
      | (.next, after, value) =>
          expandAssignments host fuel after (found ++ [(name, value)]) rest
      | (other, after, _) => (other, after, found)

/-- Redirects streams; an error text tells what could not be opened. -/
def redirect
    (host : Host) :
    Nat → State → List Redirection → Flow × State × Option String
  | 0, state, _ => (.outOfTime, state, none)
  | _, state, [] => (.next, state, none)
  | fuel + 1, state, redirection :: rest =>
      match redirection with
      | .document content =>
          match expand host fuel state {} content with
          | (.next, after, found) =>
              redirect host fuel
                { after with input := List.intercalate [' '] found.all } rest
          | (other, after, _) => (other, after, none)
      | .write stream appends target =>
          match expandOne host fuel state target with
          | (.next, after, name) =>
              match after.openFile (after.resolve name) appends with
              | .ok (channel, opened) =>
                  redirect host fuel (opened.redirected stream channel) rest
              | .error fault => (.next, after, some (writeFault name fault))
          | (other, after, _) => (other, after, none)
      | .read target =>
          match expandOne host fuel state target with
          | (.next, after, name) =>
              match after.disk.readBytes (after.resolve name) with
              | .ok content =>
                  redirect host fuel { after with input := ofContent content } rest
              | .error .isDirectory => redirect host fuel { after with input := [] } rest
              | .error fault => (.next, after, some (readFault name fault))
          | (other, after, _) => (other, after, none)
      | .copy stream source =>
          match expandOne host fuel state source with
          | (.next, after, name) =>
              match decimal? name with
              | some number =>
                  redirect host fuel
                    (after.redirected stream (after.channel number)) rest
              | none =>
                  if name = ['-'] then
                    redirect host fuel (after.redirected stream .discard) rest
                  else
                    (.next, after, some ("Bad fd number"))
          | (other, after, _) => (other, after, none)

/-- Runs a program file with arguments, as a process of its own. -/
def runFile
    (host : Host) :
    Nat → String → List Bytes → State → Except FileFault (Flow × State)
  | 0, _, _, state => .ok (.outOfTime, state)
  | fuel + 1, path, arguments, state =>
      match launchOf state.disk path with
      | .fault fault => .error fault
      | .script interpreter extra =>
          runFile host fuel (state.resolve interpreter)
            (extra ++ ofText path :: arguments) state
      | .known name =>
          if shellNames.contains name then
            match arguments with
            | ['-', 'c'] :: script :: rest =>
                .ok
                  (run host fuel false
                    { state with name := rest.headD (ofText name), arguments := rest.drop 1 }
                    (commandOf script))
            | [] => .ok (run host fuel false state (commandOf state.input))
            | first :: rest =>
                if isOption first then
                  match rest with
                  | script :: rest =>
                      runScript host fuel (first.contains 'e') script rest state
                  | [] => .ok (run host fuel false state (commandOf state.input))
                else
                  runScript host fuel false first rest state
          else if name = envName then
            match arguments.dropWhile (fun argument => argument.contains '=') with
            | [] => .ok (done state 0)
            | program :: rest =>
                match state.programPath? host program with
                | some path => runFile host fuel path rest state
                | none =>
                    .ok
                      (failed state 127
                        ("env: '" ++ toName program ++ "': No such file or directory"))
          else
            match host.installed.lookup name with
            | some program => .ok (program arguments state)
            | none => .error .missing

/-- Runs the script in a file. -/
def runScript
    (host : Host)
    (fuel : Nat)
    (stopsOnFailure : Bool)
    (script : Bytes)
    (arguments : List Bytes)
    (state : State) :
    Except FileFault (Flow × State) :=
  match fuel with
  | 0 => .ok (.outOfTime, state)
  | fuel + 1 =>
      match state.disk.readBytes (state.resolve script) with
      | .ok content =>
          .ok
            (run host fuel false
              { state with
                name := script
                arguments := arguments
                stopsOnFailure := stopsOnFailure
                status := 0 }
              (commandOf (ofContent content)))
      | .error fault =>
          .ok
            (failed state 2
              ("sh: 0: " ++ readFault script fault))

/-- Runs a command that is given as fields. -/
def runFields
    (host : Host) :
    Nat → Nat → List Bytes → State → Flow × State
  | 0, _, _, state => (.outOfTime, state)
  | _, _, [], state => done state 0
  | fuel + 1, line, name :: arguments, state =>
      if name = "exec".toList then
        match arguments with
        | [] => done state 0
        | program :: rest =>
            match state.programPath? host program with
            | none =>
                ( .leave,
                  (state.reportAt line
                    ("exec: " ++ toName program ++ ": not found")).withStatus 127 )
            | some path =>
                match runFile host fuel path rest state with
                | .ok (.next, after) => (.leave, after)
                | .ok other => other
                | .error _ =>
                    ( .leave,
                      (state.reportAt line
                        ("exec: " ++ toName program ++ ": Permission denied")).withStatus
                          126 )
      else if name = "eval".toList then
        run host fuel false state (commandOf (List.intercalate [' '] arguments))
      else if name = ['.'] then
        match state.disk.readBytes (state.resolve (arguments.headD [])) with
        | .ok content => run host fuel false state (commandOf (ofContent content))
        | .error _ =>
            ( .leave,
              (state.reportAt line
                (".: cannot open " ++ toName (arguments.headD []) ++ ": No such file")).withStatus
                  2 )
      else if name = "command".toList then
        runFields host fuel line
          (arguments.filter fun argument => !isOption argument) state
      else
        match builtin? host line name with
        | some program => program arguments state
        | none =>
            match state.programPath? host name with
            | none =>
                done (state.reportAt line (toName name ++ ": not found")) 127
            | some path =>
                match runFile host fuel path arguments state with
                | .ok result => asCommand state result
                | .error .badFormat =>
                    match runScript host fuel false (ofText path) arguments state with
                    | .ok result => asCommand state result
                    | .error _ => done state 126
                | .error _ =>
                    done
                      (state.reportAt line (toName name ++ ": Permission denied")) 126

/-- Runs a command.  A condition does not end the script when it fails. -/
def run
    (host : Host) :
    Nat → Bool → State → Command → Flow × State
  | 0, _, state, _ => (.outOfTime, state)
  | _, _, state, .nothing => (.next, state)
  | _, _, state, .malformed line fault =>
      (.leave, (state.reportAt line fault.text).withStatus 2)
  | fuel + 1, isCondition, state, .sequence first second =>
      match run host fuel isCondition state first with
      | (.next, after) => run host fuel isCondition after second
      | other => other
  | fuel + 1, isCondition, state, .both first second =>
      match run host fuel true state first with
      | (.next, after) =>
          if after.status = 0 then run host fuel isCondition after second
          else (.next, after)
      | other => other
  | fuel + 1, isCondition, state, .either first second =>
      match run host fuel true state first with
      | (.next, after) =>
          if after.status = 0 then (.next, after)
          else run host fuel isCondition after second
      | other => other
  | fuel + 1, _, state, .inverted command =>
      match run host fuel true state command with
      | (.next, after) => done after (if after.status = 0 then 1 else 0)
      | other => other
  | fuel + 1, isCondition, state, .piped first second =>
      match asCommand state
          (let (flow, after) :=
            run host fuel true { state with output := .collect, collected := [] } first
           (flow, after)) with
      | (.next, after) =>
          let content := after.collected
          let result :=
            run host fuel true
              { after with input := content, collected := state.collected } second
          match asCommand state result with
          | (.next, final) => finish isCondition final
          | other => other
      | other => other
  | fuel + 1, isCondition, state, .enclosed body redirections =>
      match redirect host fuel state redirections with
      | (.next, opened, none) =>
          match asCommand state (run host fuel isCondition opened body) with
          | (.next, final) => finish isCondition final
          | other => other
      | (.next, opened, some message) =>
          done ((opened.withStreams state).reportAt 0 message) 2
      | (other, opened, _) => (other, opened)
  | fuel + 1, isCondition, state, .detached command =>
      let (_, after) := run host fuel isCondition state command
      done
        { state with
          disk := after.disk
          collected := after.collected
          logged := after.logged }
        0
  | fuel + 1, isCondition, state, .grouped body redirections =>
      match redirect host fuel state redirections with
      | (.next, opened, none) =>
          let (flow, after) := run host fuel isCondition opened body
          (flow, if redirections.isEmpty then after else after.withStreams state)
      | (.next, opened, some message) =>
          done ((opened.withStreams state).reportAt 0 message) 2
      | (other, opened, _) => (other, opened)
  | fuel + 1, isCondition, state, .branch condition yes no =>
      match run host fuel true state condition with
      | (.next, after) =>
          if after.status = 0 then
            run host fuel isCondition (after.withStatus 0) yes
          else
            run host fuel isCondition (after.withStatus 0) no
      | other => other
  | fuel + 1, isCondition, state, .loop isUntil condition body =>
      match run host fuel true state condition with
      | (.next, after) =>
          if (after.status = 0) = isUntil then
            done after 0
          else
            match run host fuel isCondition after body with
            | (.next, again) | (.nextRound 1, again) | (.nextRound 0, again) =>
                run host fuel isCondition again (.loop isUntil condition body)
            | (.leaveLoops 1, final) | (.leaveLoops 0, final) => (.next, final)
            | (.leaveLoops (count + 1), final) => (.leaveLoops count, final)
            | (.nextRound (count + 1), final) => (.nextRound count, final)
            | other => other
      | other => other
  | fuel + 1, isCondition, state, .each name items body =>
      match expandAll host fuel state [] items with
      | (.next, after, values) =>
          runEach host fuel isCondition (after.withStatus 0) name body values
      | (other, after, _) => (other, after)
  | fuel + 1, isCondition, state, .simple line assignments words redirections =>
      match expandAll host fuel state [] words with
      | (.next, expanded, fields) =>
          match expandAssignments host fuel expanded [] assignments with
          | (.next, assigned, values) =>
              match redirect host fuel assigned redirections with
              | (.next, opened, some message) =>
                  let after := ((opened.withStreams state).reportAt line message).withStatus 2
                  if isSpecial (fields.headD []) then (.leave, after)
                  else finish isCondition after
              | (.next, opened, none) =>
                  match fields with
                  | [] =>
                      finish isCondition
                        ((setAll values opened).withStreams state)
                  | name :: _ =>
                      let (flow, after) := runFields host fuel line fields (setAll values opened)
                      let final :=
                        if name = "exec".toList || name = "read".toList && redirections.isEmpty then after
                        else after.withStreams state
                      match flow with
                      | .next => finish isCondition final
                      | other => (other, final)
              | (other, opened, _) => (other, opened)
          | (other, after, _) => (other, after)
      | (other, after, _) => (other, after)

/-- Runs a body for each of several values. -/
def runEach
    (host : Host) :
    Nat → Bool → State → Bytes → Command → List Bytes → Flow × State
  | 0, _, state, _, _, _ => (.outOfTime, state)
  | _, _, state, _, _, [] => (.next, state)
  | fuel + 1, isCondition, state, name, body, value :: rest =>
      match run host fuel isCondition (state.setVariable name value) body with
      | (.next, after) | (.nextRound 1, after) | (.nextRound 0, after) =>
          runEach host fuel isCondition after name body rest
      | (.leaveLoops 1, final) | (.leaveLoops 0, final) => (.next, final)
      | (.leaveLoops (count + 1), final) => (.leaveLoops count, final)
      | (.nextRound (count + 1), final) => (.nextRound count, final)
      | other => other

/-- The end of a command: a failure may end the script. -/
def finish
    (isCondition : Bool)
    (state : State) :
    Flow × State :=
  if state.stopsOnFailure && !isCondition && state.status != 0 then
    (.leave, state)
  else
    (.next, state)

end

end ApiTree.Shell
