import ApiTree.Shell.Escape
import ApiTree.Shell.State

namespace ApiTree.Shell

open ApiTree.Files (Disk Entry FileFault Place)

/-!
# Programs that scripts use

Each program takes arguments and a state and says how it ends.  A program reads
files or the input stream, puts out bytes, changes the disk, and leaves a
status.
-/

/-- A program: arguments and a state give an end and a state. -/
abbrev Program : Type :=
  List Bytes → State → Flow × State

/-- The end of a program with a status. -/
def done
    (state : State)
    (status : Nat) :
    Flow × State :=
  (.next, state.withStatus status)

/-- The text of a fault without its number. -/
def faultReason (fault : FileFault) : String :=
  (fault.text.splitOn " (os error").headD ""

/-- The end of a program that reports an error. -/
def failed
    (state : State)
    (status : Nat)
    (message : String) :
    Flow × State :=
  done (state.report message) status

/-- What a program reads: a file, or the input stream. -/
def contentOf
    (state : State)
    (name : Bytes) :
    Except FileFault Bytes :=
  if name = ['-'] then
    .ok state.input
  else
    (state.disk.readBytes (state.resolve name)).map ofContent

/-- Whether an argument is an option. -/
def isOption (argument : Bytes) : Bool :=
  argument.head? == some '-' && argument.length > 1

/-- The letters of the options among arguments, and the other arguments. -/
def splitOptions (arguments : List Bytes) : Bytes × List Bytes :=
  ( (arguments.filter isOption).flatMap (·.drop 1),
    arguments.filter fun argument => !isOption argument )

/-! ## Printing -/

/-- Prints its arguments. -/
def echo : Program :=
  fun arguments state => done (state.print (echoBytes arguments)) 0

/-- Prints arguments by a format. -/
def printFormat : Program :=
  fun arguments state =>
    match arguments with
    | [] => failed state 2 "printf: usage: printf format [arg ...]"
    | format :: values =>
        done (state.print (formatBytes format (values.length + 1) values)) 0

/-- Puts out the content of files. -/
def concatenate : Program :=
  fun arguments state =>
    let names := (splitOptions arguments).2
    (if names.isEmpty then [['-']] else names).foldl
      (fun (result : Flow × State) name =>
        match contentOf result.2 name with
        | .ok content => (.next, result.2.print content)
        | .error fault =>
            failed result.2 1 ("cat: " ++ toName name ++ ": " ++ faultReason fault))
      (done state 0)

/-! ## Parts of a content -/

/-- The number that an option gives, and the files; the option may be split. -/
def countOption
    (letter : Char) :
    List Bytes → Option Nat × List Bytes
  | ('-' :: first :: digits) :: rest =>
      if first = letter then
        if digits.isEmpty then
          (decimal? (rest.headD []), rest.drop 1)
        else
          (decimal? digits, rest)
      else
        let (found, others) := countOption letter rest
        match decimal? (first :: digits) with
        | some count =>
            if letter = 'n' then (some count, others) else (found, ('-' :: first :: digits) :: others)
        | none => (found, ('-' :: first :: digits) :: others)
  | argument :: rest =>
      let (found, others) := countOption letter rest
      (found, argument :: others)
  | [] => (none, [])

/-- A program that puts out a part of a content. -/
def portion
    (name : String)
    (ofBytes : Nat → Bytes → Bytes)
    (ofLines : Nat → List Bytes → List Bytes) :
    Program :=
  fun arguments state =>
    let (bytes, others) := countOption 'c' arguments
    let (lines, files) := countOption 'n' others
    match contentOf state (files.headD ['-']) with
    | .error fault =>
        failed state 1
          (name ++ ": cannot open '" ++ toName (files.headD []) ++ "' for reading: " ++
            faultReason fault)
    | .ok content =>
        done
          (state.print
            (match bytes with
              | some count => ofBytes count content
              | none =>
                  let chosen := ofLines (lines.getD 10) (linesOf content)
                  let text := joinLines chosen
                  if text.isSuffixOf content || text.isPrefixOf content then text
                  else text.dropLast))
          0

/-- The last elements of a list. -/
def lastOf
    {α : Type}
    (count : Nat)
    (items : List α) :
    List α :=
  items.drop (items.length - count)

/-- The number of fields of a text. -/
def fieldCount (content : Bytes) : Nat :=
  (content.foldl
    (fun (state : Nat × Bool) char =>
      if isFieldSeparator char then (state.1, false)
      else (if state.2 then state.1 else state.1 + 1, true))
    (0, false)).1

/-- Counts lines, fields and bytes. -/
def count : Program :=
  fun arguments state =>
    let (letters, files) := splitOptions arguments
    match contentOf state (files.headD ['-']) with
    | .error fault =>
        failed state 1 ("wc: " ++ toName (files.headD []) ++ ": " ++ faultReason fault)
    | .ok content =>
        let numbers :=
          [('l', content.count '\n'), ('w', fieldCount content), ('c', content.length)]
        let chosen :=
          if letters.isEmpty then numbers
          else numbers.filter fun entry => letters.contains entry.1
        let texts := chosen.map fun entry => toString entry.2
        let width := if chosen.length ≤ 1 then 0 else (toString content.length).length
        let padded := texts.map fun text =>
          String.ofList (List.replicate (width - text.length) ' ') ++ text
        let words :=
          padded ++ (files.take 1).map toName
        done (state.print (ofText (String.intercalate " " words) ++ ['\n'])) 0

/-- Whether a text occurs in a line. -/
def occursIn (pattern : Bytes) : Bytes → Bool
  | [] => pattern.isEmpty
  | char :: rest => pattern.isPrefixOf (char :: rest) || occursIn pattern rest

/-- Whether a line holds a pattern; marks at its ends tie it to the ends of the line. -/
def lineMatches (pattern line : Bytes) : Bool :=
  match pattern with
  | '^' :: rest =>
      if rest.getLast? = some '$' then rest.dropLast == line
      else rest.isPrefixOf line
  | _ =>
      if pattern.getLast? = some '$' then pattern.dropLast.isSuffixOf line
      else occursIn pattern line

/-- Looks for the lines that hold a pattern. -/
def search : Program :=
  fun arguments state =>
    let (letters, others) := splitOptions arguments
    match others with
    | [] => failed state 2 "Usage: grep [OPTION]... PATTERNS [FILE]..."
    | pattern :: files =>
        match contentOf state (files.headD ['-']) with
        | .error fault =>
            failed state 2
              ("grep: " ++ toName (files.headD []) ++ ": " ++ faultReason fault)
        | .ok content =>
            let found := (linesOf content).filter fun line =>
              lineMatches pattern line != letters.contains 'v'
            let shown :=
              if letters.contains 'q' then []
              else if letters.contains 'c' then ofText (toString found.length) ++ ['\n']
              else joinLines found
            done (state.print shown) (if found.isEmpty then 1 else 0)

/-! ## Names of files -/

/-- The part of a path after its last slash. -/
def lastPart (path : Bytes) : Bytes :=
  let trimmed := (path.reverse.dropWhile (· == '/')).reverse
  if trimmed.isEmpty then path.take 1
  else (trimmed.reverse.takeWhile (· != '/')).reverse

/-- The part of a path before its last slash. -/
def leadingPart (path : Bytes) : Bytes :=
  let trimmed := (path.reverse.dropWhile (· == '/')).reverse
  let leading := (trimmed.reverse.dropWhile (· != '/'))
  let directory := (leading.dropWhile (· == '/')).reverse
  if !directory.isEmpty then directory
  else if path.head? == some '/' then ['/']
  else ['.']

/-- Prints the name in a path, without an ending. -/
def baseName : Program :=
  fun arguments state =>
    match arguments with
    | [] => failed state 1 "basename: missing operand"
    | path :: rest =>
        let name := lastPart path
        let ending := rest.headD []
        let shown :=
          if ending.isSuffixOf name && ending != name then
            name.take (name.length - ending.length)
          else
            name
        done (state.print (shown ++ ['\n'])) 0

/-- Prints the directory in a path. -/
def directoryName : Program :=
  fun arguments state =>
    match arguments with
    | [] => failed state 1 "dirname: missing operand"
    | path :: _ => done (state.print (leadingPart path ++ ['\n'])) 0

/-! ## Changes of the disk -/

/-- Does something for each argument until all are done; a fault is reported. -/
def forEach
    (describe : Bytes → FileFault → String)
    (act : State → Bytes → Except FileFault State)
    (names : List Bytes)
    (state : State) :
    Flow × State :=
  names.foldl
    (fun (result : Flow × State) name =>
      match act result.2 name with
      | .ok changed => (.next, changed)
      | .error fault => failed result.2 1 (describe name fault))
    (done state 0)

/-- Removes files, and directories where asked to. -/
def removeFiles : Program :=
  fun arguments state =>
    let (letters, names) := splitOptions arguments
    let recursive := letters.contains 'r' || letters.contains 'R'
    forEach
      (fun name fault =>
        "rm: cannot remove '" ++ toName name ++ "': " ++ faultReason fault)
      (fun state name =>
        let path := state.resolve name
        match state.disk.find path with
        | .error fault => if letters.contains 'f' then .ok state else .error fault
        | .ok entry =>
            if entry == .directory && !recursive then
              .error .isDirectory
            else do
              let place ← state.disk.locate path
              .ok { state with disk := state.disk.remove place })
      names state

/-- Makes directories. -/
def makeDirectories : Program :=
  fun arguments state =>
    let (letters, names) := splitOptions arguments
    forEach
      (fun name fault =>
        "mkdir: cannot create directory '" ++ toName name ++ "': " ++ faultReason fault)
      (fun state name =>
        let path := state.resolve name
        match state.disk.find path with
        | .ok entry =>
            if letters.contains 'p' && entry == .directory then .ok state
            else .error (.other "File exists")
        | .error fault =>
            if letters.contains 'p' then
              .ok
                { state with
                  disk := state.disk.makeDirectories
                    (Files.startOf path ++ Files.pathParts path) }
            else
              match state.disk.holder path with
              | .ok directory =>
                  match (Files.pathParts path).getLast? with
                  | some last =>
                      .ok
                        { state with
                          disk := state.disk.put (directory ++ [last]) .directory }
                  | none => .error fault
              | .error fault => .error fault)
      names state

/-- Makes empty files where there are none. -/
def touchFiles : Program :=
  fun arguments state =>
    forEach
      (fun name fault =>
        "touch: cannot touch '" ++ toName name ++ "': " ++ faultReason fault)
      (fun state name =>
        let path := state.resolve name
        match state.disk.find path with
        | .ok _ => .ok state
        | .error _ => (state.openFile path true).map (·.2))
      (splitOptions arguments).2 state

/-- Changes whether files may be run. -/
def changeMode : Program :=
  fun arguments state =>
    match arguments with
    | [] => failed state 1 "chmod: missing operand"
    | mode :: names =>
        let runnable :=
          match mode with
          | '-' :: _ => false
          | _ =>
              mode.contains 'x' ||
                mode.any fun char => ['1', '3', '5', '7'].contains char
        forEach
          (fun name fault =>
            "chmod: cannot access '" ++ toName name ++ "': " ++ faultReason fault)
          (fun state name => do
            let path := state.resolve name
            let place ← state.disk.locate path
            match ← state.disk.find path with
            | .file content _ =>
                .ok
                  { state with
                    disk := state.disk.put place (.file content runnable) }
            | .directory => .ok state)
          names state

/-- The path that a file gets at a target: the target, or a name in it. -/
def targetPath
    (state : State)
    (source target : Bytes) :
    String :=
  let path := state.resolve target
  match state.disk.find path with
  | .ok .directory => Files.joinPath path (toName (lastPart source))
  | _ => path

/-- Copies a file, or moves it. -/
def transfer
    (name : String)
    (moves : Bool) :
    Program :=
  fun arguments state =>
    match (splitOptions arguments).2 with
    | [source, target] =>
        match state.disk.find (state.resolve source) with
        | .error fault =>
            failed state 1
              (name ++ ": cannot stat '" ++ toName source ++ "': " ++ faultReason fault)
        | .ok .directory =>
            failed state 1
              (name ++ ": -r not specified; omitting directory '" ++ toName source ++ "'")
        | .ok (.file content isExecutable) =>
            match state.disk.destination (targetPath state source target) with
            | .error fault =>
                failed state 1
                  (name ++ ": cannot create regular file '" ++ toName target ++ "': " ++
                    faultReason fault)
            | .ok place =>
                let kept :=
                  if moves then
                    match state.disk.locate (state.resolve source) with
                    | .ok old => state.disk.remove old
                    | .error _ => state.disk
                  else
                    state.disk
                done
                  { state with
                    disk := kept.put place (.file content isExecutable) }
                  0
    | _ => failed state 1 (name ++ ": missing file operand")

/-- The names in a directory. -/
def namesIn
    (disk : Disk)
    (directory : Place) :
    List String :=
  (disk.entries.filterMap fun stored =>
    match stored.1.getLast? with
    | some last => if stored.1.dropLast == directory then some last else none
    | none => none).mergeSort fun first second => !decide (second < first)

/-- Lists the names in a directory. -/
def listNames : Program :=
  fun arguments state =>
    let name := (splitOptions arguments).2.headD ['.']
    let path := state.resolve name
    match state.disk.find path, state.disk.locate path with
    | .ok .directory, .ok place =>
        let names := (namesIn state.disk place).filter fun name => !name.startsWith "."
        done (state.print (joinLines (names.map ofText))) 0
    | .ok _, _ => done (state.print (name ++ ['\n'])) 0
    | .error fault, _ =>
        failed state 2
          ("ls: cannot access '" ++ toName name ++ "': " ++ faultReason fault)

/-! ## Tests -/

/-- An integer in decimal digits. -/
def integer? (bytes : Bytes) : Option Int :=
  match bytes with
  | '-' :: digits => (decimal? digits).map fun value => -(value : Int)
  | _ => (decimal? bytes).map fun value => (value : Int)

/-- The comparison of numbers that an operator names. -/
def comparison? (operator : String) : Option (Int → Int → Bool) :=
  match operator with
  | "-eq" => some fun first second => first == second
  | "-ne" => some fun first second => first != second
  | "-lt" => some fun first second => decide (first < second)
  | "-le" => some fun first second => decide (first ≤ second)
  | "-gt" => some fun first second => decide (second < first)
  | "-ge" => some fun first second => decide (second ≤ first)
  | _ => none

/-- Whether a condition on one value holds. -/
def holdsFor?
    (state : State)
    (operator value : Bytes) :
    Option Bool :=
  let path := state.resolve value
  match String.ofList operator with
  | "-n" => some !value.isEmpty
  | "-z" => some value.isEmpty
  | "-e" | "-r" | "-w" => some (state.disk.exists? path)
  | "-f" =>
      some (match state.disk.find path with
        | .ok (.file _ _) => true
        | _ => false)
  | "-d" =>
      some (match state.disk.find path with
        | .ok .directory => true
        | _ => false)
  | "-x" => some (state.disk.isRunnable path)
  | "-s" =>
      some (match state.disk.find path with
        | .ok (.file content _) => content.size != 0
        | .ok .directory => true
        | .error _ => false)
  | _ => none

/-- Whether a simple condition holds; `none` if it is no condition. -/
def simpleCondition? (state : State) : List Bytes → Option Bool
  | [] => some false
  | [value] => some !value.isEmpty
  | ['!'] :: rest => (simpleCondition? state rest).map (!·)
  | [operator, value] => holdsFor? state operator value
  | [first, operator, second] =>
      if operator = ['='] then some (first == second)
      else if operator = ['!', '='] then some (first != second)
      else do
        let compare ← comparison? (String.ofList operator)
        some (compare (← integer? first) (← integer? second))
  | _ => none

/-- The parts of a list between separators. -/
def splitArguments
    (separator : Bytes)
    (arguments : List Bytes) :
    List (List Bytes) :=
  arguments.foldr
    (fun argument parts =>
      if argument = separator then
        [] :: parts
      else
        match parts with
        | [] => [[argument]]
        | first :: rest => (argument :: first) :: rest)
    [[]]

/-- Whether a condition holds: one of several, each of which may have parts. -/
def condition?
    (state : State)
    (arguments : List Bytes) :
    Option Bool :=
  if arguments.length ≤ 3 then
    simpleCondition? state arguments
  else do
    let choices ← (splitArguments ['-', 'o'] arguments).mapM fun choice => do
      let parts ← (splitArguments ['-', 'a'] choice).mapM (simpleCondition? state)
      some (parts.all id)
    some (choices.any id)

/-- Tests a condition. -/
def test : Program :=
  fun arguments state =>
    match condition? state arguments with
    | some true => done state 0
    | some false => done state 1
    | none => done (state.report "test: unexpected operator") 2

/-! ## Time and signals -/

/-- The milliseconds that a number of seconds spells. -/
def milliseconds? (bytes : Bytes) : Option Nat :=
  let bytes := if bytes.getLast? = some 's' then bytes.dropLast else bytes
  let whole := bytes.takeWhile (· != '.')
  let fraction := (bytes.drop (whole.length + 1)).take 3
  if whole.isEmpty && fraction.isEmpty then
    none
  else do
    let seconds ← if whole.isEmpty then some 0 else decimal? whole
    let thousandths ←
      decimal? (fraction ++ List.replicate (3 - fraction.length) '0')
    some (1000 * seconds + thousandths)

/-- Waits. -/
def sleep : Program :=
  fun arguments state =>
    match arguments with
    | [] => failed state 1 "sleep: missing operand"
    | duration :: _ =>
        match milliseconds? duration with
        | some time => state.wait time
        | none =>
            if duration = "infinity".toList then
              (.outOfTime, state)
            else
              failed state 1
                ("sleep: invalid time interval '" ++ toName duration ++ "'")

end ApiTree.Shell
