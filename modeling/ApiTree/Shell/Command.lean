import ApiTree.Shell.Token

namespace ApiTree.Shell

/-!
# Commands of a script

A script is a sequence of commands.  Commands are joined by conditions and
pipes, grouped, chosen and repeated; a simple command has assignments, words
and redirections.
-/

/-- What a redirection does to a stream. -/
inductive Redirection where
  | write (stream : Nat) (appends : Bool) (target : Word)
  | read (target : Word)
  | copy (stream : Nat) (source : Word)
  | document (content : Word)
  deriving Repr

/-- Why a script is not understood. -/
inductive ScriptFault where
  | word (fault : WordFault)
  | unexpected (symbol : String) (expected : Option String)
  deriving Repr, DecidableEq

/-- A command. -/
inductive Command where
  | simple
      (line : Nat)
      (assignments : List (Bytes × Word))
      (words : List Word)
      (redirections : List Redirection)
  | inverted (command : Command)
  | piped (first second : Command)
  | both (first second : Command)
  | either (first second : Command)
  | sequence (first second : Command)
  | grouped (body : Command) (redirections : List Redirection)
  | enclosed (body : Command) (redirections : List Redirection)
  /-- A command that is not waited for. -/
  | detached (command : Command)
  | branch (condition yes no : Command)
  | loop (isUntil : Bool) (condition body : Command)
  | each (name : Bytes) (items : List Word) (body : Command)
  | nothing
  | malformed (line : Nat) (fault : ScriptFault)
  deriving Repr, Inhabited

/-- A fault and its line. -/
abbrev PlacedFault : Type := Nat × ScriptFault

/-- The words that have a meaning of their own at the start of a command. -/
def reservedWords : List String :=
  ["if", "then", "elif", "else", "fi", "while", "until", "do", "done", "for", "in",
    "\x7b", "\x7d", "!", "case", "esac"]

/-- The reserved word that a token is. -/
def Token.reserved? (token : Token) : Option String :=
  match token.kind with
  | .word pieces =>
      match plainText? pieces with
      | some chars =>
          let text := String.ofList chars
          if reservedWords.contains text then some text else none
      | none => none
  | _ => none

/-- Whether a token is a given operator. -/
def Token.isOperator
    (symbol : String)
    (token : Token) :
    Bool :=
  match token.kind with
  | .operator found => found == symbol
  | _ => false

/-- Whether a token is a given reserved word. -/
def Token.isReserved
    (word : String)
    (token : Token) :
    Bool :=
  token.reserved? == some word

/-- How messages name a token. -/
def Token.text (token : Token) : String :=
  match token.kind with
  | .word _ =>
      match token.reserved? with
      | some word => "\"" ++ word ++ "\""
      | none => "word"
  | .operator "\n" => "newline"
  | .operator symbol => "\"" ++ symbol ++ "\""
  | .redirect _ _ | .document _ => "redirection"
  | .broken _ => "end of file"

/-- The fault of a token where it does not belong. -/
def unexpectedToken
    (expected : Option String) :
    List Token → PlacedFault
  | [] => (0, .unexpected "end of file" expected)
  | token :: _ =>
      match token.kind with
      | .broken fault => (token.line, .word fault)
      | _ => (token.line, .unexpected token.text expected)

/-- Leaves line ends. -/
def skipLines (tokens : List Token) : List Token :=
  tokens.dropWhile (Token.isOperator "\n")

/-- Whether a token ends a command. -/
def Token.endsCommand (token : Token) : Bool :=
  token.isOperator "\n" || token.isOperator ";" || token.isOperator "&"

/-- Leaves what ends a command, once, and line ends after it. -/
def skipEnding (tokens : List Token) : List Token :=
  match tokens with
  | token :: rest => if token.endsCommand then skipLines rest else tokens
  | [] => []

/-- Leaves a reserved word that has to stand there. -/
def expectReserved
    (word : String) :
    List Token → Except PlacedFault (List Token)
  | [] => .error (unexpectedToken (some word) [])
  | token :: rest =>
      if token.isReserved word then
        .ok rest
      else
        .error (unexpectedToken (some word) (token :: rest))

/-- The redirection that a token starts, and the rest. -/
def redirectionFrom
    (stream : Option Nat)
    (symbol : String) :
    List Token → Except PlacedFault (Redirection × List Token)
  | ⟨.word target, _⟩ :: rest =>
      .ok
        ( if symbol = "<" ∨ symbol = "<>" then .read target
          else if symbol = ">&" then .copy (stream.getD 1) target
          else if symbol = "<&" then .copy (stream.getD 0) target
          else .write (stream.getD 1) (symbol = ">>") target,
          rest )
  | tokens => .error (unexpectedToken none tokens)

/-- The redirections at the start, and the rest. -/
def redirectionsFrom : Nat → List Token → Except PlacedFault (List Redirection × List Token)
  | fuel + 1, ⟨.redirect stream symbol, _⟩ :: rest => do
      let (first, after) ← redirectionFrom stream symbol rest
      let (others, final) ← redirectionsFrom fuel after
      .ok (first :: others, final)
  | fuel + 1, ⟨.document content, _⟩ :: rest => do
      let (others, final) ← redirectionsFrom fuel rest
      .ok (.document content :: others, final)
  | _, tokens => .ok ([], tokens)

/-- The rest of a simple command, and what follows it. -/
def simpleFrom
    (line : Nat)
    (assignments : List (Bytes × Word))
    (words : List Word)
    (redirections : List Redirection) :
    Nat → List Token → Except PlacedFault (Command × List Token)
  | fuel + 1, ⟨.word pieces, _⟩ :: rest =>
      match words, assignment? pieces with
      | [], some assignment =>
          simpleFrom line (assignments ++ [assignment]) words redirections fuel rest
      | _, _ =>
          simpleFrom line assignments (words ++ [pieces]) redirections fuel rest
  | fuel + 1, ⟨.redirect stream symbol, _⟩ :: rest => do
      let (redirection, after) ← redirectionFrom stream symbol rest
      simpleFrom line assignments words (redirections ++ [redirection]) fuel after
  | fuel + 1, ⟨.document content, _⟩ :: rest =>
      simpleFrom line assignments words (redirections ++ [.document content]) fuel rest
  | _, tokens =>
      match tokens with
      | ⟨.broken fault, broken⟩ :: _ => .error (broken, .word fault)
      | _ =>
          if assignments.isEmpty && words.isEmpty && redirections.isEmpty then
            .error (unexpectedToken none tokens)
          else
            .ok (.simple line assignments words redirections, tokens)

/-- The words of a list of items, and the rest. -/
def itemsFrom : List Token → List Word × List Token
  | ⟨.word pieces, _⟩ :: rest =>
      let (others, final) := itemsFrom rest
      (pieces :: others, final)
  | tokens => ([], tokens)

/-- All arguments of the script, as separate fields. -/
def allArguments : Word :=
  [.text [] true, .parameter ['@'] none true]

/-- A command as it is run given the tokens after it. -/
def Command.detachedBefore
    (command : Command)
    (tokens : List Token) :
    Command :=
  match tokens with
  | token :: _ => if token.isOperator "&" then .detached command else command
  | [] => command

mutual

/-- A command, and the rest. -/
def commandFrom : Nat → List Token → Except PlacedFault (Command × List Token)
  | 0, tokens => .error (unexpectedToken none tokens)
  | _, [] => .error (unexpectedToken none [])
  | fuel + 1, token :: rest =>
      match token.reserved? with
      | some "if" => branchFrom fuel rest
      | some "while" => loopFrom fuel false rest
      | some "until" => loopFrom fuel true rest
      | some "for" => eachFrom fuel rest
      | some "\x7b" => do
          let (body, after) ← blockFrom fuel rest
          let after ← expectReserved "\x7d" after
          let (redirections, final) ← redirectionsFrom (after.length + 1) after
          .ok (.grouped body redirections, final)
      | some _ => .error (unexpectedToken none (token :: rest))
      | none =>
          if token.isOperator "(" then do
            let (body, after) ← blockFrom fuel rest
            match after with
            | closing :: after =>
                if closing.isOperator ")" then do
                  let (redirections, final) ← redirectionsFrom (after.length + 1) after
                  .ok (.enclosed body redirections, final)
                else
                  .error (unexpectedToken (some ")") (closing :: after))
            | [] => .error (unexpectedToken (some ")") [])
          else
            simpleFrom token.line [] [] [] (rest.length + 2) (token :: rest)

/-- The rest of a choice after its first word. -/
def branchFrom : Nat → List Token → Except PlacedFault (Command × List Token)
  | 0, tokens => .error (unexpectedToken none tokens)
  | fuel + 1, tokens => do
      let (condition, after) ← blockFrom fuel tokens
      let after ← expectReserved "then" after
      let (yes, after) ← blockFrom fuel after
      match after with
      | [] => .error (unexpectedToken (some "fi") [])
      | token :: rest =>
          match token.reserved? with
          | some "fi" => .ok (.branch condition yes .nothing, rest)
          | some "elif" => do
              let (no, final) ← branchFrom fuel rest
              .ok (.branch condition yes no, final)
          | some "else" => do
              let (no, after) ← blockFrom fuel rest
              let final ← expectReserved "fi" after
              .ok (.branch condition yes no, final)
          | _ => .error (unexpectedToken (some "fi") after)

/-- The rest of a repetition after its first word. -/
def loopFrom : Nat → Bool → List Token → Except PlacedFault (Command × List Token)
  | 0, _, tokens => .error (unexpectedToken none tokens)
  | fuel + 1, isUntil, tokens => do
      let (condition, after) ← blockFrom fuel tokens
      let after ← expectReserved "do" after
      let (body, after) ← blockFrom fuel after
      let after ← expectReserved "done" after
      let (redirections, final) ← redirectionsFrom (after.length + 1) after
      .ok (.grouped (.loop isUntil condition body) redirections, final)

/-- The rest of a repetition over items after its first word. -/
def eachFrom : Nat → List Token → Except PlacedFault (Command × List Token)
  | fuel + 1, ⟨.word name, _⟩ :: rest => do
      let after := skipLines rest
      let (items, after) :=
        match after with
        | token :: following =>
            if token.isReserved "in" then itemsFrom following else ([allArguments], after)
        | [] => ([allArguments], [])
      let after ← expectReserved "do" (skipEnding after)
      let (body, after) ← blockFrom fuel after
      let after ← expectReserved "done" after
      let (redirections, final) ← redirectionsFrom (after.length + 1) after
      .ok (.grouped (.each (staticText name) items body) redirections, final)
  | _, tokens => .error (unexpectedToken none tokens)

/-- Commands joined by pipes, and the rest. -/
def pipelineFrom : Nat → List Token → Except PlacedFault (Command × List Token)
  | 0, tokens => .error (unexpectedToken none tokens)
  | _, [] => .error (unexpectedToken none [])
  | fuel + 1, token :: rest =>
      if token.isReserved "!" then do
        let (command, final) ← pipelineFrom fuel rest
        .ok (.inverted command, final)
      else do
        let (first, after) ← commandFrom fuel (token :: rest)
        match after with
        | pipe :: following =>
            if pipe.isOperator "|" then do
              let (second, final) ← pipelineFrom fuel (skipLines following)
              .ok (.piped first second, final)
            else
              .ok (first, after)
        | [] => .ok (first, [])

/-- Commands joined by conditions, and the rest; what comes first is given. -/
def conditionsFrom :
    Nat → Command → List Token → Except PlacedFault (Command × List Token)
  | fuel + 1, first, token :: rest =>
      if token.isOperator "&&" then do
        let (second, after) ← pipelineFrom fuel (skipLines rest)
        conditionsFrom fuel (.both first second) after
      else if token.isOperator "||" then do
        let (second, after) ← pipelineFrom fuel (skipLines rest)
        conditionsFrom fuel (.either first second) after
      else
        .ok (first, token :: rest)
  | _, first, tokens => .ok (first, tokens)

/-- Commands one after another up to a word that ends them, and the rest. -/
def blockFrom : Nat → List Token → Except PlacedFault (Command × List Token)
  | 0, tokens => .error (unexpectedToken none tokens)
  | fuel + 1, tokens =>
      match skipLines tokens with
      | [] => .ok (.nothing, [])
      | token :: rest =>
          if token.isOperator ")" then
            .ok (.nothing, token :: rest)
          else
            match token.reserved? with
            | some "then" | some "elif" | some "else" | some "fi" | some "do"
            | some "done" | some "\x7d" => .ok (.nothing, token :: rest)
            | _ => do
                let (first, after) ← pipelineFrom fuel (token :: rest)
                let (command, after) ← conditionsFrom fuel first after
                let (others, final) ← blockFrom fuel (skipEnding after)
                .ok (.sequence (command.detachedBefore after) others, final)

end

/-- The commands of tokens: those that stand before a fault, and the fault. -/
def commandsFrom
    (lastLine : Nat) :
    Nat → List Token → Command
  | 0, _ => .nothing
  | fuel + 1, tokens =>
      match skipLines tokens with
      | [] => .nothing
      | token :: rest =>
          let read := do
            let (first, after) ← pipelineFrom (4 * rest.length + 8) (token :: rest)
            conditionsFrom (after.length + 1) first after
          match read with
          | .error (line, fault) =>
              .malformed (if line = 0 then lastLine else line) fault
          | .ok (command, after) =>
              match after with
              | [] => command
              | separator :: _ =>
                  if separator.endsCommand then
                    .sequence (command.detachedBefore after)
                      (commandsFrom lastLine fuel (skipEnding after))
                  else
                    let (line, fault) := unexpectedToken none after
                    .malformed line fault

/-- The command that a script is. -/
def commandOf (script : Bytes) : Command :=
  let tokens := tokensOf script
  commandsFrom (script.count '\n' + 1) (tokens.length + 1) tokens

/-- The text of a fault. -/
def ScriptFault.text : ScriptFault → String
  | .word .unterminatedQuote => "Syntax error: Unterminated quoted string"
  | .word (.endOfFile expected) =>
      "Syntax error: end of file unexpected (expecting \"" ++ expected ++ "\")"
  | .word .badSubstitution => "Bad substitution"
  | .unexpected symbol none => "Syntax error: " ++ symbol ++ " unexpected"
  | .unexpected symbol (some expected) =>
      "Syntax error: " ++ symbol ++ " unexpected (expecting \"" ++ expected ++ "\")"

end ApiTree.Shell
