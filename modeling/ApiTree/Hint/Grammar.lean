import ApiTree.Hint.Expr
import ApiTree.Hint.Lexer
import ApiTree.Hint.Trouble

namespace ApiTree.Hint

/-!
# Grammar

A grammar rule takes the tokens that are left and gives an expression and what
is left after it.  The rules refer to each other through one argument, `rules`,
which stands for the rules at a smaller depth; the knot is tied in `ruleAt`.
Every reference is made after a token was taken, so a depth beyond the number
of tokens is never reached.

The rules of the interpreter are finer than these, and only so many of them may
be entered inside each other; beyond that the interpreter stops.  So each
reference says how many of the finer rules it leads further in, from the first
operand of the one expression to the first operand of the other.
-/

/-- What takes tokens from the front of a list. -/
abbrev Parser (α : Type) : Type :=
  List Token → Except Trouble (α × List Token)

/-- The rules that others refer to. -/
inductive Rule where
  | expression
  | disjunction
  | conjunction
  | inversion
  | bitOr
  | factor
  | primary
  deriving Repr, DecidableEq

/-- How many rules of the interpreter may be entered inside each other. -/
def stackLimit : Nat := 6000

/-- How many of them lead from a whole text to its first operand. -/
def operandDepth : Nat := 25

/-- How many of them fewer lead to an operator in front of that operand. -/
def operatorHeight : Nat := 5

/-- The rules at a place. -/
structure Rules where
  /-- How many rules of the interpreter stand around the place. -/
  level : Nat
  /-- The parser of a rule that is so many rules further in. -/
  parse : Nat → Rule → Parser Expr

/-- Enters rules down to an operand, so many rules further in. -/
def Rules.reachOperand
    (rules : Rules)
    (further : Nat) :
    Except Trouble Unit :=
  if stackLimit < rules.level + further + operandDepth then
    .error .crashed
  else
    .ok ()

/-- Enters rules down to an operator in front of an operand. -/
def Rules.reachOperator (rules : Rules) : Except Trouble Unit :=
  if stackLimit + operatorHeight < rules.level + operandDepth then
    .error .crashed
  else
    .ok ()

/-- Whether a mark comes next. -/
def nextIs
    (mark : String) :
    List Token → Bool
  | .mark found :: _ => found == mark
  | _ => false

/-- Takes a mark. -/
def expect (mark : String) : Parser Unit :=
  fun tokens =>
    if nextIs mark tokens then .ok ((), tokens.drop 1) else .error .rejected

/-- Takes a name. -/
def takeName : Parser String
  | .name text :: rest => .ok (text, rest)
  | _ => .error .rejected

/-- Forgets what an expression is. -/
def anonymous (parser : Parser Expr) : Parser Expr :=
  fun tokens => (parser tokens).map fun found => (.other, found.2)

/-- Marks an expression as unpacked. -/
def starredBy (parser : Parser Expr) : Parser Expr :=
  fun tokens => (parser tokens).map fun found => (.starred found.1, found.2)

/-- The operands after the first in a chain of operators that group to the left. -/
def chainRest
    (operators : List (String × BinaryOp))
    (operand : Parser Expr) :
    Nat → Expr → Parser Expr
  | 0, left, tokens => .ok (left, tokens)
  | bound + 1, left, tokens =>
      match tokens with
      | .mark mark :: rest =>
          match operators.lookup mark with
          | some op => do
              let (right, others) ← operand rest
              chainRest operators operand bound (.binary op left right) others
          | none => .ok (left, tokens)
      | _ => .ok (left, tokens)

/-- A chain of operators that group to the left, the first operand and the others. -/
def chain
    (operators : List (String × BinaryOp))
    (first operand : Parser Expr) :
    Parser Expr :=
  fun tokens => do
    let (left, rest) ← first tokens
    chainRest operators operand rest.length left rest

/-! ## Names, literals and what follows them -/

/-- The strings at the front, joined: texts with texts, byte strings with byte strings. -/
def takeStrings : List Token → List Token × List Token
  | .text points :: rest =>
      let (others, left) := takeStrings rest
      (.text points :: others, left)
  | .bytes :: rest =>
      let (others, left) := takeStrings rest
      (.bytes :: others, left)
  | .formatted expressions :: rest =>
      let (others, left) := takeStrings rest
      (.formatted expressions :: others, left)
  | rest => ([], rest)

/-- Whether a string is a byte string. -/
def isBytesToken : Token → Bool
  | .bytes => true
  | _ => false

/-- The code points of a string that is not formatted. -/
def tokenPoints : Token → List Nat
  | .text points => points
  | _ => []

/-- The expressions inside a formatted string. -/
def tokenExpressions : Token → List (List Char)
  | .formatted expressions => expressions
  | _ => []

/-- Whether a string is formatted. -/
def isFormattedToken : Token → Bool
  | .formatted _ => true
  | _ => false

/-- One expression of several adjacent strings. -/
def joinStrings
    (checkExpression : List Char → Except Trouble Unit)
    (strings : List Token) :
    Except Trouble Expr :=
  if strings.all isBytesToken then
    .ok (.constant .bytes)
  else if strings.any isBytesToken then
    .error .rejected
  else if strings.any isFormattedToken then do
    (strings.flatMap tokenExpressions).forM checkExpression
    .ok .other
  else
    .ok (.constant (.text (strings.flatMap tokenPoints)))

/-- The constant that a keyword or a mark stands for. -/
def markConstant? (mark : String) : Option Constant :=
  if mark = "None" then some .null
  else if mark = "True" then some (.bool true)
  else if mark = "False" then some (.bool false)
  else if mark = "..." then some .ellipsis
  else none

/-! ## Lists of items -/

/--
Items separated by commas up to a closing mark, the first one and the others.  The
last item may be followed by a comma.
-/
def itemsUntil
    {α : Type}
    (closing : String)
    (item later : Parser α) :
    Nat → Parser (List α)
  | 0, _ => .error .rejected
  | bound + 1, tokens =>
      if nextIs closing tokens then
        .ok ([], tokens.drop 1)
      else do
        let (first, rest) ← item tokens
        if nextIs "," rest then do
          let (others, left) ← itemsUntil closing later later bound (rest.drop 1)
          .ok (first :: others, left)
        else do
          let (_, left) ← expect closing rest
          .ok ([first], left)

/-- An expression that may be given a name, so many rules further in. -/
def namedRule
    (rules : Rules)
    (further : Nat) :
    Parser Expr
  | .name _ :: .mark ":=" :: rest =>
      anonymous (rules.parse (further + 1) .expression) rest
  | tokens => rules.parse further .expression tokens

/-- An item: an expression that may be named, or one that is unpacked. -/
def itemRule
    (rules : Rules)
    (further : Nat) :
    Parser Expr
  | .mark "*" :: rest => starredBy (rules.parse (further - 6) .bitOr) rest
  | tokens => namedRule rules further tokens

/-- Whether the first item is unpacked. -/
def startsUnpacked (tokens : List Token) : Bool :=
  nextIs "*" tokens

/-! ## Comprehensions -/

mutual

/-- Whether an expression may be assigned to. -/
def isTarget : Expr → Bool
  | .name _ | .attribute _ _ | .subscript _ _ => true
  | .list items | .tuple items => areTargets items
  | _ => false

/-- Whether each of several items may be assigned to, unpacked or not. -/
def areTargets : List Expr → Bool
  | [] => true
  | .starred value :: rest => isTarget value && areTargets rest
  | first :: rest => isTarget first && areTargets rest

end

/-- What a loop assigns to, so many rules further in, or two more if it is unpacked. -/
def targetRule
    (rules : Rules)
    (further : Nat) :
    Parser Expr :=
  fun tokens => do
    let (target, rest) ←
      if startsUnpacked tokens then
        rules.parse (further + 2) .primary (tokens.drop 1)
      else
        rules.parse further .primary tokens
    if isTarget target then .ok (target, rest) else .error .rejected

/-- The targets of a loop up to the mark behind them. -/
def targetsRule
    (rules : Rules)
    (further : Nat) :
    Parser Unit :=
  fun tokens => do
    let (targets, rest) ←
      itemsUntil "in" (targetRule rules further) (targetRule rules (further + 2))
        tokens.length tokens
    if targets.isEmpty then .error .rejected else .ok ((), rest)

/-- The conditions of a loop. -/
def conditionsRule
    (rules : Rules)
    (further : Nat) :
    Nat → Parser Unit
  | 0, tokens => .ok ((), tokens)
  | bound + 1, tokens =>
      if nextIs "if" tokens then do
        let (_, rest) ← rules.parse further .disjunction (tokens.drop 1)
        conditionsRule rules further bound rest
      else
        .ok ((), tokens)

/-- Whether a loop comes next. -/
def startsLoop : List Token → Bool
  | .mark "async" :: .mark "for" :: _ => true
  | .mark "for" :: _ => true
  | _ => false

/-- The loops of a comprehension, at least one; what they loop over is so much further in. -/
def loopsRule
    (rules : Rules)
    (further : Nat) :
    Nat → Parser Unit
  | 0, _ => .error .rejected
  | bound + 1, tokens => do
      let start := if nextIs "async" tokens then tokens.drop 1 else tokens
      let (_, behindFor) ← expect "for" start
      let (_, behindIn) ← targetsRule rules (further - 16) behindFor
      let (_, behindSource) ← rules.parse further .disjunction behindIn
      let (_, rest) ←
        conditionsRule rules (further + 2) behindSource.length behindSource
      if startsLoop rest then loopsRule rules further bound rest else .ok ((), rest)

/-- The loops of a comprehension up to its closing mark. -/
def comprehensionRule
    (rules : Rules)
    (further : Nat)
    (closing : String) :
    Parser Expr :=
  fun tokens => do
    let (_, rest) ← loopsRule rules further tokens.length tokens
    let (_, left) ← expect closing rest
    .ok (.other, left)

/-- How much further in stands what a comprehension in brackets loops over. -/
def displayLoop : Nat := 27

/-! ## Displays -/

/-- What a `yield` gives: an expression, several of them, or nothing. -/
def yieldRule (rules : Rules) : Parser Expr
  | .mark "from" :: rest => do
      let (_, others) ← rules.parse 27 .expression rest
      let (_, left) ← expect ")" others
      .ok (.other, left)
  | tokens => do
      let item (further : Nat) : Parser Expr := fun tokens =>
        match tokens with
        | .mark "*" :: rest => starredBy (rules.parse (further - 5) .bitOr) rest
        | _ => rules.parse further .expression tokens
      if nextIs ")" tokens then rules.reachOperand 29
      let (_, left) ← itemsUntil ")" (item 29) (item 31) (tokens.length + 1) tokens
      .ok (.other, left)

/-- The items after a first item, if a comma follows it, up to a closing mark. -/
def moreItems
    (rules : Rules)
    (closing : String)
    (later : Nat) :
    Parser (List Expr) :=
  fun tokens =>
    if nextIs "," tokens then
      itemsUntil closing (itemRule rules 30) (itemRule rules later) tokens.length
        (tokens.drop 1)
    else
      (expect closing tokens).map fun found => ([], found.2)

/-- What an opening parenthesis starts. -/
def parenthesisRule (rules : Rules) : Parser Expr
  | .mark ")" :: rest => do
      rules.reachOperand 28
      .ok (.tuple [], rest)
  | .mark "yield" :: rest => yieldRule rules rest
  | tokens => do
      let (first, rest) ← itemRule rules 28 tokens
      if startsLoop rest && !startsUnpacked tokens then
        comprehensionRule rules displayLoop ")" rest
      else if nextIs "," rest then do
        let (others, left) ← moreItems rules ")" 31 rest
        .ok (.tuple (first :: others), left)
      else if startsUnpacked tokens then
        .error .rejected
      else do
        let (_, left) ← expect ")" rest
        .ok (first, left)

/-- What an opening square bracket starts. -/
def listRule (rules : Rules) : Parser Expr
  | .mark "]" :: rest => do
      rules.reachOperand 29
      .ok (.list [], rest)
  | tokens => do
      let (first, rest) ← itemRule rules 29 tokens
      if startsLoop rest && !startsUnpacked tokens then
        comprehensionRule rules displayLoop "]" rest
      else do
        let (others, left) ← moreItems rules "]" 30 rest
        .ok (.list (first :: others), left)

/-- An entry of a dictionary, so many rules further in. -/
def entryRule
    (rules : Rules)
    (further : Nat) :
    Parser (Expr × Expr)
  | .mark "**" :: rest => do
      let (value, left) ← rules.parse (further - 6) .bitOr rest
      .ok ((.other, value), left)
  | tokens => do
      let (key, rest) ← rules.parse further .expression tokens
      let (_, behindColon) ← expect ":" rest
      let (value, left) ← rules.parse further .expression behindColon
      .ok ((key, value), left)

/-- The dictionary that starts with an entry. -/
def dictRule
    (rules : Rules)
    (first : Expr × Expr) :
    Parser Expr :=
  fun tokens => do
    let (entries, left) ←
      if nextIs "," tokens then
        itemsUntil "\x7d" (entryRule rules 30) (entryRule rules 30) tokens.length
          (tokens.drop 1)
      else
        (expect "\x7d" tokens).map fun found => ([], found.2)
    let all := first :: entries
    .ok (.dict (all.map (·.1)) (all.map (·.2)), left)

/-- What an opening brace starts. -/
def braceRule (rules : Rules) : Parser Expr
  | .mark "\x7d" :: rest => do
      rules.reachOperand 29
      .ok (.dict [] [], rest)
  | .mark "**" :: rest => do
      let (entry, left) ← entryRule rules 29 (.mark "**" :: rest)
      dictRule rules entry left
  | tokens => do
      if startsUnpacked tokens then rules.reachOperand 29
      let (first, rest) ← itemRule rules 29 tokens
      if nextIs ":" rest && !startsUnpacked tokens && !startsNamed tokens then do
        let (value, left) ← rules.parse 29 .expression (rest.drop 1)
        if startsLoop left then
          comprehensionRule rules displayLoop "\x7d" left
        else
          dictRule rules (first, value) left
      else if startsLoop rest && !startsUnpacked tokens then
        comprehensionRule rules displayLoop "\x7d" rest
      else do
        let (others, left) ← moreItems rules "\x7d" 30 rest
        .ok (.set (first :: others), left)
where
  /-- Whether an expression is given a name. -/
  startsNamed : List Token → Bool
    | .name _ :: .mark ":=" :: _ => true
    | _ => false

/-! ## Subscripts and calls -/

/-- The part of a slice that may be left out, so many rules further in. -/
def slicePart
    (rules : Rules)
    (further : Nat) :
    Parser Unit :=
  fun tokens =>
    if nextIs ":" tokens || nextIs "," tokens || nextIs "]" tokens then
      (rules.reachOperand further).map fun _ => ((), tokens)
    else
      (rules.parse further .expression tokens).map fun found => ((), found.2)

/-- A slice behind its first colon. -/
def sliceRule
    (rules : Rules)
    (further : Nat) :
    Parser Expr :=
  fun tokens => do
    let (_, rest) ← slicePart rules further tokens
    if nextIs ":" rest then do
      let (_, left) ← slicePart rules (further + 1) (rest.drop 1)
      .ok (.other, left)
    else
      .ok (.other, rest)

/--
One item of a subscript.  The numbers are how much further in a plain item stands, and one
that is unpacked.
-/
def subscriptItem
    (rules : Rules)
    (plain unpacked : Nat) :
    Parser Expr
  | .mark ":" :: rest => do
      rules.reachOperand plain
      sliceRule rules plain rest
  | .mark "*" :: rest => starredBy (rules.parse unpacked .expression) rest
  | .name id :: .mark ":=" :: rest =>
      namedRule rules (plain + 1) (.name id :: .mark ":=" :: rest)
  | tokens => do
      let (item, rest) ← rules.parse plain .expression tokens
      if nextIs ":" rest then
        sliceRule rules plain (rest.drop 1)
      else
        .ok (item, rest)

/-- The index of a subscript behind its opening bracket. -/
def indexRule (rules : Rules) : Parser Expr :=
  fun tokens =>
    if nextIs "]" tokens then
      .error .rejected
    else do
      let (first, rest) ← subscriptItem rules 24 26 tokens
      if nextIs "]" rest && !startsUnpacked tokens then
        .ok (first, rest.drop 1)
      else if nextIs "," rest then do
        let later := subscriptItem rules 27 27
        let (others, left) ← itemsUntil "]" later later rest.length (rest.drop 1)
        .ok (.tuple (first :: others), left)
      else do
        let (_, left) ← expect "]" rest
        .ok (.tuple [first], left)

/-- Which arguments may still follow: none may go back to an earlier stage. -/
inductive ArgumentStage where
  | positional
  | named
  | unpackedNamed
  deriving Repr, DecidableEq

/--
One argument of a call, and the stage after it.  The numbers are how much further in a
plain argument stands, and one with a mark or a name in front.  What is unpacked
behind a named argument stands one rule further in.
-/
def argumentRule
    (rules : Rules)
    (plain marked : Nat)
    (stage : ArgumentStage) :
    Parser ArgumentStage
  | .mark "**" :: rest =>
      (rules.parse marked .expression rest).map fun found => (.unpackedNamed, found.2)
  | .name _ :: .mark "=" :: rest =>
      (rules.parse marked .expression rest).map fun found =>
        (if stage = .positional then .named else stage, found.2)
  | .mark "*" :: rest =>
      if stage = .unpackedNamed then
        .error .rejected
      else
        let further := if stage = .positional then marked else marked + 1
        (rules.parse further .expression rest).map fun found => (stage, found.2)
  | tokens =>
      if stage = .positional then
        (namedRule rules plain tokens).map fun found => (stage, found.2)
      else
        .error .rejected

/-- The arguments of a call up to its closing parenthesis. -/
def argumentsRest (rules : Rules) : Nat → ArgumentStage → Parser Unit
  | 0, _, _ => .error .rejected
  | bound + 1, stage, tokens =>
      if nextIs ")" tokens then
        .ok ((), tokens.drop 1)
      else do
        let (next, rest) ← argumentRule rules 28 28 stage tokens
        if nextIs "," rest then
          argumentsRest rules bound next (rest.drop 1)
        else
          expect ")" rest

/-- Whether the first argument of a call may be a comprehension. -/
def mayStartComprehension : List Token → Bool
  | .mark "*" :: _ | .mark "**" :: _ => false
  | .name _ :: .mark "=" :: _ => false
  | _ => true

/-- How much further in stands what a comprehension loops over that is all of a call. -/
def callLoop : Nat := 25

/-- A call behind its opening parenthesis. -/
def callRule
    (rules : Rules)
    (function : Expr) :
    Parser Expr
  | .mark ")" :: rest => do
      rules.reachOperand 24
      .ok (.call function false, rest)
  | tokens => do
      let (stage, rest) ← argumentRule rules 24 27 .positional tokens
      if startsLoop rest && mayStartComprehension tokens then do
        let (_, left) ← comprehensionRule rules callLoop ")" rest
        .ok (.call function true, left)
      else if nextIs "," rest then do
        let (_, left) ← argumentsRest rules rest.length stage (rest.drop 1)
        .ok (.call function true, left)
      else do
        let (_, left) ← expect ")" rest
        .ok (.call function true, left)

/-! ## From primaries to expressions -/

/-- The expression that a token in front starts, by itself or with what follows it. -/
def atomAt
    (checkExpression : List Char → Except Trouble Unit)
    (rules : Rules) :
    Parser Expr
  | .name id :: rest => .ok (.name id, rest)
  | .number value :: rest => .ok (.constant value, rest)
  | .mark "(" :: rest => parenthesisRule rules rest
  | .mark "[" :: rest => listRule rules rest
  | .mark "\x7b" :: rest => braceRule rules rest
  | .mark mark :: rest =>
      match markConstant? mark with
      | some value => .ok (.constant value, rest)
      | none => .error .rejected
  | tokens =>
      match takeStrings tokens with
      | ([], _) => .error .rejected
      | (strings, rest) => do
          rules.reachOperand 2
          let joined ← joinStrings checkExpression strings
          .ok (joined, rest)

/-- An expression without operators. -/
def atomRule
    (checkExpression : List Char → Except Trouble Unit)
    (rules : Rules) :
    Parser Expr
  | .broken :: _ => .error .rejected
  | tokens => do
      rules.reachOperand 0
      atomAt checkExpression rules tokens

/-- Attributes, subscripts and calls behind an expression. -/
def trailersRule (rules : Rules) : Nat → Expr → Parser Expr
  | 0, value, tokens => .ok (value, tokens)
  | bound + 1, value, tokens =>
      match tokens with
      | .mark "." :: rest => do
          let (name, left) ← takeName rest
          trailersRule rules bound (.attribute value name) left
      | .mark "[" :: rest => do
          let (index, left) ← indexRule rules rest
          trailersRule rules bound (.subscript value index) left
      | .mark "(" :: rest => do
          let (call, left) ← callRule rules value rest
          trailersRule rules bound call left
      | _ => .ok (value, tokens)

/-- An expression without operators, with its attributes, subscripts and calls. -/
def primaryRule
    (checkExpression : List Char → Except Trouble Unit)
    (rules : Rules) :
    Parser Expr :=
  fun tokens => do
    let (atom, rest) ← atomRule checkExpression rules tokens
    trailersRule rules rest.length atom rest

/-- A power, perhaps of something awaited. -/
def powerRule
    (checkExpression : List Char → Except Trouble Unit)
    (rules : Rules) :
    Parser Expr :=
  fun tokens => do
    let (base, rest) ←
      match tokens with
      | .mark "await" :: others =>
          anonymous (primaryRule checkExpression rules) others
      | _ => primaryRule checkExpression rules tokens
    if nextIs "**" rest then do
      let (exponent, left) ← rules.parse 2 .factor (rest.drop 1)
      .ok (.binary .other base exponent, left)
    else
      .ok (base, rest)

/-- The operators in front of a factor. -/
def factorOperators : List (String × UnaryOp) :=
  [("+", .plus), ("-", .minus), ("~", .other)]

/-- An expression with an operator in front, or a power. -/
def factorRule
    (checkExpression : List Char → Except Trouble Unit)
    (rules : Rules) :
    Parser Expr :=
  fun tokens => do
    rules.reachOperator
    match tokens with
    | .mark mark :: rest =>
        match factorOperators.lookup mark with
        | some op =>
            (rules.parse 1 .factor rest).map fun found => (.unary op found.1, found.2)
        | none => powerRule checkExpression rules tokens
    | _ => powerRule checkExpression rules tokens

/-- The operators between two operands, those that bind tighter first. -/
def operatorLevels : List (List (String × BinaryOp)) :=
  [ [("*", .other), ("/", .other), ("//", .other), ("%", .other), ("@", .other)],
    [("+", .add), ("-", .subtract)],
    [("<<", .other), (">>", .other)],
    [("&", .other)],
    [("^", .other)],
    [("|", .bitOr)] ]

/-- An expression of operators up to the bar. -/
def bitOrRule
    (checkExpression : List Char → Except Trouble Unit)
    (rules : Rules) :
    Parser Expr :=
  operatorLevels.foldl
    (fun operand operators => chain operators operand operand)
    (factorRule checkExpression rules)

/-- The comparisons of one mark. -/
def comparisons : List String :=
  ["==", "!=", "<=", "<", ">=", ">", "in", "is"]

/-- What stands behind a comparison, if one comes next. -/
def behindComparison? : List Token → Option (List Token)
  | .mark "not" :: .mark "in" :: rest => some rest
  | .mark "is" :: .mark "not" :: rest => some rest
  | .mark mark :: rest => if comparisons.contains mark then some rest else none
  | _ => none

/-- The operands of comparisons after the first. -/
def comparisonRest
    (operand : Parser Expr) :
    Nat → Expr → Parser Expr
  | 0, left, tokens => .ok (left, tokens)
  | bound + 1, left, tokens =>
      match behindComparison? tokens with
      | some rest => do
          let (_, others) ← operand rest
          comparisonRest operand bound .other others
      | none => .ok (left, tokens)

/-- Operands that are compared. -/
def comparisonRule
    (checkExpression : List Char → Except Trouble Unit)
    (rules : Rules) :
    Parser Expr :=
  fun tokens => do
    let (first, rest) ← bitOrRule checkExpression rules tokens
    comparisonRest (rules.parse 3 .bitOr) rest.length first rest

/-- A comparison, perhaps negated. -/
def inversionRule
    (checkExpression : List Char → Except Trouble Unit)
    (rules : Rules) :
    Parser Expr
  | .mark "not" :: rest => anonymous (rules.parse 1 .inversion) rest
  | tokens => comparisonRule checkExpression rules tokens

/-- Comparisons joined by `and`. -/
def conjunctionRule
    (checkExpression : List Char → Except Trouble Unit)
    (rules : Rules) :
    Parser Expr :=
  chain [("and", .other)] (inversionRule checkExpression rules)
    (rules.parse 2 .inversion)

/-- Comparisons joined by `and` and `or`. -/
def disjunctionRule
    (checkExpression : List Char → Except Trouble Unit)
    (rules : Rules) :
    Parser Expr :=
  chain [("or", .other)] (conjunctionRule checkExpression rules)
    (rules.parse 2 .conjunction)

/-! ## Functions -/

/-- What the parameters so far allow. -/
structure ParameterState where
  hasPlain : Bool := false
  hasSlash : Bool := false
  hasDefault : Bool := false
  hasStar : Bool := false
  /-- Whether a star without a name still needs a parameter behind it. -/
  needsNamed : Bool := false
  isClosed : Bool := false

/-- Whether a parameter list may end here. -/
def ParameterState.mayEnd (state : ParameterState) : Bool :=
  !state.needsNamed

/-- A parameter of a name, perhaps with a default. -/
def namedParameter
    (rules : Rules)
    (state : ParameterState) :
    Parser ParameterState :=
  fun tokens => do
    let after : ParameterState :=
      { state with hasPlain := true, needsNamed := false }
    if nextIs "=" tokens then do
      let further := if state.hasSlash && !state.hasStar then 7 else 8
      let (_, rest) ← rules.parse further .expression (tokens.drop 1)
      .ok ({ after with hasDefault := true }, rest)
    else if state.hasDefault && !state.hasStar then
      .error .rejected
    else
      .ok (after, tokens)

/-- One parameter or one of the marks between parameters. -/
def parameterRule
    (rules : Rules)
    (state : ParameterState) :
    Parser ParameterState
  | .name _ :: rest => namedParameter rules state rest
  | .mark "/" :: rest =>
      if state.hasSlash || state.hasStar || !state.hasPlain then
        .error .rejected
      else
        .ok ({ state with hasSlash := true }, rest)
  | .mark "*" :: .name _ :: rest =>
      if state.hasStar then
        .error .rejected
      else
        .ok ({ state with hasStar := true }, rest)
  | .mark "*" :: rest =>
      if state.hasStar || !nextIs "," rest then
        .error .rejected
      else
        .ok ({ state with hasStar := true, needsNamed := true }, rest)
  | .mark "**" :: .name _ :: rest =>
      if state.needsNamed then
        .error .rejected
      else
        .ok ({ state with isClosed := true }, rest)
  | _ => .error .rejected

/-- The parameters of a function up to the colon behind them. -/
def parametersRule (rules : Rules) : Nat → ParameterState → Parser Unit
  | 0, _, _ => .error .rejected
  | bound + 1, state, tokens =>
      if nextIs ":" tokens then
        if state.mayEnd then .ok ((), tokens.drop 1) else .error .rejected
      else if state.isClosed then
        .error .rejected
      else do
        let (next, rest) ← parameterRule rules state tokens
        if nextIs "," rest then
          parametersRule rules bound next (rest.drop 1)
        else if next.mayEnd then
          expect ":" rest
        else
          .error .rejected

/-- A function behind its keyword. -/
def lambdaRule (rules : Rules) : Parser Expr :=
  fun tokens => do
    let (_, body) ← parametersRule rules (tokens.length + 1) {} tokens
    anonymous (rules.parse 2 .expression) body

/-- An expression. -/
def expressionRule
    (checkExpression : List Char → Except Trouble Unit)
    (rules : Rules) :
    Parser Expr
  | .mark "lambda" :: rest => do
      rules.reachOperand 0
      lambdaRule rules rest
  | tokens => do
      let (first, rest) ← disjunctionRule checkExpression rules tokens
      if nextIs "if" rest then do
        let (_, behindCondition) ← rules.parse 0 .disjunction (rest.drop 1)
        let (_, behindElse) ← expect "else" behindCondition
        anonymous (rules.parse 1 .expression) behindElse
      else
        .ok (first, rest)

/-! ## Whole texts -/

/-- The rule of each name. -/
def ruleBody
    (checkExpression : List Char → Except Trouble Unit)
    (rules : Rules) :
    Rule → Parser Expr
  | .expression => expressionRule checkExpression rules
  | .disjunction => disjunctionRule checkExpression rules
  | .conjunction => conjunctionRule checkExpression rules
  | .inversion => inversionRule checkExpression rules
  | .bitOr => bitOrRule checkExpression rules
  | .factor => factorRule checkExpression rules
  | .primary => primaryRule checkExpression rules

/-- The rules at a depth, with so many rules of the interpreter around them. -/
def ruleAt
    (checkExpression : List Char → Except Trouble Unit) :
    Nat → Nat → Rule → Parser Expr
  | 0, _ => fun _ _ => .error .rejected
  | depth + 1, level =>
      ruleBody checkExpression
        { level := level
          parse := fun further =>
            ruleAt checkExpression depth (level + further) }

/-- Whether nothing but line breaks is left. -/
def isFinished (tokens : List Token) : Bool :=
  tokens.all fun token =>
    match token with
    | .newline => true
    | _ => false

/-- One expression, or several separated by commas as a tuple. -/
def wholeExpression
    (checkExpression : List Char → Except Trouble Unit)
    (level : Nat)
    (tokens : List Token) :
    Except Trouble Expr := do
  let parse := fun further =>
    ruleAt checkExpression (tokens.length + 1) (level + further) .expression
  let (first, rest) ← parse 0 tokens
  if nextIs "," rest then do
    let (others, left) ← more (parse 2) rest.length (rest.drop 1)
    if isFinished left then .ok (.tuple (first :: others)) else .error .rejected
  else
    if isFinished rest then .ok first else .error .rejected
where
  /-- The expressions behind a comma. -/
  more (expression : Parser Expr) : Nat → Parser (List Expr)
    | 0, _ => .error .rejected
    | bound + 1, tokens =>
        if isFinished tokens then
          .ok ([], tokens)
        else do
          let (first, rest) ← expression tokens
          if nextIs "," rest then do
            let (others, left) ← more expression bound (rest.drop 1)
            .ok (first :: others, left)
          else
            .ok ([first], rest)

/--
The expression of a text, read with so many rules around it; the bound limits how deep
formatted strings nest.  What stands in one is read as if it were a text of its own, with
one rule around it.
-/
def parseWithin : Nat → Nat → List Char → Except Trouble Expr
  | 0, _, _ => .error .rejected
  | bound + 1, level, chars =>
      match tokens? chars with
      | none => .error .rejected
      | some tokens =>
          wholeExpression (fun inner => (parseWithin bound 1 inner).map fun _ => ())
            level tokens

/-- The expression of a text. -/
def parse (chars : List Char) : Except Trouble Expr :=
  parseWithin (chars.length + 1) 0 chars

end ApiTree.Hint
