import CatalogFeeds.Template.Tree
/-!
Reading templates into trees.

The parser takes tokens from the front of a list. Nesting of statements, expressions and
operands is bounded; beyond the bound a template is malformed. The end of the text closes
nothing: every statement that opens a body needs the statement that closes it.
-/

namespace CatalogFeeds.Template

/-- What the parser carries along: the tokens that are left and the blocks seen so far. -/
structure ParserState where
  tokens : List Token
  blocks : List String

/-- A step of the parser. -/
abbrev Parse (α : Type) := StateT ParserState (Except Fault) α

namespace Parse

/-- The next token, without taking it. -/
def peek : Parse (Option Token) := do
  match (← get).tokens with
  | .fault cause :: _ => throw cause
  | token :: _ => return some token
  | [] => return none

/-- Takes the next token. -/
def next : Parse (Option Token) := do
  let token ← peek
  modify fun s => { s with tokens := s.tokens.tail }
  return token

/-- Whether the next token is a given symbol. -/
def atSymbol (value : String) : Parse Bool := do
  match ← peek with
  | some (.symbol found) => return found == value
  | _ => return false

/-- Whether the next token is one of the given words. -/
def atWord (words : List String) : Parse Bool := do
  match ← peek with
  | some (.name found) => return words.contains found
  | _ => return false

/-- Takes a given symbol if it comes next. -/
def skipSymbol (value : String) : Parse Bool := do
  if ← atSymbol value then
    discard next
    return true
  else return false

/-- Takes one of the given words if it comes next. -/
def skipWord (words : List String) : Parse Bool := do
  if ← atWord words then
    discard next
    return true
  else return false

/-- Takes a symbol that must come next. -/
def expectSymbol (value : String) : Parse Unit := do
  unless ← skipSymbol value do throw .malformed

/-- Takes a word that must come next. -/
def expectWord (word : String) : Parse Unit := do
  unless ← skipWord [word] do throw .malformed

/-- Takes a name. -/
def expectName : Parse String := do
  match ← next with
  | some (.name value) => return value
  | _ => throw .malformed

/-- Whether a statement ends here. -/
def atBlockEnd : Parse Bool := do
  match ← peek with
  | some .blockEnd => return true
  | _ => return false

/-- Takes the end of a statement. -/
def expectBlockEnd : Parse Unit := do
  match ← next with
  | some .blockEnd => return
  | _ => throw .malformed

/-- Takes the end of a variable. -/
def expectVariableEnd : Parse Unit := do
  match ← next with
  | some .variableEnd => return
  | _ => throw .malformed

/-! ### Names and operators -/

/-- The names that cannot be assigned to. -/
def reservedNames : List String :=
  ["true", "True", "false", "False", "none", "None", "loop", "self"]

/-- Takes a name that may be assigned to. -/
def expectTargetName : Parse String := do
  let name ← expectName
  if reservedNames.contains name then throw .malformed
  return name

/-- The deepest nesting that is read. -/
def deepest : Nat := 150

/-- The depth of the next level of nesting. -/
def deeper (depth : Nat) : Parse Nat :=
  if depth + 1 > deepest then throw .malformed else pure (depth + 1)

/-- The operators of each level of precedence, from the loosest to the tightest. -/
def operators : List (List (String × BinaryOperator)) := [
  [("+", .add), ("-", .subtract)],
  [("~", .concatenate)],
  [("*", .multiply), ("/", .divide), ("//", .floorDivide), ("%", .remainder)],
  [("**", .power)]]

/-- The symbols that compare. -/
def comparisons : List (String × Comparison) := [
  ("==", .equal), ("!=", .unequal), ("<", .less), ("<=", .lessEqual), (">", .greater),
  (">=", .greaterEqual)]

/-- Takes one of the given operators if it comes next. -/
def operator? {α : Type} (choices : List (String × α)) : Parse (Option α) := do
  match ← peek with
  | some (.symbol value) =>
    match choices.lookup value with
    | some operator =>
      discard next
      return some operator
    | none => return none
  | _ => return none

/-- Takes an operator that compares if one comes next. -/
def comparison? : Parse (Option Comparison) := do
  match ← operator? comparisons with
  | some operator => return some operator
  | none =>
    if ← skipWord ["in"] then return some .contained
    else if ← skipWord ["not"] then
      expectWord "in"
      return some .notContained
    else return none

/-- Takes a name with points in it. -/
def expectDottedName : Parse String := do
  let first ← expectName
  dotted ((← get).tokens.length) first
where
  /-- The parts after the first one. -/
  dotted : Nat → String → Parse String
    | 0, name => return name
    | fuel + 1, name => do
      if ← skipSymbol "." then
        let part ← expectName
        dotted fuel (name ++ "." ++ part)
      else return name

/-- Takes the strings that come next and gives them in one. -/
def adjacentStrings : Nat → String → Parse String
  | 0, value => return value
  | fuel + 1, value => do
    match ← peek with
    | some (.string more) =>
      discard next
      adjacentStrings fuel (value ++ more)
    | _ => return value

/-- Whether the next token can start an argument of a test that stands without parentheses. -/
def startsTestArgument : Parse Bool := do
  match ← peek with
  | some (.name value) => return !(["and", "or", "else", "is"].contains value)
  | some (.string _) | some (.whole _) | some (.real _) => return true
  | some (.symbol value) => return ["+", "-", "[", "\x7b"].contains value
  | _ => return false

/-! ### Expressions -/

mutual

/-- An expression. -/
def expr : Nat → Nat → Parse Expr
  | 0, _ => throw .malformed
  | fuel + 1, depth => do
    let depth ← deeper depth
    conditional fuel depth

/-- An expression with conditions after it. -/
def conditional : Nat → Nat → Parse Expr
  | 0, _ => throw .malformed
  | fuel + 1, depth => do
    let first ← disjunction fuel depth
    conditionalTail fuel depth first

/-- The conditions after an expression. -/
def conditionalTail : Nat → Nat → Expr → Parse Expr
  | 0, _, _ => throw .malformed
  | fuel + 1, depth, yes => do
    if ← skipWord ["if"] then
      let test ← disjunction fuel depth
      let no ← if ← skipWord ["else"] then some <$> conditional fuel depth else pure none
      conditionalTail fuel depth (.conditional test yes no)
    else return yes

/-- Operands joined by `or`. -/
def disjunction : Nat → Nat → Parse Expr
  | 0, _ => throw .malformed
  | fuel + 1, depth => do
    let first ← conjunction fuel depth
    disjunctionTail fuel depth first

/-- The operands after the first one of a disjunction. -/
def disjunctionTail : Nat → Nat → Expr → Parse Expr
  | 0, _, _ => throw .malformed
  | fuel + 1, depth, left => do
    if ← skipWord ["or"] then
      let right ← conjunction fuel depth
      disjunctionTail fuel depth (.binary .or left right)
    else return left

/-- Operands joined by `and`. -/
def conjunction : Nat → Nat → Parse Expr
  | 0, _ => throw .malformed
  | fuel + 1, depth => do
    let first ← negation fuel depth
    conjunctionTail fuel depth first

/-- The operands after the first one of a conjunction. -/
def conjunctionTail : Nat → Nat → Expr → Parse Expr
  | 0, _, _ => throw .malformed
  | fuel + 1, depth, left => do
    if ← skipWord ["and"] then
      let right ← negation fuel depth
      conjunctionTail fuel depth (.binary .and left right)
    else return left

/-- A comparison, or the negation of one. -/
def negation : Nat → Nat → Parse Expr
  | 0, _ => throw .malformed
  | fuel + 1, depth => do
    if ← skipWord ["not"] then
      let operand ← negation fuel depth
      return .unary .not operand
    else
      let first ← arithmetic fuel depth operators
      match ← compared fuel depth with
      | ([], _) => return first
      | (operators, others) => return .compare first operators others

/-- The comparisons after an operand. -/
def compared : Nat → Nat → Parse (List Comparison × List Expr)
  | 0, _ => throw .malformed
  | fuel + 1, depth => do
    match ← comparison? with
    | none => return ([], [])
    | some operator =>
      let other ← arithmetic fuel depth operators
      let (operators, others) ← compared fuel depth
      return (operator :: operators, other :: others)

/-- Operands joined by the operators of the given levels of precedence. -/
def arithmetic : Nat → Nat → List (List (String × BinaryOperator)) → Parse Expr
  | 0, _, _ => throw .malformed
  | fuel + 1, depth, [] => operand fuel depth
  | fuel + 1, depth, choices :: levels => do
    let first ← arithmetic fuel depth levels
    arithmeticTail fuel depth choices levels first

/-- The operands after the first one of a level of precedence. -/
def arithmeticTail : Nat → Nat → List (String × BinaryOperator) →
    List (List (String × BinaryOperator)) → Expr → Parse Expr
  | 0, _, _, _, _ => throw .malformed
  | fuel + 1, depth, choices, levels, left => do
    match ← operator? choices with
    | some operator =>
      let right ← arithmetic fuel depth levels
      arithmeticTail fuel depth choices levels (.binary operator left right)
    | none => return left

/-- An operand with what is applied to it. -/
def operand : Nat → Nat → Parse Expr
  | 0, _ => throw .malformed
  | fuel + 1, depth => do
    let value ← signed fuel depth
    let value ← postfixes fuel depth value
    filters fuel depth value

/-- An operand with its signs. -/
def signed : Nat → Nat → Parse Expr
  | 0, _ => throw .malformed
  | fuel + 1, depth => do
    if ← skipSymbol "-" then
      let value ← signed fuel depth
      return .unary .negate value
    else
      let depth ← deeper depth
      primary fuel depth

/-- Attributes, items, slices and calls of a value. -/
def postfixes : Nat → Nat → Expr → Parse Expr
  | 0, _, _ => throw .malformed
  | fuel + 1, depth, value => do
    if ← skipSymbol "." then
      match ← next with
      | some (.name name) => postfixes fuel depth (.field value name)
      | some (.whole index) => postfixes fuel depth (.item value (.literal (.whole index)))
      | _ => throw .malformed
    else if ← skipSymbol "[" then
      let subscripted ← subscript fuel depth value
      postfixes fuel depth subscripted
    else if ← skipSymbol "(" then
      let arguments ← arguments fuel depth true false
      postfixes fuel depth (.call value arguments)
    else return value

/-- An item or a slice, after its opening bracket. -/
def subscript : Nat → Nat → Expr → Parse Expr
  | 0, _, _ => throw .malformed
  | fuel + 1, depth, value => do
    let start ← if ← atSymbol ":" then pure none else some <$> expr fuel depth
    if ← skipSymbol ":" then
      let stop ← if (← atSymbol "]") || (← atSymbol ":") then pure none
        else some <$> expr fuel depth
      let step ← if ← skipSymbol ":" then
          if ← atSymbol "]" then pure none else some <$> expr fuel depth
        else pure none
      expectSymbol "]"
      return .slice value start stop step
    else
      expectSymbol "]"
      return .item value (start.getD (.literal (.string "")))

/-- The arguments of a call, after its opening parenthesis; `isFirst` tells that none came
before, `keyed` that one with a name did. -/
def arguments : Nat → Nat → Bool → Bool → Parse (List Argument)
  | 0, _, _, _ => throw .malformed
  | fuel + 1, depth, isFirst, keyed => do
    if ← skipSymbol ")" then return []
    unless isFirst do expectSymbol ","
    if ← (if isFirst then pure false else skipSymbol ")") then return []
    if ← skipSymbol "**" then
      let value ← expr fuel depth
      let rest ← arguments fuel depth false true
      return .keywordSpread value :: rest
    if ← skipSymbol "*" then
      let value ← expr fuel depth
      let rest ← arguments fuel depth false keyed
      return .spread value :: rest
    let value ← expr fuel depth
    let name? : Option String ← match value with
      | .variable name => if ← skipSymbol "=" then pure (some name) else pure none
      | _ => pure none
    match name? with
    | some name =>
      let value ← expr fuel depth
      let rest ← arguments fuel depth false true
      return .keyword name value :: rest
    | none =>
      if keyed then throw .malformed
      let rest ← arguments fuel depth false keyed
      return .positional value :: rest

/-- Filters and tests applied to a value. -/
def filters : Nat → Nat → Expr → Parse Expr
  | 0, _, _ => throw .malformed
  | fuel + 1, depth, value => do
    if ← skipSymbol "|" then
      let name ← expectDottedName
      let arguments ← if ← skipSymbol "(" then arguments fuel depth true false else pure []
      filters fuel depth (.filter name value arguments)
    else if ← skipWord ["is"] then
      let negated ← skipWord ["not"]
      let name ← expectDottedName
      let arguments ←
        if ← skipSymbol "(" then arguments fuel depth true false
        else if ← startsTestArgument then
          let argument ← signed fuel depth
          let argument ← postfixes fuel depth argument
          pure [Argument.positional argument]
        else pure []
      let test : Expr := .test name value arguments
      filters fuel depth (if negated then .unary .not test else test)
    else return value

/-- A constant, a variable, or something in brackets. -/
def primary : Nat → Nat → Parse Expr
  | 0, _ => throw .malformed
  | fuel + 1, depth => do
    match ← next with
    | some (.name "true") | some (.name "True") => return .literal (.bool true)
    | some (.name "false") | some (.name "False") => return .literal (.bool false)
    | some (.name "none") | some (.name "None") => return .literal .none
    | some (.name name) => return .variable name
    | some (.string value) =>
      return .literal (.string (← adjacentStrings (← get).tokens.length value))
    | some (.whole value) => return .literal (.whole value)
    | some (.real value) => return .literal (.real value)
    | some (.symbol "(") =>
      if ← skipSymbol ")" then return .list []
      let first ← expr fuel depth
      if ← atSymbol "," then
        let rest ← items fuel depth ")" false
        return .list (first :: rest)
      else
        expectSymbol ")"
        return first
    | some (.symbol "[") =>
      let items ← items fuel depth "]" true
      return .list items
    | some (.symbol "\x7b") =>
      let (keys, values) ← members fuel depth true
      return .map keys values
    | _ => throw .malformed

/-- The items of a list up to its closing bracket. -/
def items : Nat → Nat → String → Bool → Parse (List Expr)
  | 0, _, _, _ => throw .malformed
  | fuel + 1, depth, closing, isFirst => do
    if ← skipSymbol closing then return []
    unless isFirst do expectSymbol ","
    if ← (if isFirst then pure false else skipSymbol closing) then return []
    let item ← expr fuel depth
    let rest ← items fuel depth closing false
    return item :: rest

/-- The keys and values of a map up to its closing brace. -/
def members : Nat → Nat → Bool → Parse (List Expr × List Expr)
  | 0, _, _ => throw .malformed
  | fuel + 1, depth, isFirst => do
    if ← skipSymbol "\x7d" then return ([], [])
    unless isFirst do expectSymbol ","
    if ← (if isFirst then pure false else skipSymbol "\x7d") then return ([], [])
    let key ← expr fuel depth
    expectSymbol ":"
    let value ← expr fuel depth
    let (keys, values) ← members fuel depth false
    return (key :: keys, value :: values)

end

/-! ### Statements -/

/-- The targets of an assignment, possibly several. -/
def targets : Nat → Bool → Parse (List Target × Bool)
  | 0, _ => throw .malformed
  | fuel + 1, isFirst => do
    unless isFirst do expectSymbol ","
    let atEnd ← match ← peek with
      | some (.symbol ")") | some .variableEnd | some .blockEnd | some (.name "in") => pure true
      | _ => pure false
    if atEnd then return ([], false)
    let item ← if ← skipSymbol "(" then
        let (inner, several) ← targets fuel true
        expectSymbol ")"
        pure (collect inner several)
      else
        let name ← expectTargetName
        pure (Target.variable name)
    if ← atSymbol "," then
      let (rest, _) ← targets fuel false
      return (item :: rest, true)
    else return ([item], false)
where
  /-- One target stands for itself unless a comma follows it. -/
  collect (items : List Target) (several : Bool) : Target :=
    match items, several with
    | [item], false => item
    | _, _ => .tuple items

/-- The target of a loop or of an assignment in parentheses. -/
def target (fuel : Nat) : Parse Target := do
  let (items, several) ← targets fuel true
  return targets.collect items several

/-- The attributes after a name that is assigned to. -/
def dottedTarget : Nat → Expr → Target → Parse Target
  | 0, _, _ => throw .malformed
  | fuel + 1, value, found => do
    if ← skipSymbol "." then
      let name ← expectName
      dottedTarget fuel (.field value name) (.field value name)
    else return found

/-- A target that may be in parentheses. -/
def closedTarget (fuel : Nat) : Parse Target := do
  if ← skipSymbol "(" then
    let found ← target fuel
    expectSymbol ")"
    return found
  else
    let name ← expectTargetName
    return .variable name

/-- The bindings of a `with` statement. -/
def bindings : Nat → Nat → Bool → Parse (List (Target × Expr))
  | 0, _, _ => throw .malformed
  | fuel + 1, depth, isFirst => do
    if ← atBlockEnd then return []
    unless isFirst do expectSymbol ","
    let target ← closedTarget fuel
    expectSymbol "="
    let value ← expr fuel depth
    let rest ← bindings fuel depth false
    return (target, value) :: rest

/-- The filters of a block, applied one after another to what the block holds. -/
def filterChain : Nat → Nat → Option Expr → Parse Expr
  | 0, _, _ => throw .malformed
  | fuel + 1, depth, found => do
    if ← atBlockEnd then
      match found with
      | some filter => return filter
      | none => throw .malformed
    else
      if found.isSome then expectSymbol "|"
      let name ← expectDottedName
      let arguments ← if ← skipSymbol "(" then arguments fuel depth true false else pure []
      filterChain fuel depth (some (.filter name (found.getD .captured) arguments))

/-- The parameters of a procedure, after the opening parenthesis. -/
def parameters : Nat → Nat → Bool → Bool → Parse (List String × List Expr)
  | 0, _, _, _ => throw .malformed
  | fuel + 1, depth, isFirst, defaulted => do
    if ← skipSymbol ")" then return ([], [])
    unless isFirst do expectSymbol ","
    if ← (if isFirst then pure false else skipSymbol ")") then return ([], [])
    let name ← expectTargetName
    if ← skipSymbol "=" then
      let value ← expr fuel depth
      let (names, values) ← parameters fuel depth false true
      return (name :: names, value :: values)
    else
      if defaulted then throw .malformed
      let (names, values) ← parameters fuel depth false false
      return (name :: names, values)

/-- Takes the words that say whether the context is passed on, which changes nothing. -/
def skipContext : Parse Unit := do
  if ← skipWord ["with", "without"] then expectWord "context"

/-- The names of a selective import. -/
def importedNames : Nat → Bool → Parse Unit
  | 0, _ => throw .malformed
  | fuel + 1, isFirst => do
    if ← atBlockEnd then return
    unless isFirst do expectSymbol ","
    if ← atBlockEnd then return
    discard expectTargetName
    if ← skipWord ["as"] then discard expectTargetName
    skipContext
    importedNames fuel false

mutual

/-- Statements up to the end of the text or one of the given words, which is not taken. -/
def body : Nat → Nat → Bool → List String → Parse (List Stmt)
  | 0, _, _, _ => throw .malformed
  | fuel + 1, depth, inProcedure, ends => do
    match ← next with
    | none => return []
    | some (.text value) =>
      let rest ← body fuel depth inProcedure ends
      return .text value :: rest
    | some .variableStart =>
      let value ← expr fuel depth
      expectVariableEnd
      let rest ← body fuel depth inProcedure ends
      return .emit value :: rest
    | some .blockStart =>
      match ← peek with
      | none => throw .malformed
      | some _ =>
        if ← atWord ends then return []
        let statement ← stmt fuel depth inProcedure
        expectBlockEnd
        let rest ← body fuel depth inProcedure ends
        return statement :: rest
    | some _ => throw .malformed

/-- A statement, without the mark that ends it. -/
def stmt : Nat → Nat → Bool → Parse Stmt
  | 0, _, _ => throw .malformed
  | fuel + 1, depth, inProcedure => do
    let depth ← deeper depth
    match ← expectName with
    | "for" =>
      let target ← target fuel
      expectWord "in"
      let source ← disjunction fuel depth
      let condition ← if ← skipWord ["if"] then some <$> expr fuel depth else pure none
      let recursive ← skipWord ["recursive"]
      expectBlockEnd
      let inner ← body fuel depth inProcedure ["endfor", "else"]
      let otherwise ← if ← skipWord ["else"] then
          expectBlockEnd
          body fuel depth inProcedure ["endfor"]
        else pure []
      discard next
      return .loop target source condition recursive inner otherwise
    | "if" => branch fuel depth inProcedure
    | "with" =>
      let bindings ← bindings fuel depth true
      expectBlockEnd
      let inner ← closed fuel depth inProcedure "endwith"
      return .within bindings inner
    | "set" =>
      let parenthesised ← skipSymbol "("
      let target ← if parenthesised then
          let found ← target fuel
          expectSymbol ")"
          pure found
        else
          let name ← expectTargetName
          dottedTarget fuel (.variable name) (.variable name)
      if !parenthesised && ((← atBlockEnd) || (← atSymbol "|")) then
        let filter ← if ← skipSymbol "|" then some <$> filterChain fuel depth none else pure none
        expectBlockEnd
        let inner ← closed fuel depth inProcedure "endset"
        return .capture target filter inner
      else
        expectSymbol "="
        let value ← expr fuel depth
        return .assign target value
    | "autoescape" =>
      let value ← expr fuel depth
      expectBlockEnd
      let inner ← closed fuel depth inProcedure "endautoescape"
      return .autoEscape value inner
    | "filter" =>
      let filter ← filterChain fuel depth none
      expectBlockEnd
      let inner ← closed fuel depth inProcedure "endfilter"
      return .filtered filter inner
    | "block" =>
      if inProcedure then throw .malformed
      let name ← expectName
      if (← get).blocks.contains name then throw .malformed
      modify fun s => { s with blocks := name :: s.blocks }
      expectBlockEnd
      let inner ← closed fuel depth inProcedure "endblock"
      match ← peek with
      | some (.name trailing) =>
        if trailing != name then throw .malformed
        discard next
      | _ => pure ()
      return .block name inner
    | "extends" => .extend <$> expr fuel depth
    | "include" =>
      let source ← expr fuel depth
      skipContext
      let ignoreMissing ← skipWord ["ignore"]
      if ignoreMissing then
        expectWord "missing"
        skipContext
      return .embed source ignoreMissing
    | "import" =>
      let source ← expr fuel depth
      expectWord "as"
      discard expectTargetName
      skipContext
      return .load source
    | "from" =>
      let source ← expr fuel depth
      expectWord "import"
      importedNames fuel true
      return .load source
    | "macro" =>
      let name ← expectName
      expectSymbol "("
      let (parameters, defaults) ← parameters fuel depth true false
      let inner ← procedureBody fuel depth "endmacro"
      return .define (.mk name parameters defaults inner)
    | "call" =>
      let (parameters, defaults) ← if ← skipSymbol "(" then parameters fuel depth true false
        else pure ([], [])
      let call ← expr fuel depth
      match call with
      | .call .. =>
        let inner ← procedureBody fuel depth "endcall"
        return .callWith call (.mk "caller" parameters defaults inner)
      | _ => throw .malformed
    | "do" =>
      let call ← expr fuel depth
      match call with
      | .call .. => return .perform call
      | _ => throw .malformed
    | _ => throw .malformed

/-- A body up to its closing word, which is taken. -/
def closed : Nat → Nat → Bool → String → Parse (List Stmt)
  | 0, _, _, _ => throw .malformed
  | fuel + 1, depth, inProcedure, closing => do
    let inner ← body fuel depth inProcedure [closing]
    discard next
    return inner

/-- The body of a procedure, in which no block may be defined. -/
def procedureBody : Nat → Nat → String → Parse (List Stmt)
  | 0, _, _ => throw .malformed
  | fuel + 1, depth, closing => do
    expectBlockEnd
    closed fuel depth true closing

/-- The condition and the branches of an `if` statement. -/
def branch : Nat → Nat → Bool → Parse Stmt
  | 0, _, _ => throw .malformed
  | fuel + 1, depth, inProcedure => do
    let test ← expr fuel depth
    expectBlockEnd
    let yes ← body fuel depth inProcedure ["endif", "else", "elif"]
    match ← next with
    | some (.name "else") =>
      expectBlockEnd
      let no ← closed fuel depth inProcedure "endif"
      return .branch test yes no
    | some (.name "elif") =>
      let no ← branch fuel depth inProcedure
      return .branch test yes [no]
    | _ => return .branch test yes []

end

end Parse

/-- Reads a template.

A token is read by at most a few dozen steps of the parser, which bounds their number. -/
def parse (template : String) : Except Fault (List Stmt) := do
  let tokens := Scanner.scan template
  let (statements, _) ← (Parse.body (32 * (tokens.length + 2)) 0 false []).run ⟨tokens, []⟩
  return statements

end CatalogFeeds.Template
