import CatalogFeeds.Template.Filter
import CatalogFeeds.Template.Parser
/-!
Evaluating templates.

Names are looked up from the innermost scope outwards and then among the functions that every
template knows. Using a value that is not defined is a fault, except for asking whether it is
defined and for giving it a default. The evaluator is bounded in its steps; the bound is far
beyond what a template without unbounded recursion needs, and reaching it is a fault.
-/

namespace CatalogFeeds.Template

/-- The body of a loop that may call itself with further items. -/
structure LoopBody where
  target : Target
  condition : Option Expr
  body : List Stmt
  otherwise : List Stmt

/-- The state of a running loop. -/
structure Iteration where
  index : Nat
  depth : Nat
  items : List Value
  changed : Option Value
  recursion : Option LoopBody

/-- The names that a statement brings into view. -/
structure Scope where
  bindings : List (String × Value)
  iteration : Option Iteration

/-- The state of an evaluation: the scopes from the innermost outwards, the text written so
far in pieces from the last to the first, and the contents of cells. -/
structure EvalState where
  scopes : List Scope
  output : List String
  escaping : Bool
  cells : List (List (String × Value))
  calls : Nat

/-- A step of an evaluation. -/
abbrev Eval (α : Type) := StateT EvalState (Except Fault) α

namespace Eval

/-! ### Names -/

/-- The deepest nesting of calls. -/
def deepestCall : Nat := 500

/-- The functions that every template knows. -/
def builtins : List (String × Builtin) := [
  ("range", .range), ("dict", .dict), ("debug", .debug), ("namespace", .namespaceOf)]

/-- The value of a name in a scope. -/
def Scope.lookup? (scope : Scope) (name : String) : Option Value :=
  match scope.bindings.lookup name with
  | some value => some value
  | none =>
    if name == "loop" then
      scope.iteration.map fun i => .iteration i.index i.depth i.items
    else none

/-- The value of a name, if it has one. -/
def lookup? (name : String) : Eval (Option Value) := do
  match (← get).scopes.findSome? (Scope.lookup? · name) with
  | some value => return some value
  | none => return (builtins.lookup name).map .builtin

/-- Binds a name in the innermost scope. -/
def bind (name : String) (value : Value) : Eval Unit :=
  modify fun s =>
    match s.scopes with
    | scope :: outer =>
      { s with scopes := { scope with bindings := (name, value) :: scope.bindings } :: outer }
    | [] => { s with scopes := [⟨[(name, value)], none⟩] }

/-- Runs a step in a new innermost scope. -/
def inScope {α : Type} (scope : Scope) (step : Eval α) : Eval α := do
  modify fun s => { s with scopes := scope :: s.scopes }
  let result ← step
  modify fun s => { s with scopes := s.scopes.tail }
  return result

/-! ### Output -/

/-- Writes a text. -/
def write (text : String) : Eval Unit :=
  modify fun s => { s with output := text :: s.output }

/-- Runs a step and gives what it writes, which is not written. -/
def captured (step : Eval Unit) : Eval Value := do
  let outer := (← get).output
  modify fun s => { s with output := [] }
  step
  let s ← get
  set { s with output := outer }
  return .string (String.join s.output.reverse) s.escaping

/-- The deepest place in a value at which a cell gives way to its contents. -/
def deepestCell : Nat := 200

/-- A value with the contents of cells in their place. -/
def settled (value : Value) : Eval Value := do
  let cells := (← get).cells
  return if cells.isEmpty then value else value.settle cells deepestCell

/-- A value with the contents of a cell in its place, but not of the cells that these hold. -/
def opened (value : Value) : Eval Value := do
  match value with
  | .cell index => return .ofCell ((← get).cells.getD index [])
  | value => return value

/-- Writes a value. -/
def emit (value : Value) : Eval Unit := do
  if value.isLoud then throw .undefinedValue
  let value ← settled value
  if (← get).escaping then write value.markupText else write value.text

/-- The truth of a value that must be defined. -/
def truth (value : Value) : Eval Bool :=
  if value.isLoud then throw .undefinedValue else pure value.isTrue

/-- Refuses the names of other templates, of which there are none. -/
def missing (source : Value) (ignored : Bool) : Eval Unit := do
  let choices := source.sequence?.getD [source]
  unless choices.all (·.string?.isSome) do throw .invalidOperation
  unless choices.isEmpty || ignored do throw .templateNotFound

/-! ### Functions -/

/-- The most numbers a range may hold. -/
def longestRange : Nat := 100000

/-- The numbers from `start` on, `count` of them. -/
def arithmeticItems (start step : Int) (count : Nat) : List Value :=
  (List.range count).map fun (i : Nat) => .whole (start + step * i)

/-- The numbers between two bounds. -/
def range : Args Value := do
  let first ← Args.signedOf (← Args.value)
  let second? ← Args.signed?
  let step := (← Args.signed?).getD 1
  Args.close
  let (start, stop) := match second? with
    | some second => (first, second)
    | none => (0, first)
  if step == 0 then throw .invalidOperation
  let distance := if step > 0 then stop - start else start - stop
  let count := ((distance + step.natAbs - 1) / step.natAbs).toNat
  if count > longestRange then throw .invalidOperation
  return .series (arithmeticItems start step count)

/-- The entries of a map with named arguments added. -/
def mapEntries : Args (List (Value × Value)) := do
  let keywords ← Args.keywords
  let named := keywords.map fun (key, value) => (Value.ofString key, value)
  let value? ← Args.value?
  Args.close
  match value? with
  | none => return named
  | some value =>
    match value.entries? with
    | some entries => return entries ++ named
    | none => throw .invalidOperation

/-- The contents of a new cell: those of a map whose keys are strings, or named arguments. -/
def cellEntries : Args (List (String × Value)) := do
  let value? ← Args.value?
  Args.close
  match value? with
  | none => return []
  | some value =>
    match value.entries? with
    | none => throw .invalidOperation
    | some entries =>
      entries.mapM fun (key, value) =>
        match key.string? with
        | some name => pure (name, value)
        | none => throw .invalidOperation

/-- Calls a function that every template knows. -/
def callBuiltin (function : Builtin) (arguments : List Value) : Eval Value := do
  match function with
  | .range => Args.run range arguments
  | .dict => return .ofEntries (← Args.run mapEntries (← arguments.mapM opened))
  | .debug => return .ofString ""
  | .namespaceOf =>
    let entries ← Args.run cellEntries (← arguments.mapM opened)
    let cells := (← get).cells
    modify fun s => { s with cells := cells ++ [entries] }
    return .cell cells.length

/-- The value of an attribute. -/
def field (value : Value) (name : String) : Eval Value := do
  match value with
  | .undefined _ => throw .undefinedValue
  | .cell index =>
    let entries := (← get).cells.getD index []
    return (entries.lookup name).getD (.undefined false)
  | value => return (value.item? (.ofString name)).getD (.undefined false)

/-- The value of an item. -/
def item (value key : Value) : Eval Value := do
  match value, key with
  | .cell _, .string name _ => field value name
  | .undefined _, _ => throw .undefinedValue
  | _, _ => return (value.item? key).getD (.undefined false)

/-- Whether the argument of a loop differs from the one of the last call. -/
def changed (depth : Nat) (value : Value) : Eval Value := do
  let s ← get
  let isLoop (scope : Scope) : Bool := scope.iteration.any (·.depth == depth)
  let previous := (s.scopes.find? isLoop).bind fun scope => scope.iteration.bind (·.changed)
  let update (scope : Scope) : Scope :=
    if isLoop scope then
      { scope with iteration := scope.iteration.map fun i => { i with changed := some value } }
    else scope
  set { s with scopes := s.scopes.map update }
  return .bool !(previous.any (Value.equals · value))

/-- The value of the caller, if one is used, and the arguments of a procedure in the order of
its parameters. -/
def procedureArguments (declaration : Procedure) (usesCaller : Bool) (arguments : List Value) :
    Except Fault (List (String × Value) × List Value) := do
  let (positional, keywords) := match arguments.getLast? with
    | some (.keywords entries) => (arguments.dropLast, entries)
    | _ => (arguments, [])
  let parameters := declaration.parameters
  if positional.length > parameters.length then throw .tooManyArguments
  let known := if usesCaller then "caller" :: parameters else parameters
  if keywords.any fun entry => !known.contains entry.1 then throw .tooManyArguments
  if (parameters.take positional.length).any fun p => (keywords.lookup p).isSome then
    throw .tooManyArguments
  let given := parameters.zipIdx.map fun (p, i) =>
    (positional[i]?).getD ((keywords.lookup p).getD (.undefined false))
  let caller := if usesCaller then [("caller", (keywords.lookup "caller").getD (.undefined false))]
    else []
  return (caller, given)

/-- The default of each parameter, if it has one. -/
def parameterDefaults (declaration : Procedure) : List (Option Expr) :=
  let without := declaration.parameters.length - declaration.defaults.length
  List.replicate without none ++ declaration.defaults.map some

/-! ### Expressions and statements -/

mutual

/-- The value of an expression; `held` is the text that a filter block holds. -/
def expr (blocks : List (String × List Stmt)) (held : Value) : Nat → Expr → Eval Value
  | 0, _ => throw .invalidOperation
  | fuel + 1, e =>
    match e with
    | .literal value => return .ofLiteral value
    | .variable name => do return (← lookup? name).getD (.undefined false)
    | .captured => return held
    | .field value name => do field (← expr blocks held fuel value) name
    | .item value index => do
      let value ← expr blocks held fuel value
      let index ← expr blocks held fuel index
      item value index
    | .slice value start stop step => do
      let value ← expr blocks held fuel value
      let start ← start.mapM (expr blocks held fuel)
      let stop ← stop.mapM (expr blocks held fuel)
      let step ← step.mapM (expr blocks held fuel)
      value.slice start stop step
    | .compare first operators others => do
      let first ← settled (← expr blocks held fuel first)
      return .bool (← compareAll blocks held fuel first operators others)
    | .unary .not operand => do return .bool !(← truth (← expr blocks held fuel operand))
    | .unary .negate operand => do Value.negate (← expr blocks held fuel operand)
    | .binary .or left right => do
      let value ← expr blocks held fuel left
      if ← truth value then return value else expr blocks held fuel right
    | .binary .and left right => do
      let value ← expr blocks held fuel left
      if ← truth value then expr blocks held fuel right else return value
    | .binary operator left right => do
      let a ← expr blocks held fuel left
      let b ← expr blocks held fuel right
      Value.applyBinary operator (← settled a) (← settled b)
    | .conditional test yes no => do
      if ← truth (← expr blocks held fuel test) then expr blocks held fuel yes
      else match no with
        | some no => expr blocks held fuel no
        | none => return .undefined true
    | .filter name value arguments => do
      let value ← expr blocks held fuel value
      let arguments ← args blocks held fuel arguments
      unless Filter.names.contains name do throw .unknownFilter
      let arguments := value :: arguments
      let arguments ← if Filter.keepsCells name then pure arguments else arguments.mapM settled
      Args.run (Filter.apply fuel name) arguments
    | .test name value arguments => do
      let value ← expr blocks held fuel value
      let arguments ← args blocks held fuel arguments
      unless Filter.testNames.contains name do throw .unknownTest
      return .bool (← Args.run (Filter.test name) (← (value :: arguments).mapM settled))
    | .call (.variable "super") _ => throw .invalidOperation
    | .call (.variable "loop") arguments => do
      match ← args blocks held fuel arguments with
      | [value] => loopAgain blocks fuel value
      | _ => throw .invalidOperation
    | .call (.variable name) arguments => do
      let arguments ← args blocks held fuel arguments
      match ← lookup? name with
      | some function => call blocks fuel function arguments
      | none => throw .unknownFunction
    | .call (.field (.variable "self") name) _ =>
      match blocks.lookup name with
      | some body => captured (inScope ⟨[], none⟩ (stmts blocks fuel body))
      | none => throw .unknownBlock
    | .call (.field value name) arguments => do
      let value ← expr blocks held fuel value
      let arguments ← args blocks held fuel arguments
      callMethod blocks fuel value name arguments
    | .call callee arguments => do
      let function ← expr blocks held fuel callee
      let arguments ← args blocks held fuel arguments
      call blocks fuel function arguments
    | .list items => do return .list (← exprs blocks held fuel items)
    | .map keys values => do
      let entries ← entries blocks held fuel keys values
      return .ofEntries entries

/-- Whether every operator holds between the operands on its sides. Operands after the first
comparison that does not hold are not evaluated. -/
def compareAll (blocks : List (String × List Stmt)) (held : Value) : Nat → Value →
    List Comparison → List Expr → Eval Bool
  | 0, _, _, _ => throw .invalidOperation
  | fuel + 1, left, operator :: operators, other :: others => do
    let right ← settled (← expr blocks held fuel other)
    if ← Value.applyComparison operator left right then
      compareAll blocks held fuel right operators others
    else return false
  | _ + 1, _, _, _ => return true

/-- The values of several expressions. -/
def exprs (blocks : List (String × List Stmt)) (held : Value) : Nat → List Expr →
    Eval (List Value)
  | 0, _ => throw .invalidOperation
  | _ + 1, [] => return []
  | fuel + 1, e :: rest => do
    let value ← expr blocks held fuel e
    let values ← exprs blocks held fuel rest
    return value :: values

/-- The entries of a map. -/
def entries (blocks : List (String × List Stmt)) (held : Value) : Nat → List Expr → List Expr →
    Eval (List (Value × Value))
  | 0, _, _ => throw .invalidOperation
  | fuel + 1, key :: keys, value :: values => do
    let key ← expr blocks held fuel key
    let value ← expr blocks held fuel value
    let rest ← entries blocks held fuel keys values
    return (key, value) :: rest
  | _ + 1, _, _ => return []

/-- The values of the arguments of a call, the named ones last. -/
def args (blocks : List (String × List Stmt)) (held : Value) (fuel : Nat)
    (arguments : List Argument) : Eval (List Value) :=
  match fuel with
  | 0 => throw .invalidOperation
  | fuel + 1 => do
    let (positional, named) ← splitArgs blocks held fuel arguments
    let isNamed := arguments.any fun
      | .keyword .. => true
      | .keywordSpread _ => true
      | _ => false
    return if isNamed then positional ++ [.keywords named] else positional

/-- The positional and the named arguments of a call. -/
def splitArgs (blocks : List (String × List Stmt)) (held : Value) : Nat → List Argument →
    Eval (List Value × List (String × Value))
  | 0, _ => throw .invalidOperation
  | _ + 1, [] => return ([], [])
  | fuel + 1, .positional e :: rest => do
    let value ← expr blocks held fuel e
    let (positional, named) ← splitArgs blocks held fuel rest
    return (value :: positional, named)
  | fuel + 1, .spread e :: rest => do
    let value ← opened (← expr blocks held fuel e)
    let items ← Filter.itemsOf value
    let (positional, named) ← splitArgs blocks held fuel rest
    return (items ++ positional, named)
  | fuel + 1, .keyword name e :: rest => do
    let value ← expr blocks held fuel e
    let (positional, named) ← splitArgs blocks held fuel rest
    return (positional, (name, value) :: named)
  | fuel + 1, .keywordSpread e :: rest => do
    let value ← opened (← expr blocks held fuel e)
    match value.entries? with
    | some found =>
      let (positional, named) ← splitArgs blocks held fuel rest
      return (positional, (found.map fun (k, v) => (k.text, v)) ++ named)
    | none => throw .invalidOperation

/-- Calls a value. -/
def call (blocks : List (String × List Stmt)) : Nat → Value → List Value → Eval Value
  | 0, _, _ => throw .invalidOperation
  | fuel + 1, function, arguments =>
    match function with
    | .builtin function => callBuiltin function arguments
    | .procedure declaration depth => do
      let usesCaller := declaration.uses "caller"
      let (caller, given) ← procedureArguments declaration usesCaller arguments
      let unbound := declaration.parameters.map fun name => (name, Value.undefined false)
      let s ← get
      if s.calls ≥ deepestCall then throw .invalidOperation
      let visible := s.scopes.drop (s.scopes.length - depth)
      set { s with scopes := ⟨caller ++ unbound, none⟩ :: visible, calls := s.calls + 1 }
      let text ← captured do
        bindParameters blocks fuel declaration.parameters given (parameterDefaults declaration)
        stmts blocks fuel declaration.body
      modify fun after => { after with scopes := s.scopes, calls := s.calls }
      return text
    | _ => throw .invalidOperation

/-- Binds parameters to their arguments or else to their defaults, the last one first: a default
sees the parameters after its own. -/
def bindParameters (blocks : List (String × List Stmt)) : Nat → List String → List Value →
    List (Option Expr) → Eval Unit
  | 0, _, _, _ => throw .invalidOperation
  | fuel + 1, name :: names, given :: others, default :: defaults => do
    bindParameters blocks fuel names others defaults
    match given, default with
    | .undefined _, some e => bind name (← expr blocks .none fuel e)
    | given, _ => bind name given
  | _ + 1, _, _, _ => return

/-- Calls a method of a value. -/
def callMethod (blocks : List (String × List Stmt)) : Nat → Value → String → List Value →
    Eval Value
  | 0, _, _, _ => throw .invalidOperation
  | fuel + 1, value, name, arguments => do
    match value with
    | .iteration index depth items =>
      match name, arguments with
      | "cycle", arguments =>
        return arguments.getD (index % max arguments.length 1) (.undefined false)
      | "changed", [argument] => changed depth argument
      | "changed", arguments => changed depth (.list arguments)
      | name, arguments =>
        match Value.iterationAttribute index depth items name with
        | .undefined _ => throw .unknownMethod
        | found => call blocks fuel found arguments
    | .cell _ =>
      match ← field value name with
      | .undefined _ => throw .unknownMethod
      | found => call blocks fuel found arguments
    | value =>
      match value.entries?.bind (Value.lookup (.ofString name) ·) with
      | some found => call blocks fuel found arguments
      | none => throw .unknownMethod

/-- Runs the innermost recursive loop over further items. -/
def loopAgain (blocks : List (String × List Stmt)) : Nat → Value → Eval Value
  | 0, _ => throw .invalidOperation
  | fuel + 1, value => do
    let s ← get
    match s.scopes.findSome? (·.iteration) with
    | none => throw .unknownFunction
    | some i =>
      match i.recursion with
      | none => throw .invalidOperation
      | some loop =>
        if s.calls ≥ deepestCall then throw .invalidOperation
        set { s with calls := s.calls + 1 }
        let text ← captured (runLoop blocks fuel loop true (i.depth + 1) value)
        modify fun after => { after with calls := s.calls }
        return text

/-- Runs a loop over the items of a value. -/
def runLoop (blocks : List (String × List Stmt)) : Nat → LoopBody → Bool → Nat → Value →
    Eval Unit
  | 0, _, _, _, _ => throw .invalidOperation
  | fuel + 1, loop, recursive, depth, source => do
    let items ← Filter.itemsOf (← opened source)
    let items ← match loop.condition with
      | none => pure items
      | some condition => filterItems blocks fuel loop.target condition items
    if items.isEmpty then stmts blocks fuel loop.otherwise
    else
      let recursion := if recursive then some loop else none
      inScope ⟨[], some ⟨0, depth, items, none, recursion⟩⟩
        (iterate blocks fuel loop.target loop.body 0 items)

/-- The items for which a condition holds. -/
def filterItems (blocks : List (String × List Stmt)) : Nat → Target → Expr → List Value →
    Eval (List Value)
  | 0, _, _, _ => throw .invalidOperation
  | _ + 1, _, _, [] => return []
  | fuel + 1, target, condition, item :: rest => do
    let keep ← inScope ⟨[], none⟩ do
      assign blocks fuel target item
      truth (← expr blocks .none fuel condition)
    let kept ← filterItems blocks fuel target condition rest
    return if keep then item :: kept else kept

/-- Runs the body of a loop for every item. -/
def iterate (blocks : List (String × List Stmt)) : Nat → Target → List Stmt → Nat →
    List Value → Eval Unit
  | 0, _, _, _, _ => throw .invalidOperation
  | _ + 1, _, _, _, [] => return
  | fuel + 1, target, body, index, item :: rest => do
    modify fun s =>
      match s.scopes with
      | scope :: outer =>
        let iteration := scope.iteration.map fun i => { i with index := index }
        { s with scopes := { scope with iteration := iteration } :: outer }
      | [] => s
    assign blocks fuel target item
    stmts blocks fuel body
    iterate blocks fuel target body (index + 1) rest

/-- Binds a target to a value. -/
def assign (blocks : List (String × List Stmt)) : Nat → Target → Value → Eval Unit
  | 0, _, _ => throw .invalidOperation
  | fuel + 1, target, value =>
    match target with
    | .variable name => bind name value
    | .field owner name => do
      match ← expr blocks .none fuel owner with
      | .cell index =>
        modify fun s =>
          { s with cells := s.cells.modify index fun entries => (name, value) :: entries }
      | _ => throw .invalidOperation
    | .tuple targets => do
      match ← opened value with
      | .string _ _ => throw .cannotUnpack
      | value =>
        let items := value.items?.getD []
        if items.length != targets.length then throw .cannotUnpack
        assignAll blocks fuel targets items

/-- Binds several targets to as many values. -/
def assignAll (blocks : List (String × List Stmt)) : Nat → List Target → List Value → Eval Unit
  | 0, _, _ => throw .invalidOperation
  | fuel + 1, target :: targets, value :: values => do
    assign blocks fuel target value
    assignAll blocks fuel targets values
  | _ + 1, _, _ => return

/-- Runs statements one after another. -/
def stmts (blocks : List (String × List Stmt)) : Nat → List Stmt → Eval Unit
  | 0, _ => throw .invalidOperation
  | _ + 1, [] => return
  | fuel + 1, statement :: rest => do
    stmt blocks fuel statement
    stmts blocks fuel rest

/-- Runs a statement. -/
def stmt (blocks : List (String × List Stmt)) : Nat → Stmt → Eval Unit
  | 0, _ => throw .invalidOperation
  | fuel + 1, statement =>
    match statement with
    | .text value => write value
    | .emit value => do emit (← expr blocks .none fuel value)
    | .loop target source condition recursive body otherwise => do
      let source ← expr blocks .none fuel source
      let depth := ((← get).scopes.filter (·.iteration.isSome)).length
      let depth := if recursive then 0 else depth
      runLoop blocks fuel ⟨target, condition, body, otherwise⟩ recursive depth source
    | .branch test yes no => do
      if ← truth (← expr blocks .none fuel test) then stmts blocks fuel yes
      else stmts blocks fuel no
    | .within bindings body =>
      inScope ⟨[], none⟩ do
        bindAll blocks fuel bindings
        stmts blocks fuel body
    | .assign target value => do
      let value ← expr blocks .none fuel value
      assign blocks fuel target value
    | .capture target filter body => do
      let text ← captured (stmts blocks fuel body)
      let value ← match filter with
        | some filter => expr blocks text fuel filter
        | none => pure text
      assign blocks fuel target value
    | .autoEscape value body => do
      let value ← expr blocks .none fuel value
      let escaping ← match value with
        | .string "html" _ => pure true
        | .string "none" _ => pure false
        | .string _ _ => throw .invalidOperation
        | value => pure (Value.equals value (.bool true))
      let outer := (← get).escaping
      modify fun s => { s with escaping := escaping }
      stmts blocks fuel body
      modify fun s => { s with escaping := outer }
    | .filtered filter body => do
      let text ← captured (stmts blocks fuel body)
      emit (← expr blocks text fuel filter)
    | .block _ body => inScope ⟨[], none⟩ (stmts blocks fuel body)
    | .extend source => do
      match ← expr blocks .none fuel source with
      | .string _ _ => throw .templateNotFound
      | _ => throw .invalidOperation
    | .embed source ignoreMissing => do missing (← expr blocks .none fuel source) ignoreMissing
    | .load source => do missing (← expr blocks .none fuel source) false
    | .define procedure => do
      let depth := (← get).scopes.length
      bind procedure.name (.procedure procedure depth)
    | .callWith (.call callee arguments) procedure => do
      let depth := (← get).scopes.length
      let caller : Value := .procedure procedure depth
      let function ← match callee with
        | .variable name =>
          match ← lookup? name with
          | some function => pure function
          | none => throw .unknownFunction
        | callee => expr blocks .none fuel callee
      let arguments ← args blocks .none fuel arguments
      let arguments := match arguments.getLast? with
        | some (.keywords named) =>
          arguments.dropLast ++ [.keywords (named ++ [("caller", caller)])]
        | _ => arguments ++ [.keywords [("caller", caller)]]
      emit (← call blocks fuel function arguments)
    | .callWith _ _ => throw .invalidOperation
    | .perform call => do discard (expr blocks .none fuel call)

/-- Binds the targets of a `with` statement one after another. -/
def bindAll (blocks : List (String × List Stmt)) : Nat → List (Target × Expr) → Eval Unit
  | 0, _ => throw .invalidOperation
  | _ + 1, [] => return
  | fuel + 1, (target, e) :: rest => do
    let value ← expr blocks .none fuel e
    assign blocks fuel target value
    bindAll blocks fuel rest

end

end Eval

/-- The bound on the steps of an evaluation along one chain of calls. Going on to the next statement
of a template does not count towards it. -/
def evaluationBound : Nat := 1000000

/-- Evaluates statements with the given variables. -/
def render (statements : List Stmt) (bindings : List (String × Value)) : Except Fault String := do
  let blocks := Stmt.listBlocks statements
  let initial : EvalState := ⟨[⟨bindings, none⟩], [], false, [], 0⟩
  let (_, final) ← (Eval.stmts blocks (evaluationBound + statements.length) statements).run
    initial
  return String.join final.output.reverse

end CatalogFeeds.Template
