import CatalogFeeds.Template.Token
/-!
Templates as trees of statements and expressions.
-/

namespace CatalogFeeds.Template

/-- A constant in a template. -/
inductive Literal where
  | none
  | bool (value : Bool)
  | whole (value : Nat)
  | real (value : Float)
  | string (value : String)

/-- An operator with two operands. -/
inductive BinaryOperator where
  | or
  | and
  | add
  | subtract
  | multiply
  | divide
  | floorDivide
  | remainder
  | power
  | concatenate
  deriving DecidableEq, Repr

/-- An operator that compares two operands. -/
inductive Comparison where
  | equal
  | unequal
  | less
  | lessEqual
  | greater
  | greaterEqual
  | contained
  | notContained
  deriving DecidableEq, Repr

/-- An operator with one operand. -/
inductive UnaryOperator where
  | not
  | negate
  deriving DecidableEq, Repr

mutual

/-- An expression. `captured` is the text that a filter block or a capturing assignment holds.
A comparison may go on: every operator compares the operands on both of its sides. -/
inductive Expr where
  | literal (value : Literal)
  | variable (name : String)
  | captured
  | field (value : Expr) (name : String)
  | item (value index : Expr)
  | slice (value : Expr) (start stop step : Option Expr)
  | unary (operator : UnaryOperator) (operand : Expr)
  | binary (operator : BinaryOperator) (left right : Expr)
  | compare (first : Expr) (operators : List Comparison) (others : List Expr)
  | conditional (test yes : Expr) (no : Option Expr)
  | filter (name : String) (value : Expr) (arguments : List Argument)
  | test (name : String) (value : Expr) (arguments : List Argument)
  | call (callee : Expr) (arguments : List Argument)
  | list (items : List Expr)
  | map (keys values : List Expr)

/-- An argument of a call. -/
inductive Argument where
  | positional (value : Expr)
  | spread (value : Expr)
  | keyword (name : String) (value : Expr)
  | keywordSpread (value : Expr)

end

/-- What an assignment binds. -/
inductive Target where
  | variable (name : String)
  | field (value : Expr) (name : String)
  | tuple (items : List Target)

mutual

/-- A statement. -/
inductive Stmt where
  | text (value : String)
  | emit (value : Expr)
  | loop (target : Target) (source : Expr) (condition : Option Expr) (recursive : Bool)
      (body otherwise : List Stmt)
  | branch (test : Expr) (yes no : List Stmt)
  | within (bindings : List (Target × Expr)) (body : List Stmt)
  | assign (target : Target) (value : Expr)
  | capture (target : Target) (filter : Option Expr) (body : List Stmt)
  | autoEscape (value : Expr) (body : List Stmt)
  | filtered (filter : Expr) (body : List Stmt)
  | block (name : String) (body : List Stmt)
  | extend (source : Expr)
  | embed (source : Expr) (ignoreMissing : Bool)
  | load (source : Expr)
  | define (procedure : Procedure)
  | callWith (call : Expr) (procedure : Procedure)
  | perform (call : Expr)

/-- A named piece of template with parameters; defaults belong to the last of them. -/
inductive Procedure where
  | mk (name : String) (parameters : List String) (defaults : List Expr) (body : List Stmt)

end

namespace Procedure

/-- The name a procedure is called by. -/
def name : Procedure → String
  | mk name _ _ _ => name

/-- The parameters of a procedure. -/
def parameters : Procedure → List String
  | mk _ parameters _ _ => parameters

/-- The default values of the last parameters. -/
def defaults : Procedure → List Expr
  | mk _ _ defaults _ => defaults

/-- The statements of a procedure. -/
def body : Procedure → List Stmt
  | mk _ _ _ body => body

end Procedure

end CatalogFeeds.Template
