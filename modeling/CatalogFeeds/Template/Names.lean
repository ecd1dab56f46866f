import CatalogFeeds.Template.Tree
/-!
The names that a tree uses and the blocks that it defines.

A procedure takes a caller only if it uses the name for it, so the uses of a name are looked for
before anything is evaluated. They are found wherever they stand, shadowed or not.
-/

namespace CatalogFeeds.Template

mutual

/-- Whether an expression uses a name as a variable. -/
def Expr.uses (name : String) : Expr → Bool
  | .literal _ => false
  | .variable found => found == name
  | .captured => false
  | .field value _ => value.uses name
  | .item value index => value.uses name || index.uses name
  | .slice value start stop step =>
    value.uses name || Expr.optionUses name start || Expr.optionUses name stop ||
      Expr.optionUses name step
  | .unary _ operand => operand.uses name
  | .binary _ left right => left.uses name || right.uses name
  | .compare first _ others => first.uses name || Expr.listUses name others
  | .conditional test yes no => test.uses name || yes.uses name || Expr.optionUses name no
  | .filter _ value arguments => value.uses name || Expr.argumentsUse name arguments
  | .test _ value arguments => value.uses name || Expr.argumentsUse name arguments
  | .call callee arguments => callee.uses name || Expr.argumentsUse name arguments
  | .list items => Expr.listUses name items
  | .map keys values => Expr.listUses name keys || Expr.listUses name values

/-- Whether an optional expression uses a name. -/
def Expr.optionUses (name : String) : Option Expr → Bool
  | none => false
  | some value => value.uses name

/-- Whether one of several expressions uses a name. -/
def Expr.listUses (name : String) : List Expr → Bool
  | [] => false
  | value :: rest => value.uses name || Expr.listUses name rest

/-- Whether one of several arguments uses a name. -/
def Expr.argumentsUse (name : String) : List Argument → Bool
  | [] => false
  | argument :: rest => argument.uses name || Expr.argumentsUse name rest

/-- Whether an argument uses a name. -/
def Argument.uses (name : String) : Argument → Bool
  | .positional value => value.uses name
  | .spread value => value.uses name
  | .keyword _ value => value.uses name
  | .keywordSpread value => value.uses name

end

mutual

/-- Whether a statement uses a name as a variable. -/
def Stmt.uses (name : String) : Stmt → Bool
  | .text _ => false
  | .emit value => value.uses name
  | .loop _ source condition _ body otherwise =>
    source.uses name || Expr.optionUses name condition || Stmt.listUses name body ||
      Stmt.listUses name otherwise
  | .branch test yes no => test.uses name || Stmt.listUses name yes || Stmt.listUses name no
  | .within bindings body => Stmt.bindingsUse name bindings || Stmt.listUses name body
  | .assign _ value => value.uses name
  | .capture _ filter body => Expr.optionUses name filter || Stmt.listUses name body
  | .autoEscape value body => value.uses name || Stmt.listUses name body
  | .filtered filter body => filter.uses name || Stmt.listUses name body
  | .block _ body => Stmt.listUses name body
  | .extend source => source.uses name
  | .embed source _ => source.uses name
  | .load source => source.uses name
  | .define procedure => procedure.uses name
  | .callWith call procedure => call.uses name || procedure.uses name
  | .perform call => call.uses name

/-- Whether one of several statements uses a name. -/
def Stmt.listUses (name : String) : List Stmt → Bool
  | [] => false
  | statement :: rest => statement.uses name || Stmt.listUses name rest

/-- Whether one of several bindings uses a name. -/
def Stmt.bindingsUse (name : String) : List (Target × Expr) → Bool
  | [] => false
  | (_, value) :: rest => value.uses name || Stmt.bindingsUse name rest

/-- Whether the defaults or the body of a procedure use a name. -/
def Procedure.uses (name : String) : Procedure → Bool
  | .mk _ _ defaults body => Expr.listUses name defaults || Stmt.listUses name body

end

mutual

/-- The blocks that a statement defines, by name. -/
def Stmt.blocks : Stmt → List (String × List Stmt)
  | .loop _ _ _ _ body otherwise => Stmt.listBlocks body ++ Stmt.listBlocks otherwise
  | .branch _ yes no => Stmt.listBlocks yes ++ Stmt.listBlocks no
  | .within _ body => Stmt.listBlocks body
  | .capture _ _ body => Stmt.listBlocks body
  | .autoEscape _ body => Stmt.listBlocks body
  | .filtered _ body => Stmt.listBlocks body
  | .block name body => (name, body) :: Stmt.listBlocks body
  | _ => []

/-- The blocks that several statements define. -/
def Stmt.listBlocks : List Stmt → List (String × List Stmt)
  | [] => []
  | statement :: rest => statement.blocks ++ Stmt.listBlocks rest

end

end CatalogFeeds.Template
