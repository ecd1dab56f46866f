import CatalogFeeds.Json.Parser
import CatalogFeeds.Json.Printer
/-!
Modifiers of path expressions.

A modifier takes what a path led to, or nothing, and an optional argument. Two are built in:
`literal` yields its argument, read as JSON where that is possible; `categories` turns a list of
strings into a list of category records. A modifier set holds those that an expression may name;
others can be registered in it.
-/

namespace CatalogFeeds

/-- Why a path expression could not be read or evaluated. -/
inductive PathError where
  | invalidExpression (expression reason : String)
  | unknownModifier (name expression : String)
  | malformedInput (modifier fragment reason : String)
  deriving DecidableEq

/-- The sentence that reports an error. -/
def PathError.message : PathError → String
  | invalidExpression expression reason =>
    "invalid path expression '" ++ expression ++ "': " ++ reason
  | unknownModifier name expression =>
    "unknown modifier '" ++ name ++ "' in expression '" ++ expression ++ "'"
  | malformedInput modifier fragment reason =>
    "modifier '" ++ modifier ++ "' received malformed input " ++ fragment ++ ": " ++ reason

/-- A transformation of what a path led to. -/
structure Modifier where
  /-- The name behind the bar of an expression. -/
  name : String
  /-- Whether it cannot do without an argument. -/
  needsArgument : Bool := false
  /-- Transforms what was found; nothing found and no result are both `none`. -/
  apply : Option Json → Option String → Except PathError (Option Json)

namespace Modifier

/-- The value an argument stands for: the JSON it spells, or else its own text. -/
def literalValue (argument : String) : Json :=
  (Json.parse? argument).getD (.string argument)

/-- The value of the argument, whatever was found. -/
def literal : Modifier where
  name := "literal"
  needsArgument := true
  apply _ argument := .ok (argument.map literalValue)

/-- The record of one category. -/
def categoryRecord (text : String) : Json :=
  .object [("text", .string text)]

/-- The category records of a list of strings, if it is one. -/
def categoryRecords? : List Json → Option (List Json)
  | [] => some []
  | .string text :: rest => (categoryRecords? rest).map (categoryRecord text :: ·)
  | _ :: _ => none

/-- The category records of the strings that were found. -/
def categories : Modifier where
  name := "categories"
  apply input _ :=
    match input with
    | none => .ok none
    | some value =>
      match value.items?.bind categoryRecords? with
      | some records => .ok (some (.array records))
      | none => .error (.malformedInput "categories" value.render "expected an array of strings")

/-- The built-in modifier of a name. -/
def ofName? (name : String) : Option Modifier :=
  [literal, categories].find? (·.name == name)

end Modifier

/-- The modifiers that expressions may name, in the order in which they were registered. -/
structure ModifierSet where
  members : List Modifier

namespace ModifierSet

/-- The set without modifiers. -/
def empty : ModifierSet := ⟨[]⟩

/-- Adds a modifier. It takes the place of one that was registered under the same name. -/
def register (modifiers : ModifierSet) (modifier : Modifier) : ModifierSet :=
  ⟨modifiers.members ++ [modifier]⟩

/-- The set of the built-in modifiers. -/
def builtin : ModifierSet :=
  (empty.register .literal).register .categories

/-- The modifiers of a set under their names. -/
def table (modifiers : ModifierSet) : List (String × Modifier) :=
  Members.ofList (modifiers.members.map fun modifier => (modifier.name, modifier))

/-- The modifier of a name, if it is in the set. -/
def get? (modifiers : ModifierSet) (name : String) : Option Modifier :=
  Members.get? name modifiers.table

/-- Whether the set has a modifier of a name. -/
def contains (modifiers : ModifierSet) (name : String) : Bool :=
  (modifiers.get? name).isSome

/-- The names in the set, in the order of their code points and without repetition. -/
def names (modifiers : ModifierSet) : List String :=
  modifiers.table.map (·.1)

end ModifierSet

end CatalogFeeds
