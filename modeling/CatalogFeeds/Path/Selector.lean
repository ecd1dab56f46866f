import CatalogFeeds.Path.Modifier
import CatalogFeeds.Text.Blank
/-!
Path expressions and how they are read.

    expression := path [ "|" ["@"] call ]
                | "@" call
    path       := "" | "@this" | segment ( "." segment )*
    call       := name [ ":" argument ]

A segment is a key, or an index into an array. A backslash takes the character after it as part
of the segment. Blanks around the expression and around a modifier's name do not count; an
argument is taken as it stands.
-/

namespace CatalogFeeds

open CatalogFeeds.Text

/-- A modifier together with its argument. -/
structure AppliedModifier where
  modifier : Modifier
  argument : Option String

/-- A path expression: the keys and indices to follow, then perhaps a modifier. -/
structure Selector where
  source : String
  segments : List String
  modifier : Option AppliedModifier

namespace Selector

/-- Whether the expression leads to the document itself. -/
def isWhole (selector : Selector) : Bool :=
  selector.segments.isEmpty

/-- Splits a text at the first bar that no backslash protects; the bar is dropped. -/
def splitAtBar : List Char → List Char × Option (List Char)
  | [] => ([], none)
  | '\\' :: c :: rest =>
    let (path, call) := splitAtBar rest
    ('\\' :: c :: path, call)
  | '|' :: rest => ([], some rest)
  | c :: rest =>
    let (path, call) := splitAtBar rest
    (c :: path, call)

/-- The path and the call of a trimmed expression. -/
def splitCall (cs : List Char) : List Char × Option (List Char) :=
  match cs with
  | ['@', 't', 'h', 'i', 's'] => ([], none)
  | '@' :: 't' :: 'h' :: 'i' :: 's' :: '|' :: rest => ([], some rest)
  | '@' :: rest => ([], some rest)
  | _ => splitAtBar cs

/-- The segments of a path that has at least one, unless it ends with a lone backslash. -/
def rawSegments? : List Char → Option (List (List Char))
  | [] => some [[]]
  | '\\' :: c :: rest => (rawSegments? rest).map (consHead c)
  | ['\\'] => none
  | '.' :: rest => (rawSegments? rest).map ([] :: ·)
  | c :: rest => (rawSegments? rest).map (consHead c)
where
  /-- Puts a character in front of the first segment. -/
  consHead (c : Char) : List (List Char) → List (List Char)
    | [] => [[c]]
    | segment :: segments => (c :: segment) :: segments

/-- Reads the path of an expression. -/
def segments? (source : String) (path : List Char) : Except PathError (List String) :=
  if path.isEmpty then .ok []
  else match rawSegments? path with
    | none => .error (.invalidExpression source "dangling escape")
    | some segments =>
      if segments.any (·.isEmpty) then .error (.invalidExpression source "empty path segment")
      else .ok (segments.map String.ofList)

/-- Reads the call of an expression. -/
def call? (modifiers : ModifierSet) (source : String) (cs : List Char) :
    Except PathError AppliedModifier :=
  let cs := match cs with
    | '@' :: rest => rest
    | _ => cs
  let (name, argument) := match splitOnce ':' cs with
    | some (name, argument) => (trim name, some (String.ofList argument))
    | none => (trim cs, none)
  let name := String.ofList name
  if name.isEmpty then .error (.invalidExpression source "empty modifier name")
  else match modifiers.get? name with
    | none => .error (.unknownModifier name source)
    | some modifier =>
      if modifier.needsArgument && argument.isNone then
        .error (.invalidExpression source ("modifier '" ++ name ++ "' requires an argument"))
      else .ok ⟨modifier, argument⟩

/-- Reads an expression. -/
def parse (modifiers : ModifierSet) (source : String) : Except PathError Selector := do
  let (path, call) := splitCall (trim source.toList)
  let segments ← segments? source path
  let modifier ← match call with
    | none => pure none
    | some cs => (call? modifiers source cs).map some
  return ⟨source, segments, modifier⟩

end Selector

end CatalogFeeds
