import CatalogFeeds.Path.Selector
/-!
Evaluating path expressions.

Following a path ends either at a value or nowhere. Null counts as nowhere, before a modifier
is applied as well as after. A number sign applied to an array is its length, and whatever
follows it in the path is not looked at.
-/

namespace CatalogFeeds

/-- The value that a path leads to. -/
def Json.follow? (document : Json) : List String → Option Json
  | [] => some document
  | segment :: rest =>
    match document with
    | .object members => (Members.get? segment members).bind (·.follow? rest)
    | .array items =>
      if segment == "#" then some (.ofNat items.length)
      else do
        let index ← Text.natural? segment.toList
        let item ← items[index]?
        item.follow? rest
    | _ => none

/-- A value that is not null. -/
def Json.present? (value : Json) : Option Json :=
  if value.isNull then none else some value

namespace Selector

/-- The value of an expression in a document, or `none` where there is none. -/
def evaluate (selector : Selector) (document : Json) : Except PathError (Option Json) :=
  let located := (document.follow? selector.segments).bind Json.present?
  match selector.modifier with
  | none => .ok located
  | some call => (call.modifier.apply located call.argument).map (·.bind Json.present?)

/-- Reads an expression and evaluates it. -/
def evaluateText (modifiers : ModifierSet) (source : String) (document : Json) :
    Except PathError (Option Json) := do
  let selector ← parse modifiers source
  selector.evaluate document

end Selector

end CatalogFeeds
