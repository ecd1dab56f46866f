import CatalogFeeds.Template.Evaluate
/-!
Expanding texts that may be templates.

A text without the marks of a variable or of a statement stands for itself: it is neither read
as a template nor evaluated.
-/

namespace CatalogFeeds.Template

/-- A fault together with the template it was found in. -/
structure TemplateError where
  template : String
  fault : Fault
  deriving DecidableEq, Repr

/-- The sentence that reports a faulty template. -/
def TemplateError.message (error : TemplateError) : String :=
  "Template error in '" ++ error.template ++ "': " ++ error.fault.message

/-- Whether a text holds a mark of a variable or of a statement. -/
def hasMarkup (text : String) : Bool :=
  Text.contains ['\x7b', '\x7b'] text.toList || Text.contains ['\x7b', '%'] text.toList

/-- Checks that a text can be read. -/
def validate (text : String) : Except TemplateError Unit :=
  if hasMarkup text then
    match parse text with
    | .ok _ => .ok ()
    | .error fault => .error ⟨text, fault⟩
  else .ok ()

/-- The variables of a template, from the members of an object. -/
def bindings (members : List (String × Json)) : List (String × Value) :=
  members.map fun (name, value) => (name, .ofJson value)

/-- Reads a text as a template and evaluates it. -/
def evaluate (text : String) (members : List (String × Json)) : Except TemplateError String :=
  match parse text >>= (render · (bindings members)) with
  | .ok result => .ok result
  | .error fault => .error ⟨text, fault⟩

/-- The text with its placeholders replaced. -/
def expand (text : String) (members : List (String × Json)) : Except TemplateError String :=
  if hasMarkup text then evaluate text members else .ok text

end CatalogFeeds.Template
