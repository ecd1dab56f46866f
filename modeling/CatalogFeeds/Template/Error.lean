/-!
What can go wrong with a template.

The first two causes are found when a template is read, the others when it is evaluated.
-/

namespace CatalogFeeds.Template

/-- Why a template cannot be read or evaluated. -/
inductive Fault where
  | malformed
  | badEscape
  | undefinedValue
  | invalidOperation
  | unknownFilter
  | unknownTest
  | unknownFunction
  | unknownMethod
  | unknownBlock
  | tooManyArguments
  | missingArgument
  | cannotUnpack
  | templateNotFound
  deriving DecidableEq, Repr

/-- The phrase that reports a fault. -/
def Fault.message : Fault → String
  | malformed => "syntax error"
  | badEscape => "bad string escape"
  | undefinedValue => "undefined value"
  | invalidOperation => "invalid operation"
  | unknownFilter => "unknown filter"
  | unknownTest => "unknown test"
  | unknownFunction => "unknown function"
  | unknownMethod => "unknown method"
  | unknownBlock => "unknown block"
  | tooManyArguments => "too many arguments"
  | missingArgument => "missing argument"
  | cannotUnpack => "cannot unpack"
  | templateNotFound => "template not found"

end CatalogFeeds.Template
