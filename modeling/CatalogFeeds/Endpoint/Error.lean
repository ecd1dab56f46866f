import CatalogFeeds.Path.Modifier
import CatalogFeeds.Template.Expand
import CatalogFeeds.Url.Basic
/-!
What can go wrong when an endpoint is compiled, requested or decoded.
-/

namespace CatalogFeeds

/-- Why an endpoint cannot be used, or has no answer. -/
inductive EndpointError where
  | configuration (reason : String)
  | missingEndpoint (name : String)
  | template (error : Template.TemplateError)
  | url (error : UrlError)
  | transport (method url reason : String)
  | status (code : Nat) (url : String)
  | decode (reason : String)
  | resolve (error : PathError)
  deriving DecidableEq

namespace EndpointError

/-- The sentence that reports an error. -/
def message : EndpointError → String
  | configuration reason => "Configuration error: " ++ reason
  | missingEndpoint name => "missing endpoint: " ++ name
  | template error => error.message
  | url error => "Invalid URL: " ++ error.message
  | transport method address reason =>
    "Transport error: " ++ method ++ " " ++ address ++ " - " ++ reason
  | status code address =>
    "unsuccessful status-code: " ++ toString code ++ " from " ++ address
  | decode reason => "Decode error: " ++ reason
  | resolve error => "Resolve error: " ++ error.message

/-- Whether the error comes from talking to the catalogue rather than from settings or data. -/
def isRemote : EndpointError → Bool
  | transport .. => true
  | status .. => true
  | _ => false

end EndpointError

/-- Results that may fail with an endpoint error. -/
abbrev EndpointM := Except EndpointError

end CatalogFeeds
