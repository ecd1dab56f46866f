import CatalogFeeds.Url.Query
/-!
Base URLs of sources, and URLs that may be shown.

A base URL may leave out its scheme, which is then `https`. Before a URL is shown, user name and
password and the values of query pairs whose name says that they are secret are replaced by
stars.
-/

namespace CatalogFeeds.Url

open CatalogFeeds.Text

/-- A base URL with its scheme, and without the blanks around it. -/
def withScheme (text : String) : String :=
  let text := trimmed text
  if text.startsWith "http://" || text.startsWith "https://" then text else "https://" ++ text

/-- Reads a base URL, which may leave out its scheme. -/
def baseOf (text : String) : Except UrlError Url :=
  parse (withScheme text)

/-- The names of query pairs whose values are secret. -/
def secretNames : List String :=
  ["username", "password", "user", "pass", "pwd", "passwd", "token", "access_token", "api_key",
    "apikey"]

/-- Whether the value of a pair is secret; ASCII case does not count. -/
def isSecret (name : String) : Bool :=
  secretNames.any (equalIgnoringCase · name)

/-- What stands for a secret. -/
def stars : String := "****"

/-- Hides user name and password, if there is either. -/
def maskUser (url : Url) : Url :=
  let hasUser := !url.username.isEmpty || url.password.isSome
  let hasHost := url.host.any (!·.isEmpty) && url.scheme != "file"
  if hasUser && hasHost then { url with username := stars, password := some stars } else url

/-- Hides the values of secret pairs, if there are any. -/
def maskQuery (url : Url) : Url :=
  let pairs := url.queryPairs
  if pairs.any (isSecret ·.1) then
    url.withPairs (pairs.map fun (name, value) => (name, if isSecret name then stars else value))
  else url

/-- The URL without its secrets. -/
def mask (url : Url) : Url :=
  maskQuery (maskUser url)

/-- The text with its secrets hidden, if it is a URL. -/
def maskText (text : String) : String :=
  match parse text with
  | .ok url => (mask url).render
  | .error _ => text

end CatalogFeeds.Url
