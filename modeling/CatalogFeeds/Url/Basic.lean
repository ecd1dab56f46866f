import CatalogFeeds.Url.Encode
/-!
URLs by their parts, and how they are written.

Every part is kept in the form in which it is written, percent signs included; the host has its
brackets if it needs them. `Url.render` puts the parts together again.
-/

namespace CatalogFeeds

open CatalogFeeds.Text

/-- The path of a URL: a plain text, or segments that a slash stands in front of. -/
inductive UrlPath where
  | plain (text : String)
  | segments (segments : List String)
  deriving DecidableEq, Repr

/-- A URL. The host is `none` when nothing announces one, and may be empty. -/
structure Url where
  scheme : String
  username : String := ""
  password : Option String := none
  host : Option String := none
  port : Option Nat := none
  path : UrlPath
  query : Option String := none
  fragment : Option String := none
  deriving DecidableEq, Repr

/-- Why a text is no URL. -/
inductive UrlError where
  | noScheme
  | emptyHost
  | invalidPort
  | invalidIpv4
  | invalidIpv6
  | invalidDomain
  | invalidHostCharacter
  deriving DecidableEq, Repr

/-- The phrase that reports an error. -/
def UrlError.message : UrlError → String
  | noScheme => "relative URL without a base"
  | emptyHost => "empty host"
  | invalidPort => "invalid port number"
  | invalidIpv4 => "invalid IPv4 address"
  | invalidIpv6 => "invalid IPv6 address"
  | invalidDomain => "invalid international domain name"
  | invalidHostCharacter => "invalid domain character"

namespace UrlPath

/-- The text of a path. -/
def text : UrlPath → String
  | plain text => text
  | segments parts => String.join (parts.map ("/" ++ ·))

end UrlPath

namespace Url

/-- The port a scheme uses when none is given. -/
def defaultPort? (scheme : String) : Option Nat :=
  match scheme with
  | "http" => some 80
  | "ws" => some 80
  | "https" => some 443
  | "wss" => some 443
  | "ftp" => some 21
  | _ => none

/-- Whether a scheme names a host after any number of slashes, and takes backslashes for
slashes. -/
def isSpecial (scheme : String) : Bool :=
  scheme == "file" || (defaultPort? scheme).isSome

/-- User name and password with the sign that ends them, or nothing when both are missing. -/
def userinfo (url : Url) : String :=
  match url.password with
  | some password => url.username ++ ":" ++ password ++ "@"
  | none => if url.username.isEmpty then "" else url.username ++ "@"

/-- What stands between scheme and path: user, host and port, or the mark that keeps apart a path
that begins with two slashes. -/
def authority (url : Url) : String :=
  match url.host, url.path with
  | some host, _ =>
    "//" ++ url.userinfo ++ host ++ url.port.elim "" fun port => ":" ++ toString port
  | none, .segments ("" :: _ :: _) => "/."
  | none, _ => ""

/-- The text of a URL. -/
def render (url : Url) : String :=
  url.scheme ++ ":" ++ url.authority ++ url.path.text ++ url.query.elim "" ("?" ++ ·) ++
    url.fragment.elim "" ("#" ++ ·)

end Url

end CatalogFeeds
