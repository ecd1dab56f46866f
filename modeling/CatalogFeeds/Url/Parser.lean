import CatalogFeeds.Url.Host
/-!
Reading URLs.

Controls and spaces around a URL do not count, nor do tabs and line ends anywhere. A URL of a
special scheme always has a host, after any number of slashes; a path is shortened by its dot
segments while it is read.
-/

namespace CatalogFeeds.Url

open CatalogFeeds.Text

/-! ### Paths -/

/-- A segment with its encoded dots written out, for comparison with the dot segments. -/
def plainDots : List Char → List Char
  | '%' :: '2' :: 'e' :: rest => '.' :: plainDots rest
  | '%' :: '2' :: 'E' :: rest => '.' :: plainDots rest
  | c :: rest => c :: plainDots rest
  | [] => []

/-- A letter followed by a colon or a bar. -/
def isDriveLetter : List Char → Bool
  | [c, mark] => isLetter c && (mark == ':' || mark == '|')
  | _ => false

/-- Puts a segment behind others, the last of which comes first. The drive letter that begins the
path of a file ends with a colon. -/
def keep (file : Bool) (segment : List Char) (kept : List (List Char)) : List (List Char) :=
  if file && kept.isEmpty && isDriveLetter segment then (segment.take 1 ++ [':']) :: kept
  else segment :: kept

/-- Drops the last segment, but never the drive letter of a file. -/
def dropLast (file : Bool) (kept : List (List Char)) : List (List Char) :=
  match kept with
  | [segment] => if file && isDriveLetter segment then kept else []
  | _ => kept.tail

/-- Shortens segments by those that are dots; a dot segment at the end leaves an empty one. -/
def shorten (file : Bool) : (kept : List (List Char)) → List (List Char) → List (List Char)
  | kept, [] => kept.reverse
  | kept, segment :: rest =>
    let dots := plainDots segment
    if dots == ['.', '.'] then
      let kept := dropLast file kept
      shorten file (if rest.isEmpty then [] :: kept else kept) rest
    else if dots == ['.'] then
      shorten file (if rest.isEmpty then [] :: kept else kept) rest
    else shorten file (keep file segment kept) rest

/-- Splits a path at its slashes. -/
def splitPath (special : Bool) (cs : List Char) : List (List Char) :=
  splitAll '/' (if special then cs.map fun c => if c == '\\' then '/' else c else cs)

/-- The segments of a path whose first slash has been taken off. -/
def segmentsOf (scheme : String) (cs : List Char) : UrlPath :=
  let segments := (splitPath (isSpecial scheme) cs).map (percentEncode encodedInPath)
  .segments ((shorten (scheme == "file") [] segments).map String.ofList)

/-- Takes one slash off the front, if there is one. -/
def withoutSlash (special : Bool) (cs : List Char) : List Char :=
  match cs with
  | '/' :: rest => rest
  | '\\' :: rest => if special then rest else cs
  | _ => cs

/-- The path after an authority: that of a special scheme is never empty. -/
def pathAfterHost (scheme : String) (cs : List Char) : UrlPath :=
  if cs.isEmpty && !isSpecial scheme then .segments []
  else segmentsOf scheme (withoutSlash (isSpecial scheme) cs)

/-! ### Authorities -/

/-- Whether a character ends an authority. -/
def endsAuthority (special : Bool) (c : Char) : Bool :=
  c == '/' || c == '?' || c == '#' || (special && c == '\\')

/-- Splits at the last sign that ends user information. -/
def splitUser (cs : List Char) : Option (List Char × List Char) :=
  let host := (cs.reverse.takeWhile (· != '@')).reverse
  if host.length == cs.length then none
  else some (cs.take (cs.length - host.length - 1), host)

/-- User name and password; an empty password counts as none. -/
def user (cs : List Char) : String × Option String :=
  let encode (cs : List Char) := String.ofList (percentEncode encodedInUserinfo cs)
  match splitOnce ':' cs with
  | some (name, password) =>
    (encode name, if password.isEmpty then none else some (encode password))
  | none => (encode cs, none)

/-- Splits a host from a port, at the first colon outside brackets. -/
def splitPort (inside : Bool) : List Char → List Char × Option (List Char)
  | [] => ([], none)
  | c :: rest =>
    if c == ':' && !inside then ([], some rest)
    else
      let (host, port) := splitPort (c == '[' || (inside && c != ']')) rest
      (c :: host, port)

/-- Reads a port; also gives what is left behind a backslash. -/
def parsePort (scheme : String) (cs : List Char) : Except UrlError (Option Nat × List Char) :=
  let (ds, rest) := cs.span isDigit
  if 65535 < ofDigits ds || !(rest.isEmpty || rest.head? == some '\\') then .error .invalidPort
  else
    let port := if ds.isEmpty then none else some (ofDigits ds)
    .ok (if port == defaultPort? scheme then none else port, rest)

/-- Reads what follows the slashes in front of a host. -/
def afterSlashes (scheme : String) (cs : List Char) : Except UrlError Url := do
  let special := isSpecial scheme
  let (authority, rest) := cs.span (!endsAuthority special ·)
  let (userinfo, hostPort) := match splitUser authority with
    | some (userinfo, hostPort) => (userinfo, hostPort)
    | none => ([], authority)
  if authority == ['@'] && !rest.isEmpty then throw .emptyHost
  let (username, password) := user userinfo
  let (hostText, portText) := splitPort false hostPort
  if hostText.isEmpty && (special || portText.isSome) then throw .emptyHost
  let host ← if special then Host.parse hostText else Host.parseAny hostText
  if host.isEmpty && (!username.isEmpty || password.isSome) then throw .emptyHost
  let (port, left) ← match portText with
    | some text => parsePort scheme text
    | none => pure (none, [])
  return {
    scheme, username, password, port
    host := some host
    path := pathAfterHost scheme (left ++ rest) }

/-! ### Files -/

/-- Whether a character separates segments, or is what follows a path. -/
def endsFileHost (c : Char) : Bool :=
  endsAuthority true c

/-- Reads what follows the scheme of a file. -/
def fileUrl (cs : List Char) : Except UrlError Url := do
  let file (host : String) (path : List Char) : Url :=
    { scheme := "file", host := some host, path := segmentsOf "file" (withoutSlash true path) }
  let isSlash (c : Char) := c == '/' || c == '\\'
  match cs with
  | a :: b :: rest =>
    if isSlash a && isSlash b then
      let (host, path) := rest.span (!endsFileHost ·)
      if isDriveLetter host then return file "" rest
      else if host.isEmpty then return file "" path
      else
        let host ← Host.parse host
        let keepsHost := host != "localhost" &&
          !isDriveLetter ((splitPath true (withoutSlash true path)).headD [])
        return file (if keepsHost then host else "") path
    else return file "" cs
  | _ => return file "" cs

/-! ### URLs -/

/-- The characters dropped from both ends of a URL. -/
def isControlOrSpace (c : Char) : Bool :=
  c.toNat ≤ 0x20

/-- The characters dropped everywhere in a URL. -/
def isIgnored (c : Char) : Bool :=
  c == '\t' || c == '\n' || c == '\r'

/-- Splits a scheme, in lower case, from what follows its colon. -/
def splitScheme? (cs : List Char) : Option (String × List Char) :=
  match splitOnce ':' cs with
  | some (scheme, rest) =>
    if (scheme.head?.any isLetter) &&
        scheme.all fun c => isAlphanumeric c || c == '+' || c == '-' || c == '.' then
      some (String.ofList (scheme.map lower), rest)
    else none
  | none => none

/-- Reads scheme, host and path of a URL without query and fragment. -/
def hierarchy (scheme : String) (cs : List Char) : Except UrlError Url :=
  if scheme == "file" then fileUrl cs
  else if isSpecial scheme then
    afterSlashes scheme (cs.dropWhile fun c => c == '/' || c == '\\')
  else match cs with
    | '/' :: '/' :: rest => afterSlashes scheme rest
    | '/' :: rest => .ok { scheme, path := segmentsOf scheme rest }
    | _ => .ok { scheme, path := .plain (String.ofList (percentEncode encodedAnywhere cs)) }

/-- Reads a URL. -/
def parse (text : String) : Except UrlError Url := do
  let cs := (stripWhile isControlOrSpace text.toList).filter (!isIgnored ·)
  let some (scheme, rest) := splitScheme? cs | throw .noScheme
  let (rest, fragment) := match splitOnce '#' rest with
    | some (rest, fragment) => (rest, some fragment)
    | none => (rest, none)
  let (rest, query) := match splitOnce '?' rest with
    | some (rest, query) => (rest, some query)
    | none => (rest, none)
  let url ← hierarchy scheme rest
  return { url with
    query := query.map fun cs =>
      String.ofList (percentEncode (encodedInQuery (isSpecial scheme)) cs)
    fragment := fragment.map fun cs => String.ofList (percentEncode encodedInFragment cs) }

/-- Replaces the path. Question marks and number signs are part of it here. -/
def withPath (url : Url) (path : String) : Url :=
  let cs := path.toList.filter (!isIgnored ·)
  { url with path := pathAfterHost url.scheme cs }

end CatalogFeeds.Url
