import CatalogFeeds.Toml.Scalar
import CatalogFeeds.Toml.Table
import CatalogFeeds.Toml.Text
/-!
Reading TOML.

`Toml.parse?` reads a whole document as a JSON object. A document is a sequence of lines: headers
of tables, headers that add to a list of tables, and keys with values, which belong to the table
of the last header. Arrays and inline tables may be nested at most 80 deep.
-/

namespace CatalogFeeds.Toml

/-- The deepest nesting of arrays and inline tables that is read. -/
def deepest : Nat := 80

/-! ### Values -/

/-- The inline table of keys with values. -/
def inlineTable? (settings : List (List String × Json)) : Option Json :=
  (settings.foldlM (fun entries (path, value) => Entries.setKey value path entries) []).map
    Entries.toJson

mutual

/-- Reads one value with the given bound on the steps and on the nesting. -/
def readValue : Nat → Nat → List Char → Option (Json × List Char)
  | 0, _, _ => none
  | fuel + 1, depth, cs =>
    match cs with
    | '"' :: rest => do
      let (text, rest) ← readString '"' rest
      return (.string text, rest)
    | '\'' :: rest => do
      let (text, rest) ← readString '\'' rest
      return (.string text, rest)
    | '[' :: rest =>
      match depth with
      | 0 => none
      | depth + 1 => do
        let (items, rest) ← readItems fuel depth rest
        return (.array items, rest)
    | '\x7b' :: rest =>
      match depth with
      | 0 => none
      | depth + 1 => do
        let (settings, rest) ← readSettings fuel depth rest
        return (← inlineTable? settings, rest)
    | _ => readScalar cs

/-- Reads the items of an array and its closing bracket. -/
def readItems : Nat → Nat → List Char → Option (List Json × List Char)
  | 0, _, _ => none
  | fuel + 1, depth, cs => do
    match ← skipLayout false cs with
    | ']' :: rest => return ([], rest)
    | cs =>
      let (item, rest) ← readValue fuel depth cs
      match ← skipLayout false rest with
      | ']' :: rest => return ([item], rest)
      | ',' :: rest =>
        let (items, rest) ← readItems fuel depth rest
        return (item :: items, rest)
      | _ => none

/-- Reads the keys and values of an inline table and its closing brace. -/
def readSettings : Nat → Nat → List Char → Option (List (List String × Json) × List Char)
  | 0, _, _ => none
  | fuel + 1, depth, cs => do
    match ← skipLayout false cs with
    | '\x7d' :: rest => return ([], rest)
    | cs =>
      let (path, rest) ← readKey cs
      match rest with
      | '=' :: rest =>
        let (value, rest) ← readValue fuel depth (skipGaps rest)
        match ← skipLayout false rest with
        | '\x7d' :: rest => return ([(path, value)], rest)
        | ',' :: rest =>
          let (settings, rest) ← readSettings fuel depth rest
          return ((path, value) :: settings, rest)
        | _ => none
      | _ => none

end

/-! ### Documents -/

/-- The tables read so far, and the path of the one that keys belong to. -/
structure Document where
  root : Entries := []
  here : List String := []

namespace Document

/-- Goes on with the table of a header. -/
def enterTable (document : Document) (path : List String) : Option Document := do
  let key ← path.getLast?
  let root ← Entries.within (Entries.addTable key) path.dropLast document.root
  return ⟨root, path⟩

/-- Goes on with a new table in a list of tables. -/
def enterElement (document : Document) (path : List String) : Option Document := do
  let key ← path.getLast?
  let root ← Entries.within (Entries.addElement key) path.dropLast document.root
  return ⟨root, path⟩

/-- Sets a key of the present table. -/
def set (document : Document) (path : List String) (value : Json) : Option Document := do
  let root ← Entries.within (Entries.setKey value path) document.here document.root
  return { document with root }

end Document

/-- Reads one line. -/
def readLine (document : Document) (cs : List Char) : Option (Document × List Char) :=
  match cs with
  | '[' :: '[' :: rest => do
    let (path, rest) ← readKey rest
    match rest with
    | ']' :: ']' :: rest => return (← document.enterElement path, rest)
    | _ => none
  | '[' :: rest => do
    let (path, rest) ← readKey rest
    match rest with
    | ']' :: rest => return (← document.enterTable path, rest)
    | _ => none
  | _ => do
    let (path, rest) ← readKey cs
    match rest with
    | '=' :: rest =>
      let rest := skipGaps rest
      let (value, rest) ← readValue (2 * rest.length + 2) deepest rest
      return (← document.set path value, rest)
    | _ => none

/-- Reads lines within a number of steps. -/
def readLines : Nat → Document → List Char → Option Document
  | 0, _, _ => none
  | fuel + 1, document, cs =>
    if cs.isEmpty then some document
    else do
      let (document, rest) ← readLine document cs
      readLines fuel document (← endLine rest)

/-- The text without the mark of the byte order at its start. -/
def dropByteOrderMark : List Char → List Char
  | '\uFEFF' :: rest => rest
  | cs => cs

/-- Reads a document as an object. Each line has at least one character, which bounds the number
of steps. -/
def parse? (text : String) : Option Json := do
  let cs ← skipLayout false (dropByteOrderMark text.toList)
  let document ← readLines (cs.length + 1) {} cs
  return document.root.toJson

end CatalogFeeds.Toml
