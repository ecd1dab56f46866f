import CatalogFeeds.Json.Basic
/-!
Tables of TOML while they are being read.

A table comes about in one of three ways: by a header of its own, by dotted keys, or because a
longer header or key passes through it. That decides what may still be added: no key is set
twice, a header is given once, and dotted keys only add to tables that dotted keys have made.
-/

namespace CatalogFeeds.Toml

/-- How a table has come about. -/
inductive TableOrigin where
  | header
  | dotted
  | passed
  deriving DecidableEq, Repr

/-- What a key stands for: a value, a table, or a list of tables of which the latest is first. -/
inductive Node where
  | value (value : Json)
  | table (origin : TableOrigin) (entries : List (String × Node))
  | tables (elements : List (List (String × Node)))

/-- The entries of a table, in the order of their keys. -/
abbrev Entries := List (String × Node)

namespace Entries

/-- Changes the table that a path of keys leads to. Tables that are missing on the way are made,
and a list of tables stands for its latest one. -/
def within (change : Entries → Option Entries) : List String → Entries → Option Entries
  | [], entries => change entries
  | key :: path, entries => do
    let node ← match Members.get? key entries with
      | none => (within change path []).map (Node.table .passed)
      | some (.table origin inner) => (within change path inner).map (Node.table origin)
      | some (.tables (latest :: earlier)) =>
        (within change path latest).map fun latest => .tables (latest :: earlier)
      | some _ => none
    return Members.insert key node entries

/-- Gives a table its header. -/
def addTable (key : String) (entries : Entries) : Option Entries :=
  match Members.get? key entries with
  | none => some (Members.insert key (.table .header []) entries)
  | some (.table .passed inner) => some (Members.insert key (.table .header inner) entries)
  | some _ => none

/-- Adds an empty table to a list of tables. -/
def addElement (key : String) (entries : Entries) : Option Entries :=
  match Members.get? key entries with
  | none => some (Members.insert key (.tables [[]]) entries)
  | some (.tables elements) => some (Members.insert key (.tables ([] :: elements)) entries)
  | some _ => none

/-- Sets a dotted key. -/
def setKey (value : Json) : List String → Entries → Option Entries
  | [], _ => none
  | [key], entries =>
    if (Members.get? key entries).isSome then none
    else some (Members.insert key (.value value) entries)
  | key :: next :: path, entries => do
    let node ← match Members.get? key entries with
      | none => (setKey value (next :: path) []).map (Node.table .dotted)
      | some (.table .dotted inner) =>
        (setKey value (next :: path) inner).map (Node.table .dotted)
      | some (.table .passed inner) =>
        if path.isEmpty then none
        else (setKey value (next :: path) inner).map (Node.table .passed)
      | some _ => none
    return Members.insert key node entries

end Entries

mutual

/-- What a key stands for, as JSON. -/
def Node.toJson : Node → Json
  | .value value => value
  | .table _ entries => .object (membersOf entries)
  | .tables elements => .array (elementsOf elements).reverse

/-- The members of a table. -/
def membersOf : List (String × Node) → List (String × Json)
  | [] => []
  | (key, node) :: rest => (key, node.toJson) :: membersOf rest

/-- The tables of a list as objects, in the same order. -/
def elementsOf : List (List (String × Node)) → List Json
  | [] => []
  | element :: rest => .object (membersOf element) :: elementsOf rest

end

/-- A table as an object. -/
def Entries.toJson (entries : Entries) : Json :=
  .object (membersOf entries)

end CatalogFeeds.Toml
