/-!
Entries in the order of their keys.

A list of entries stands for a map. Every function here that builds one keeps the keys distinct
and in the order of their code points, and looking a key up takes the first entry that has it.
-/

namespace CatalogFeeds.Members

variable {α : Type}

/-- The value of the first entry with the given key. -/
def get? (key : String) : List (String × α) → Option α
  | [] => none
  | (k, v) :: rest => if k == key then some v else get? key rest

/-- Sets a key; a value already there is replaced. -/
def insert (key : String) (value : α) : List (String × α) → List (String × α)
  | [] => [(key, value)]
  | (k, v) :: rest =>
    if k == key then (key, value) :: rest
    else if key < k then (key, value) :: (k, v) :: rest
    else (k, v) :: insert key value rest

/-- Sets keys one after the other. -/
def insertAll (entries members : List (String × α)) : List (String × α) :=
  entries.foldl (fun members (key, value) => insert key value members) members

/-- The entries of a list, of which a later one replaces an earlier one. -/
def ofList (entries : List (String × α)) : List (String × α) :=
  insertAll entries []

end CatalogFeeds.Members
