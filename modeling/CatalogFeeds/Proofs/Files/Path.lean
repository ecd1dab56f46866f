import CatalogFeeds.Files.Path
import CatalogFeeds.Proofs.Text.Split
/-!
Where joined paths lead.

* `place_join` — the names of a joined path are those of its parts, one behind the other.
* `place_of_name` — a text without slashes is one name, unless it is empty or a single dot.
-/

namespace CatalogFeeds

open CatalogFeeds.Text

namespace FilePath

variable {path name : String}

/-- Whether a part of a path is a name. -/
def isName (name : String) : Bool :=
  !name.isEmpty && name != "."

theorem place_eq (path : String) :
    place path = ((splitAll '/' path.toList).map String.ofList).filter isName :=
  rfl

theorem endsWith_slash_iff : path.endsWith "/" = true ↔ ∃ front, path.toList = front ++ ['/'] := by
  rw [← String.endsWith_toSlice, String.Slice.endsWith_string_iff]
  simp only [String.copy_toSlice]
  constructor
  · rintro ⟨front, ends⟩
    exact ⟨front, ends.symm⟩
  · rintro ⟨front, ends⟩
    exact ⟨front, ends.symm⟩

/-- **Where a joined path leads.** -/
theorem place_join (path name : String) : place (join path name) = place path ++ place name := by
  by_cases empty : path = ""
  · rw [join, empty]
    simp [place_eq, splitAll, isName]
  by_cases ends : path.endsWith "/" = true
  · obtain ⟨front, split⟩ := endsWith_slash_iff.mp ends
    have slashed : splitAll '/' (front ++ ['/']) = splitAll '/' front ++ [[]] :=
      splitAll_append front []
    simp [join, ends, place_eq, split, splitAll_append, slashed, isName]
  · have slash : "/".toList = ['/'] := rfl
    simp [join, empty, ends, place_eq, slash, splitAll_append]

theorem place_of_name (noSlash : '/' ∉ name.toList) (named : isName name = true) :
    place name = [name] := by
  simp [place_eq, splitAll_of_notMem noSlash, named]

end FilePath

end CatalogFeeds
