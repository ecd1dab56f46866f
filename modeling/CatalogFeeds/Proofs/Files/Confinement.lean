import CatalogFeeds.Cache.Store
import CatalogFeeds.Proofs.Feed.Names
import Mathlib.Data.List.Chain
/-!
Where names made of foreign texts lead.

Keys and titles may hold anything, separators and dots included. The names made of them hold
letters, digits and single dashes, and at most one dot, which has something on both sides. So
they are names of their own in any directory and lead neither out of it nor deeper into it.

* `squeeze_spaced`, `isSafePart_stemName` — what a safe part is made of.
* `IsSafeName.place_join` — a safe name behind a path is one more name, and `place_joinAll` says
  the same of several.
* `paths_confined` — keys have as many names below the base directory as they have segments, and
  feeds have one below theirs.
-/

namespace CatalogFeeds

open CatalogFeeds.Text

/-! ### Safe parts -/

namespace Segment

/-- A safe part of a name: it is not empty, and has letters, digits and dashes only, of which no
two dashes are next to each other. -/
structure IsSafePart (cs : List Char) : Prop where
  filled : cs ≠ []
  safe : ∀ c ∈ cs, isAlphanumeric c = true ∨ c = '-'
  spaced : cs.IsChain fun c d => ¬ (c = '-' ∧ d = '-')

/-- After squeezing no two dashes are next to each other, nor does a dash follow on one before. -/
theorem squeeze_spaced (dashed : Bool) (cs : List Char) :
    (squeeze dashed cs).IsChain (fun c d => ¬ (c = '-' ∧ d = '-')) ∧
      (dashed = true → (squeeze dashed cs).head? ≠ some '-') := by
  induction cs generalizing dashed with
  | nil => exact ⟨.nil, fun _ => by simp [squeeze]⟩
  | cons c cs ih =>
    by_cases dash : c = '-'
    · obtain ⟨spaced, start⟩ := ih true
      cases dashed with
      | true =>
        have skip : squeeze true (c :: cs) = squeeze true cs := by simp [squeeze, dash]
        rw [skip]
        exact ⟨spaced, start⟩
      | false =>
        have keep : squeeze false (c :: cs) = '-' :: squeeze true cs := by simp [squeeze, dash]
        rw [keep]
        refine ⟨spaced.cons fun d next both => ?_, by simp⟩
        rw [both.2] at next
        exact start rfl next
    · have keep : squeeze dashed (c :: cs) = c :: squeeze false cs := by simp [squeeze, dash]
      rw [keep]
      refine ⟨(ih false).1.cons fun d _ both => dash both.1, fun _ first => ?_⟩
      exact dash (Option.some.inj first)

theorem isSafePart_safeStem {cs : List Char} (filled : safeStem cs ≠ []) :
    IsSafePart (safeStem cs) :=
  ⟨filled, fun _ => mem_safeStem, (squeeze_spaced false _).1⟩

theorem isSafePart_stemName (cs : List Char) : IsSafePart (stemName cs) := by
  unfold stemName
  split
  · exact ⟨by simp, by simp, .singleton '-'⟩
  · rename_i filled
    exact isSafePart_safeStem (by simpa using filled)

end Segment

/-! ### Safe names -/

namespace FilePath

open Segment

/-- A safe name: a safe part, perhaps with a dot and another safe part behind it. -/
def IsSafeName (name : String) : Prop :=
  IsSafePart name.toList ∨
    ∃ stem extension, name.toList = stem ++ '.' :: extension ∧
      IsSafePart stem ∧ IsSafePart extension

theorem isSafePart_safeName (segment : String) : IsSafePart (safeName segment false).toList := by
  rw [safeName_false, String.toList_ofList]
  exact isSafePart_stemName segment.toList

theorem isSafeName_safeName (segment : String) : IsSafeName (safeName segment true) := by
  simp only [IsSafeName, safeName, String.toList_ofList, sanitizeChars_eq, Bool.true_and]
  by_cases extended : extensionName segment.toList = []
  · simp only [extended, List.isEmpty_nil, Bool.not_true, Bool.false_eq_true, if_false]
    exact .inl (isSafePart_stemName _)
  · simp only [List.isEmpty_eq_false_iff.mpr extended, Bool.not_false, if_true]
    exact .inr ⟨_, _, rfl, isSafePart_stemName _, isSafePart_safeStem extended⟩

theorem slash_notMem_of_safe {cs : List Char} (h : IsSafePart cs) : '/' ∉ cs := fun mem => by
  rcases h.safe '/' mem with letter | dash
  · exact absurd letter (by decide)
  · exact absurd dash (by decide)

/-- A safe name is one name. -/
theorem IsSafeName.place {name : String} (h : IsSafeName name) : place name = [name] := by
  have noSlash : '/' ∉ name.toList := by
    rcases h with part | ⟨stem, extension, split, stemSafe, extensionSafe⟩
    · exact slash_notMem_of_safe part
    · rw [split]
      simp [slash_notMem_of_safe stemSafe, slash_notMem_of_safe extensionSafe]
  have dotless : name.toList ≠ ".".toList := by
    intro dot
    have dot : name.toList = ['.'] := dot
    rcases h with part | ⟨stem, extension, split, stemSafe, extensionSafe⟩
    · have own := part.safe '.' (by simp [dot])
      exact ne_dot own rfl
    · have long := congrArg List.length (split.symm.trans dot)
      have stemLong := List.length_pos_iff.mpr stemSafe.filled
      simp at long
      omega
  have filled : name ≠ "" := by
    rintro rfl
    rcases h with part | ⟨stem, extension, split, -⟩
    · exact part.filled rfl
    · simp at split
  refine place_of_name noSlash ?_
  have ne : name ≠ "." := fun same => dotless (congrArg _ same)
  simp [isName, filled, ne]

theorem IsSafeName.place_join {name : String} (h : IsSafeName name) (path : String) :
    FilePath.place (join path name) = FilePath.place path ++ [name] := by
  rw [FilePath.place_join, h.place]

/-- Safe names behind a path are as many names behind its own. -/
theorem place_joinAll {names : List String} (safe : ∀ name ∈ names, IsSafeName name)
    (path : String) : place (joinAll path names) = place path ++ names := by
  induction names generalizing path with
  | nil => simp [joinAll]
  | cons name names ih =>
    have first := (safe name List.mem_cons_self).place_join path
    have later := ih (fun other mem => safe other (List.mem_cons_of_mem name mem)) (join path name)
    rw [first] at later
    simpa [joinAll] using later

end FilePath

/-! ### Keys and titles -/

/-- Each segment of a key gives one name, and only the last one may have an extension. -/
theorem Segment.safeNames_concat (segments : List String) (last : String) :
    safeNames (segments ++ [last]) =
      segments.map (safeName · false) ++ [safeName last true] := by
  induction segments with
  | nil => rfl
  | cons segment rest ih =>
    obtain ⟨next, more, split⟩ := List.exists_cons_of_ne_nil
      (show rest ++ [last] ≠ [] by simp)
    rw [List.cons_append, split, safeNames, ← split, ih, List.map_cons, List.cons_append]
    simp

open Segment FilePath

/-- **Paths are confined.** The path of a key is the base directory of the cache with one name for
each segment behind it: safe parts, of which the last may have a safe extension. The path of a feed
is its directory with one name behind it, which has letters, digits and dashes in front of its
extension, at least one of them. -/
theorem paths_confined :
    (∀ (cache : PayloadStore) (key : List String), key ≠ [] →
      ∃ directories last,
        PayloadStore.fileNames key = .ok (directories ++ [last]) ∧
        (directories ++ [last]).length = key.length ∧
        (∀ name ∈ directories, IsSafePart name.toList) ∧ IsSafeName last ∧
        place (cache.filePath (directories ++ [last])) =
          place cache.base ++ (directories ++ [last])) ∧
    ∀ (folder : FeedFolder) (channel : Channel) (taken : List String),
      ∃ stem : List Char, stem ≠ [] ∧ (∀ c ∈ stem, isAlphanumeric c = true ∨ c = '-') ∧
        folder.filePathFor channel taken =
          join folder.directory (String.ofList stem ++ ".xml") ∧
        place (folder.filePathFor channel taken) =
          place folder.directory ++ [String.ofList stem ++ ".xml"] := by
  constructor
  · intro cache key filled
    obtain ⟨front, last, rfl⟩ := (List.eq_nil_or_concat' key).resolve_left filled
    have directories : ∀ name ∈ front.map (safeName · false), IsSafePart name.toList := by
      intro name mem
      obtain ⟨segment, -, rfl⟩ := List.mem_map.mp mem
      exact isSafePart_safeName segment
    refine ⟨front.map (safeName · false), safeName last true, ?_, by simp, directories,
      isSafeName_safeName last, ?_⟩
    · simp [PayloadStore.fileNames, safeNames_concat]
    · refine place_joinAll (fun name mem => ?_) cache.base
      rcases List.mem_append.mp mem with inside | own
      · exact .inl (directories name inside)
      · rw [List.mem_singleton.mp own]
        exact isSafeName_safeName last
  · intro folder channel taken
    obtain ⟨stem, filled, safe, path⟩ := folder.filePathFor_eq_join channel taken
    obtain ⟨name, path', places⟩ := folder.place_filePathFor channel taken
    obtain rfl := join_inj.mp (path'.symm.trans path)
    exact ⟨stem, filled, safe, path, places⟩

/-- A key of dots and slashes stays below the base directory. -/
theorem paths_confined_dots :
    let cache : PayloadStore := ⟨"/var/cache", ["var", "cache"]⟩
    let key := ["..", "../etc/pass wd.tar.gz"]
    key ≠ [] ∧ safeNames key = ["-", "-etc-pass-wd-tar.gz"] ∧
      ∃ directories last, PayloadStore.fileNames key = .ok (directories ++ [last]) ∧
        (directories ++ [last]).length = key.length ∧
        (∀ name ∈ directories, IsSafePart name.toList) ∧ IsSafeName last ∧
        place (cache.filePath (directories ++ [last])) =
          place cache.base ++ (directories ++ [last]) := by
  intro cache key
  have filled : key ≠ [] := by decide
  exact ⟨filled, by decide +kernel, paths_confined.1 cache key filled⟩

end CatalogFeeds
