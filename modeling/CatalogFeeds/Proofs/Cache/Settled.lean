import CatalogFeeds.Proofs.Files.Confinement
/-!
Names that are safe already.

Making a name safe changes a name exactly if it is not safe yet. So it comes to rest after one
step, for a segment as for the path of a whole key.

* `safeStem_of_isSafePart` — a safe part stays as it is.
* `safeName_eq_self_iff`, `safeName_true_eq_self_iff` — the names that stay as they are.
* `safe_names_settle` — safe names made of safe names, and paths made of the names of a path.
-/

namespace CatalogFeeds

open CatalogFeeds.Text

namespace Segment

variable {cs : List Char} {name : String}

/-! ### Safe parts -/

/-- Squeezing leaves a text alone that has no two dashes next to each other. -/
theorem squeeze_of_spaced {dashed : Bool} (spaced : cs.IsChain fun c d => ¬ (c = '-' ∧ d = '-'))
    (start : dashed = true → cs.head? ≠ some '-') : squeeze dashed cs = cs := by
  induction cs generalizing dashed with
  | nil => rfl
  | cons c cs ih =>
    by_cases dash : c = '-'
    · subst dash
      have fresh : dashed = false := by simpa using start
      have next : cs.head? ≠ some '-' := fun second => by
        obtain ⟨rest, rfl⟩ := List.head?_eq_some_iff.mp second
        exact (List.isChain_cons_cons.mp spaced).1 ⟨rfl, rfl⟩
      rw [fresh, squeeze_false_cons, beq_self_eq_true, ih spaced.tail fun _ => next]
    · have keep : squeeze dashed (c :: cs) = c :: squeeze false cs := by simp [squeeze, dash]
      rw [keep, ih spaced.tail (by simp)]

theorem IsSafePart.ne_of_mem (safe : IsSafePart cs) {c d : Char} (mem : c ∈ cs)
    (letter : isAlphanumeric d = false) (dash : d ≠ '-') : c ≠ d := by
  rintro rfl
  rcases safe.safe c mem with own | own
  · simp [own] at letter
  · exact dash own

/-- A safe part stays as it is. -/
theorem safeStem_of_isSafePart (safe : IsSafePart cs) : safeStem cs = cs := by
  have visible : ∀ c ∈ cs, (c == ' ') = false := fun c mem =>
    beq_false_of_ne (safe.ne_of_mem mem (by decide) (by decide))
  have front : cs.head?.any (· == ' ') = false := by
    cases first : cs.head? with
    | none => rfl
    | some c => exact visible c (List.mem_of_head? first)
  have behind : cs.getLast?.any (· == ' ') = false := by
    cases last : cs.getLast? with
    | none => rfl
    | some c => exact visible c (List.mem_of_getLast? last)
  have stripped : stripWhile (· == ' ') cs = cs := by
    have same : cs.dropWhile (· == ' ') = cs := by
      cases cs with
      | nil => rfl
      | cons c cs => exact List.dropWhile_cons_of_neg (by simpa using front)
    rw [stripWhile, same, dropEndWhile_of_last behind]
  rw [safeStem_eq, stripped, marks_of_safe safe.safe, squeeze_of_spaced safe.spaced (by simp)]

theorem IsSafePart.inner (safe : IsSafePart cs) : cs.all isInner = true := by
  rw [List.all_eq_true]
  intro c mem
  have dot : c ≠ '.' := safe.ne_of_mem mem (by decide) (by decide)
  have slash : c ≠ '/' := safe.ne_of_mem mem (by decide) (by decide)
  simp [isInner, dot, slash]

/-! ### Safe names -/

/-- A safe part has no extension, so it stays as it is with and without one. -/
theorem sanitizeChars_of_isSafePart (safe : IsSafePart cs) (keepExtension : Bool) :
    sanitizeChars cs keepExtension = cs := by
  have cut : cutExtension cs = (cs, []) := by
    simpa using cutExtension_split [] safe.inner (by simp)
  have extension : extensionName cs = [] := by
    rw [extensionName, cut]
    rfl
  have stem : stemName cs = cs := by
    rw [stemName, cut, safeStem_of_isSafePart safe, if_neg (by simpa using safe.filled)]
  simp [sanitizeChars_eq, extension, stem]

/-- A safe part with a safe extension stays as it is. -/
theorem sanitizeChars_of_extension {stem extension : List Char} (safe : IsSafePart stem)
    (safe' : IsSafePart extension) :
    sanitizeChars (stem ++ '.' :: extension) true = stem ++ '.' :: extension := by
  have cut : cutExtension (stem ++ '.' :: extension) = (stem, '.' :: extension) :=
    cutExtension_dot safe'.inner
  have noDot : extension.dropWhile (· == '.') = extension := by
    cases extension with
    | nil => rfl
    | cons c rest =>
      have dot : c ≠ '.' := safe'.ne_of_mem List.mem_cons_self (by decide) (by decide)
      exact List.dropWhile_cons_of_neg (by simpa using dot)
  have own : extensionName (stem ++ '.' :: extension) = extension := by
    rw [extensionName, cut, List.dropWhile_cons_of_pos (by decide), noDot,
      safeStem_of_isSafePart safe']
  have front : stemName (stem ++ '.' :: extension) = stem := by
    rw [stemName, cut, safeStem_of_isSafePart safe, if_neg (by simpa using safe.filled)]
  simp [sanitizeChars_eq, own, front, safe'.filled]

open FilePath

/-- **Without extensions the safe parts stay as they are**, and no other names do. -/
theorem safeName_eq_self_iff : safeName name false = name ↔ IsSafePart name.toList := by
  constructor
  · intro same
    rw [← same]
    exact isSafePart_safeName name
  · intro safe
    rw [safeName, sanitizeChars_of_isSafePart safe, String.ofList_toList]

/-- **With extensions the safe names stay as they are**, and no other names do. -/
theorem safeName_true_eq_self_iff : safeName name true = name ↔ IsSafeName name := by
  constructor
  · intro same
    rw [← same]
    exact isSafeName_safeName name
  · rintro (safe | ⟨stem, extension, split, safe, safe'⟩)
    · rw [safeName, sanitizeChars_of_isSafePart safe, String.ofList_toList]
    · rw [safeName, split, sanitizeChars_of_extension safe safe', ← split, String.ofList_toList]

theorem safeName_safeName (segment : String) (keepExtension : Bool) :
    safeName (safeName segment keepExtension) keepExtension = safeName segment keepExtension := by
  cases keepExtension with
  | false => exact safeName_eq_self_iff.mpr (isSafePart_safeName segment)
  | true => exact safeName_true_eq_self_iff.mpr (isSafeName_safeName segment)

/-- An extension stands behind a dot, or there is none. -/
theorem safeName_true_cases (segment : String) :
    safeName segment true = safeName segment false ∨
      ∃ extension : String, IsSafePart extension.toList ∧
        safeName segment true = safeName segment false ++ "." ++ extension := by
  by_cases plain : extensionName segment.toList = []
  · exact .inl (by simp [safeName, sanitizeChars_eq, plain])
  · refine .inr ⟨String.ofList (extensionName segment.toList), ?_, ?_⟩
    · rw [String.toList_ofList]
      exact isSafePart_safeStem plain
    · rw [← String.toList_inj]
      simp [safeName, sanitizeChars_eq, plain]

/-! ### Keys -/

theorem safeNames_safeNames (segments : List String) :
    safeNames (safeNames segments) = safeNames segments := by
  rcases segments.eq_nil_or_concat' with rfl | ⟨front, last, rfl⟩
  · rfl
  · simp [safeNames_concat, safeName_safeName]

theorem isSafeName_of_mem_safeNames {segments : List String} (mem : name ∈ safeNames segments) :
    IsSafeName name := by
  rcases segments.eq_nil_or_concat' with rfl | ⟨front, last, rfl⟩
  · simp [safeNames] at mem
  · rw [safeNames_concat, List.mem_append] at mem
    rcases mem with inside | own
    · obtain ⟨segment, -, rfl⟩ := List.mem_map.mp inside
      exact .inl (isSafePart_safeName segment)
    · rw [List.mem_singleton.mp own]
      exact isSafeName_safeName last

end Segment

open Segment FilePath

/-- The names of a path behind those of its base directory. -/
def FilePath.namesBelow (base path : String) : List String :=
  (place path).drop (place base).length

/-- Below its base directory the path of a key has the safe names of the key. -/
theorem FilePath.namesBelow_joinAll (base : String) (segments : List String) :
    namesBelow base (joinAll base (safeNames segments)) = safeNames segments := by
  rw [namesBelow, place_joinAll fun _ => isSafeName_of_mem_safeNames, List.drop_left]

/-- **Safe names settle.** The safe name of a safe name is that name, and so the names of the path
of a key lead to the same path. An extension makes no difference to the name in front of it: it
is a safe part behind a dot, or there is none. -/
theorem safe_names_settle :
    (∀ (base : String) (segments : List String),
      joinAll base (safeNames (namesBelow base (joinAll base (safeNames segments)))) =
        joinAll base (safeNames segments)) ∧
    (∀ (segment : String) (keepExtension : Bool),
      safeName (safeName segment keepExtension) keepExtension = safeName segment keepExtension) ∧
    ∀ segment : String, safeName segment true = safeName segment false ∨
      ∃ extension : String, IsSafePart extension.toList ∧
        safeName segment true = safeName segment false ++ "." ++ extension := by
  refine ⟨fun base segments => ?_, safeName_safeName, safeName_true_cases⟩
  rw [namesBelow_joinAll, safeNames_safeNames]

end CatalogFeeds
