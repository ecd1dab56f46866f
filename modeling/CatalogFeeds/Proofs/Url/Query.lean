import CatalogFeeds.Proofs.Text.Percent
import CatalogFeeds.Proofs.Text.Utf8
import CatalogFeeds.Url.Query
/-!
Reading back the pairs of a form.

Writing a name or a value leaves no ampersand and no equals sign in it, so pairs that are written
behind a form neither run into its own pairs nor into each other.

* `formDecode_formChars` — a text is read back from its written form.
* `formPairs_appendPairs` — behind the pairs of a form stand those that were added.
-/

namespace CatalogFeeds.Text

variable {cs : List Char}

/-! ### Names and values -/

/-- A form with spaces in the place of plus signs. -/
def spaced (cs : List Char) : List Char :=
  cs.map fun c => if c == '+' then ' ' else c

theorem formDecode_eq (cs : List Char) :
    formDecode cs = String.ofList (decodeLossy (percentDecode (spaced cs))) :=
  rfl

@[simp] theorem spaced_append (cs ds : List Char) : spaced (cs ++ ds) = spaced cs ++ spaced ds :=
  List.map_append

theorem spaced_of_notMem (none : '+' ∉ cs) : spaced cs = cs := by
  have kept : ∀ c ∈ cs, (if c == '+' then ' ' else c) = c := by
    intro c mem
    have other : c ≠ '+' := fun plus => none (plus ▸ mem)
    simp [other]
  rw [spaced, List.map_congr_left kept, List.map_id']

/-- What is left in the written form of a text. -/
theorem mem_formChars {d : Char} (h : d ∈ formChars cs) :
    isFormSafe d = true ∨ d = '+' ∨ d = '%' := by
  obtain ⟨c, -, mem⟩ := List.mem_flatMap.mp h
  unfold formChar at mem
  split at mem
  · exact .inr (.inl (List.mem_singleton.mp mem))
  · split at mem
    · rename_i safe
      exact .inl (List.mem_singleton.mp mem ▸ safe)
    · rcases mem_percentChar mem with sign | letter
      · exact .inr (.inr sign)
      · exact .inl (by simp [isFormSafe, letter])

theorem notMem_formChars {d : Char} (foreign : isFormSafe d = false) (plus : d ≠ '+')
    (sign : d ≠ '%') : d ∉ formChars cs := fun mem => by
  rcases mem_formChars mem with safe | same | same
  · simp [foreign] at safe
  · exact plus same
  · exact sign same

/-- A character is written so that it is read as its bytes. -/
theorem percentDecode_formChar (c : Char) (rest : List Char) :
    percentDecode (spaced (formChar c) ++ rest) = utf8Bytes c ++ percentDecode rest := by
  unfold formChar
  split
  · rename_i space
    rw [beq_iff_eq.mp space]
    exact percentDecode_cons (by decide) rest
  · split
    · rename_i safe
      have own : spaced [c] = [c] := spaced_of_notMem fun mem => by
        rw [← List.mem_singleton.mp mem] at safe
        exact absurd safe (by decide)
      have plain : c ≠ '%' := by
        rintro rfl
        exact absurd safe (by decide)
      rw [own]
      exact percentDecode_cons plain rest
    · have none : '+' ∉ percentChar c := fun mem => by
        rcases mem_percentChar mem with same | letter
        · exact absurd same (by decide)
        · exact absurd letter (by decide)
      rw [spaced_of_notMem none, percentDecode_percentChar]

theorem percentDecode_formChars (cs : List Char) :
    percentDecode (spaced (formChars cs)) = utf8 cs := by
  induction cs with
  | nil => rfl
  | cons c cs ih =>
    rw [formChars, List.flatMap_cons, spaced_append, percentDecode_formChar, ← formChars, ih]
    rfl

/-- **A text is read back** from its written form. -/
theorem formDecode_formChars (cs : List Char) : formDecode (formChars cs) = String.ofList cs := by
  rw [formDecode_eq, percentDecode_formChars, decodeLossy_utf8]

/-! ### Pairs -/

/-- The written form of a pair. -/
def pairChars (pair : String × String) : List Char :=
  formChars pair.1.toList ++ '=' :: formChars pair.2.toList

theorem formPair_pairChars (pair : String × String) : formPair (pairChars pair) = pair := by
  have none : '=' ∉ formChars pair.1.toList :=
    notMem_formChars (by decide) (by decide) (by decide)
  simp [formPair, pairChars, splitOnce_append none, formDecode_formChars]

theorem splitAll_pairChars (pair : String × String) :
    splitAll '&' (pairChars pair) = [pairChars pair] := by
  have none (cs : List Char) : '&' ∉ formChars cs :=
    notMem_formChars (by decide) (by decide) (by decide)
  exact splitAll_of_notMem (by simp [pairChars, none])

theorem toList_appendPair (form : String) (pair : String × String) :
    (appendPair form pair).toList =
      form.toList ++ (if form.isEmpty then [] else ['&']) ++ pairChars pair := by
  simp only [appendPair, formEncode, pairChars, String.toList_append, String.toList_ofList]
  split <;> simp

/-- A pair that is written behind a form stands behind its pairs, and changes none of them. -/
theorem formPairs_appendPair (form : String) (pair : String × String) :
    formPairs (appendPair form pair) = formPairs form ++ [pair] := by
  have filled : (pairChars pair).isEmpty = false := by simp [pairChars]
  have own : formPair (pairChars pair) = pair := formPair_pairChars pair
  rw [formPairs, toList_appendPair]
  by_cases empty : form = ""
  · simp [empty, formPairs, splitAll_pairChars, splitAll, filled, own]
  · have sign : form.isEmpty = false := by simpa using empty
    simp [sign, formPairs, splitAll_append, splitAll_pairChars, filled, own]

/-- **Pairs that are written behind a form** stand behind its own. -/
theorem formPairs_appendPairs (form : String) (pairs : List (String × String)) :
    formPairs (appendPairs form pairs) = formPairs form ++ pairs := by
  rw [appendPairs]
  induction pairs generalizing form with
  | nil => simp
  | cons pair pairs ih => rw [List.foldl_cons, ih, formPairs_appendPair, List.append_assoc]; rfl

/-- Behind a form, the pairs that are added bring in no foreign sign. -/
theorem notMem_appendPairs {d : Char} (foreign : isFormSafe d = false)
    (others : d ∉ ['+', '%', '&', '=']) {form : String} (none : d ∉ form.toList)
    (pairs : List (String × String)) : d ∉ (appendPairs form pairs).toList := by
  simp only [List.mem_cons, List.not_mem_nil, or_false, not_or] at others
  obtain ⟨plus, sign, ampersand, equals⟩ := others
  have absent (cs : List Char) : d ∉ formChars cs := notMem_formChars foreign plus sign
  rw [appendPairs]
  induction pairs generalizing form with
  | nil => exact none
  | cons pair pairs ih =>
    refine ih ?_
    rw [toList_appendPair]
    split <;> simp [pairChars, absent, none, ampersand, equals]

end CatalogFeeds.Text

namespace CatalogFeeds.Url

open CatalogFeeds.Text

theorem formPairs_empty : formPairs "" = [] :=
  rfl

@[simp] theorem queryPairs_addPairs (url : Url) (pairs : List (String × String)) :
    (url.addPairs pairs).queryPairs = url.queryPairs ++ pairs :=
  formPairs_appendPairs _ pairs

@[simp] theorem queryPairs_withPairs (url : Url) (pairs : List (String × String)) :
    (url.withPairs pairs).queryPairs = pairs :=
  formPairs_appendPairs "" pairs

end CatalogFeeds.Url
