import CatalogFeeds.Cache.Store
import CatalogFeeds.Proofs.Text.Split
/-!
What a safe name keeps of a segment.

A safe name has two parts, a stem and perhaps an extension behind a dot. Neither has a dot of its
own, so the name tells its parts.

* `sanitizeChars_true_inj` — two segments have the same safe name exactly if their parts agree.
* `stemName_value` — behind a name and an equals sign the characters of a segment leave their
  marks one by one: letters and digits stay, and a run of separators leaves one dash.
* `parts_of_plain` — a segment of letters, digits and single dashes is kept as it is.
-/

namespace CatalogFeeds.Segment

open CatalogFeeds.Text

/-! ### Characters of safe names -/

/-- What the characters of a text leave in a safe name, before runs of dashes are squeezed. -/
def marks (cs : List Char) : List Char :=
  (cs.flatMap plain).filterMap safe?

theorem safeStem_eq (cs : List Char) :
    safeStem cs = squeeze false (marks (stripWhile (· == ' ') cs)) :=
  rfl

@[simp] theorem marks_append (cs ds : List Char) : marks (cs ++ ds) = marks cs ++ marks ds := by
  simp [marks]

theorem mem_squeeze {dashed : Bool} {c : Char} {cs : List Char} (h : c ∈ squeeze dashed cs) :
    c ∈ cs := by
  induction cs generalizing dashed with
  | nil => exact h
  | cons d cs ih =>
    by_cases dash : d = '-'
    · cases dashed with
      | true => exact List.mem_cons_of_mem _ (ih (by simpa [squeeze, dash] using h))
      | false =>
        rcases List.mem_cons.mp (show c ∈ '-' :: squeeze true cs by simpa [squeeze, dash] using h)
          with rfl | later
        · simp [dash]
        · exact List.mem_cons_of_mem _ (ih later)
    · rcases List.mem_cons.mp (show c ∈ d :: squeeze false cs by simpa [squeeze, dash] using h)
        with rfl | later
      · exact List.mem_cons_self
      · exact List.mem_cons_of_mem _ (ih later)

theorem safe?_eq_some {c d : Char} (h : safe? c = some d) : isAlphanumeric d = true ∨ d = '-' := by
  unfold safe? at h
  split at h
  · exact .inr (Option.some.inj h).symm
  · split at h
    · rename_i kept
      exact .inl (Option.some.inj h ▸ kept)
    · simp at h

theorem mem_marks {c : Char} {cs : List Char} (h : c ∈ marks cs) :
    isAlphanumeric c = true ∨ c = '-' := by
  obtain ⟨d, -, safe⟩ := List.mem_filterMap.mp h
  exact safe?_eq_some safe

/-- A safe stem has letters, digits and dashes only. -/
theorem mem_safeStem {c : Char} {cs : List Char} (h : c ∈ safeStem cs) :
    isAlphanumeric c = true ∨ c = '-' :=
  mem_marks (mem_squeeze h)

theorem ne_dot {c : Char} (safe : isAlphanumeric c = true ∨ c = '-') : c ≠ '.' := by
  rintro rfl
  rcases safe with letter | dash
  · exact absurd letter (by decide)
  · exact absurd dash (by decide)

theorem dot_notMem_safeStem (cs : List Char) : '.' ∉ safeStem cs :=
  fun mem => ne_dot (mem_safeStem mem) rfl

/-! ### The parts of a safe name -/

/-- The stem of the safe name of a segment. -/
def stemName (cs : List Char) : List Char :=
  if (safeStem (cutExtension cs).1).isEmpty then ['-'] else safeStem (cutExtension cs).1

/-- The extension of the safe name of a segment, without its dot. -/
def extensionName (cs : List Char) : List Char :=
  safeStem ((cutExtension cs).2.dropWhile (· == '.'))

theorem sanitizeChars_eq (cs : List Char) (keepExtension : Bool) :
    sanitizeChars cs keepExtension =
      if keepExtension && !(extensionName cs).isEmpty then stemName cs ++ '.' :: extensionName cs
      else stemName cs :=
  rfl

theorem dot_notMem_stemName (cs : List Char) : '.' ∉ stemName cs := by
  unfold stemName
  split
  · simp
  · exact dot_notMem_safeStem _

/-- **The safe name tells its parts.** -/
theorem sanitizeChars_true_inj (cs ds : List Char) :
    sanitizeChars cs true = sanitizeChars ds true ↔
      stemName cs = stemName ds ∧ extensionName cs = extensionName ds := by
  have noDot := dot_notMem_stemName cs
  have noDot' := dot_notMem_stemName ds
  have noDotBehind : '.' ∉ extensionName cs := dot_notMem_safeStem _
  constructor
  · intro same
    simp only [sanitizeChars_eq, Bool.true_and, Bool.not_eq_true', List.isEmpty_eq_false_iff] at same
    by_cases extended : extensionName cs = []
    · by_cases extended' : extensionName ds = []
      · simp only [extended, extended', ne_eq, not_true_eq_false, if_false] at same
        exact ⟨same, extended.trans extended'.symm⟩
      · simp only [extended, extended', ne_eq, not_true_eq_false, not_false_eq_true, if_false,
          if_true] at same
        exact absurd (same ▸ List.mem_append_right _ List.mem_cons_self) noDot
    · by_cases extended' : extensionName ds = []
      · simp only [extended, extended', ne_eq, not_true_eq_false, not_false_eq_true, if_false,
          if_true] at same
        exact absurd (same ▸ List.mem_append_right _ List.mem_cons_self) noDot'
      · simp only [extended, extended', ne_eq, not_false_eq_true, if_true] at same
        obtain ⟨stem, -, extension⟩ := (List.append_cons_inj_of_notMem noDot noDotBehind).mp same
        exact ⟨stem, extension⟩
  · rintro ⟨stem, extension⟩
    simp only [sanitizeChars_eq, stem, extension]

/-! ### Cutting the extension off -/

/-- Whether a character neither begins an extension nor ends a part of a path. -/
def isInner (c : Char) : Bool :=
  c != '.' && c != '/'

theorem takeWhile_isInner {front tail : List Char} (inner : tail.all isInner = true)
    (stop : ∀ c, front.getLast? = some c → isInner c = false) :
    ((front ++ tail).reverse.takeWhile isInner).reverse = tail := by
  rw [List.reverse_append, List.takeWhile_append_of_pos fun c mem =>
    List.all_eq_true.mp inner c (List.mem_reverse.mp mem)]
  have none : front.reverse.takeWhile isInner = [] := by
    cases reversed : front.reverse with
    | nil => rfl
    | cons c rest =>
      have last : front.getLast? = some c := by
        rw [← List.head?_reverse, reversed]
        rfl
      simp [stop c last]
  simp [none]

/-- Where the inner characters at the end begin decides how a text is cut. -/
theorem cutExtension_split (front : List Char) {tail : List Char} (inner : tail.all isInner = true)
    (stop : ∀ c, front.getLast? = some c → isInner c = false) :
    cutExtension (front ++ tail) =
      if front.getLast? = some '.' then (front.dropLast, '.' :: tail) else (front ++ tail, []) := by
  have cut : ((front ++ tail).reverse.takeWhile fun c => c != '.' && c != '/').reverse = tail :=
    takeWhile_isInner inner stop
  simp only [cutExtension, cut, List.length_append, Nat.add_sub_cancel, List.take_left', beq_iff_eq]

/-- Every text is split somewhere. -/
theorem exists_split (cs : List Char) :
    ∃ front tail, cs = front ++ tail ∧ tail.all isInner = true ∧
      ∀ c, front.getLast? = some c → isInner c = false := by
  refine ⟨dropEndWhile isInner cs, (cs.reverse.takeWhile isInner).reverse, ?_, ?_, ?_⟩
  · rw [dropEndWhile, ← List.reverse_append, List.takeWhile_append_dropWhile, List.reverse_reverse]
  · rw [List.all_reverse, List.all_takeWhile]
  · intro c last
    rw [dropEndWhile, List.getLast?_reverse] at last
    have first := List.head?_dropWhile_not isInner cs.reverse
    rw [last] at first
    exact first

theorem cutExtension_dot {front tail : List Char} (inner : tail.all isInner = true) :
    cutExtension (front ++ '.' :: tail) = (front, '.' :: tail) := by
  have split := cutExtension_split (front ++ ['.']) inner (by simp [isInner])
  simpa using split

/-- Inner characters in front change nothing about where a text is cut. -/
theorem cutExtension_append {start : List Char} (inner : start.all isInner = true)
    (cs : List Char) :
    cutExtension (start ++ cs) = (start ++ (cutExtension cs).1, (cutExtension cs).2) := by
  obtain ⟨front, tail, rfl, innerTail, stop⟩ := exists_split cs
  rw [cutExtension_split front innerTail stop]
  rcases front.eq_nil_or_concat' with rfl | ⟨front, c, rfl⟩
  · have all : (start ++ tail).all isInner = true := by
      rw [List.all_append, inner, innerTail]
      decide
    have split := cutExtension_split [] all (by simp)
    simpa using split
  · have split := cutExtension_split (start ++ (front ++ [c])) innerTail
      (by simpa using stop)
    rw [← List.append_assoc, split]
    by_cases dot : c = '.' <;> simp [dot]

/-! ### Segments that begin with a name and a value -/

theorem squeeze_false_cons (c : Char) (cs : List Char) :
    squeeze false (c :: cs) = c :: squeeze (c == '-') cs := by
  by_cases dash : c = '-'
  · simp [squeeze, dash]
  · have other : (c == '-') = false := by simpa using dash
    simp [squeeze, other]

/-- Behind a dash squeezing starts over. -/
theorem squeeze_append_dash (dashed : Bool) (cs ds : List Char) :
    squeeze dashed (cs ++ '-' :: ds) = squeeze dashed (cs ++ ['-']) ++ squeeze true ds := by
  induction cs generalizing dashed with
  | nil => cases dashed <;> simp [squeeze]
  | cons c cs ih =>
    by_cases dash : c = '-'
    · cases dashed <;> simp [squeeze, dash, ih]
    · simp [squeeze, dash, ih]

variable {name cs : List Char}

/-- A name and an equals sign in front change nothing about where a text is cut. -/
theorem cutExtension_value (inner : name.all isInner = true) (cs : List Char) :
    cutExtension (name ++ '=' :: cs) =
      (name ++ '=' :: (cutExtension cs).1, (cutExtension cs).2) := by
  have innerStart : (name ++ ['=']).all isInner = true := by
    simp [inner, isInner]
  simpa using cutExtension_append innerStart cs

theorem extensionName_value (inner : name.all isInner = true) (cs : List Char) :
    extensionName (name ++ '=' :: cs) = extensionName cs := by
  rw [extensionName, cutExtension_value inner, extensionName]

/-- **The stem behind a name and an equals sign.** The characters behind it leave their marks one
by one, apart from spaces at the end. -/
theorem stemName_value (inner : name.all isInner = true) (first : name.head? ≠ some ' ')
    (cs : List Char) :
    stemName (name ++ '=' :: cs) =
      squeeze false (marks name ++ ['-']) ++
        squeeze true (marks (dropEndWhile (· == ' ') (cutExtension cs).1)) := by
  have front : ∀ ds, (name ++ '=' :: ds).dropWhile (· == ' ') = name ++ '=' :: ds := by
    intro ds
    cases name with
    | nil => rfl
    | cons c name =>
      have visible : c ≠ ' ' := fun space => first (by simp [space])
      simp [visible]
  have equals : ∀ ds, marks ('=' :: ds) = '-' :: marks ds := fun _ => rfl
  have stem : safeStem (cutExtension (name ++ '=' :: cs)).1 =
      squeeze false (marks name ++ ['-']) ++
        squeeze true (marks (dropEndWhile (· == ' ') (cutExtension cs).1)) := by
    rw [cutExtension_value inner, safeStem_eq, stripWhile, front, dropEndWhile_append rfl,
      marks_append, equals, squeeze_append_dash]
  have filled : squeeze false (marks name ++ ['-']) ≠ [] := by
    cases marks name <;> simp [squeeze_false_cons]
  rw [stemName, stem, if_neg (by simp [filled])]

/-! ### Plain segments -/

/-- Letters, digits and single dashes, none of them in front. -/
def IsPlain (cs : List Char) : Prop :=
  squeeze true cs = cs ∧ ∀ c ∈ cs, isAlphanumeric c = true ∨ c = '-'

instance (cs : List Char) : Decidable (IsPlain cs) :=
  inferInstanceAs (Decidable (_ ∧ _))

/-- Only characters beyond ASCII are written with other letters. -/
theorem plain_of_ascii {c : Char} (ascii : c.toNat < 128) : plain c = [c] := by
  have far : (plainForms.all fun form => form.1.all (128 ≤ ·.toNat)) = true := by decide
  have none : plainForms.find? (·.1.contains c) = none := by
    rw [List.find?_eq_none]
    intro form mem found
    have beyond := List.all_eq_true.mp (List.all_eq_true.mp far form mem) c (by simpa using found)
    exact absurd (of_decide_eq_true beyond) (by omega)
  rw [plain, none]

theorem safe?_of_isAlphanumeric {c : Char} (h : isAlphanumeric c = true) : safe? c = some c := by
  have separators : ([' ', '&', '_', '=', '+', ':', '.', '/', '-'].all (!isAlphanumeric ·)) =
      true := by decide
  have other : isSeparator c = false := by
    rw [isSeparator, List.contains_eq_mem, decide_eq_false_iff_not]
    intro mem
    have other := List.all_eq_true.mp separators c mem
    simp [h] at other
  simp [safe?, other, h]

/-- Letters, digits and dashes are their own marks. -/
theorem marks_of_safe (safe : ∀ c ∈ cs, isAlphanumeric c = true ∨ c = '-') : marks cs = cs := by
  induction cs with
  | nil => rfl
  | cons c cs ih =>
    have rest := ih fun d mem => safe d (List.mem_cons_of_mem _ mem)
    have own : marks [c] = [c] := by
      rcases safe c List.mem_cons_self with letter | rfl
      · simp [marks, plain_of_ascii (toNat_lt_of_isAlphanumeric letter),
          safe?_of_isAlphanumeric letter]
      · rfl
    rw [← List.singleton_append, marks_append, own, rest]

/-- Without a dot there is no extension. -/
theorem hasExtension_of_noDot {key : String} (noDot : '.' ∉ key.toList) :
    FilePath.hasExtension key = false := by
  unfold FilePath.hasExtension
  split
  · rfl
  · rfl
  · rename_i name _ last
    have found : name ∈ FilePath.place key := List.mem_of_getLast? last
    rw [FilePath.place, List.mem_filter, List.mem_map] at found
    obtain ⟨⟨part, mem, rfl⟩, -⟩ := found
    rw [List.contains_eq_mem, decide_eq_false_iff_not, String.toList_ofList]
    exact fun dot => noDot (mem_of_mem_splitAll mem (List.mem_of_mem_drop dot))

/-- A plain segment is kept as it is. -/
theorem parts_of_plain (inner : name.all isInner = true) (first : name.head? ≠ some ' ')
    (plain : IsPlain cs) :
    stemName (name ++ '=' :: (cs ++ ".json".toList)) = squeeze false (marks name ++ ['-']) ++ cs ∧
      extensionName (name ++ '=' :: (cs ++ ".json".toList)) = "json".toList := by
  have json : ".json".toList = '.' :: "json".toList := rfl
  have cut : cutExtension (cs ++ ".json".toList) = (cs, ".json".toList) := by
    rw [json]
    exact cutExtension_dot (by decide)
  have noSpace : cs.getLast?.any (· == ' ') = false := by
    rw [← Bool.not_eq_true, Option.any_eq_true]
    rintro ⟨c, last, space⟩
    obtain rfl := beq_iff_eq.mp space
    rcases plain.2 ' ' (List.mem_of_getLast? last) with letter | dash
    · exact absurd letter (by decide)
    · exact absurd dash (by decide)
  have safe : safeStem (".json".toList.dropWhile (· == '.')) = "json".toList := by decide
  constructor
  · rw [stemName_value inner first, cut, dropEndWhile_of_last noSpace, marks_of_safe plain.2,
      plain.1]
  · rw [extensionName_value inner, extensionName, cut, safe]

end CatalogFeeds.Segment
