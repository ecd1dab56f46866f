import CatalogFeeds.Proofs.Template.Pattern
/-!
The scanner and its bound.

Every step of the scanner goes on with less of the text than it has found. So a bound on the steps
that is above the length of the text is none: any two such bounds give the same tokens.

* `eq_of_untilMark`, `suffix_inner` and their like — what a step leaves is an end of the text.
* `outside_succ` — the tokens of a text, split at its first mark.
* `agree`, `Agree.fromMark` — a bound above the length of the text does not matter.
-/

namespace CatalogFeeds.Template.Scanner

open CatalogFeeds.Text

variable {cs rest front : List Char} {c : Char} {mark : Mark}

/-! ### Marks -/

theorem untilMark_mark (opens : mark? c = some mark) (cs : List Char) :
    untilMark ('\x7b' :: c :: cs) = ([], some (mark, cs)) := by
  simp [untilMark, opens]

theorem untilMark_brace (plain : mark? c = none) (cs : List Char) :
    untilMark ('\x7b' :: c :: cs) =
      ('\x7b' :: (untilMark (c :: cs)).1, (untilMark (c :: cs)).2) := by
  rw [untilMark]
  simp [plain]

/-- What stands before the first mark, and the mark itself. -/
theorem eq_of_untilMark (found : untilMark cs = (front, some (mark, rest))) :
    ∃ c, mark? c = some mark ∧ cs = front ++ '\x7b' :: c :: rest := by
  induction cs generalizing front with
  | nil => simp [untilMark] at found
  | cons d cs ih =>
    by_cases brace : d = '\x7b'
    · subst brace
      cases cs with
      | nil => simp [untilMark] at found
      | cons e cs =>
        cases opens : mark? e with
        | none =>
          rw [untilMark_brace opens, Prod.mk.injEq] at found
          obtain ⟨rfl, found⟩ := found
          obtain ⟨c, same, split⟩ := ih (Prod.ext rfl found)
          exact ⟨c, same, congrArg _ split⟩
        | some own =>
          rw [untilMark_mark opens] at found
          cases found
          exact ⟨e, opens, rfl⟩
    · rw [untilMark_cons brace, Prod.mk.injEq] at found
      obtain ⟨rfl, found⟩ := found
      obtain ⟨c, same, split⟩ := ih (Prod.ext rfl found)
      exact ⟨c, same, congrArg _ split⟩

theorem eq_of_splitAtPair {a b : Char} {body : List Char}
    (found : splitAtPair a b cs = some (body, rest)) : cs = body ++ a :: b :: rest := by
  fun_induction splitAtPair a b cs generalizing body with
  | case1 => simp at found
  | case2 => simp at found
  | case3 c d after pair =>
    simp only [Bool.and_eq_true, beq_iff_eq] at pair
    simp only [Option.some.injEq, Prod.mk.injEq] at found
    obtain ⟨rfl, rfl⟩ := found
    rw [pair.1, pair.2, List.nil_append]
  | case4 c d after other ih =>
    rw [Option.map_eq_some_iff] at found
    obtain ⟨⟨before, later⟩, found, same⟩ := found
    cases same
    rw [ih found, List.cons_append]

/-! ### What a step leaves -/

theorem suffix_dropSign (cs : List Char) : dropSign cs <:+ cs := by
  fun_cases dropSign cs with
  | case1 rest => exact List.suffix_cons '-' rest
  | case2 rest => exact List.suffix_cons '+' rest
  | case3 => exact List.suffix_refl cs

theorem suffix_wordStatement? {word : List Char} {trims : Bool}
    (found : wordStatement? word cs = some (trims, rest)) : rest <:+ cs := by
  obtain ⟨after, starts, found⟩ := Option.bind_eq_some_iff.mp found
  have behind : after <:+ cs := by
    have whole := List.isPrefixOf?_eq_some_iff_append_eq.mp starts
    exact List.IsSuffix.trans ⟨word, whole⟩ (List.dropWhile_suffix isGap)
  have sign := (suffix_dropSign (after.dropWhile isGap)).trans (List.dropWhile_suffix isGap)
  dsimp only at found
  split at found
  · rename_i after' ends
    cases found
    rw [ends] at sign
    exact ((List.suffix_append ['%', '\x7d'] rest).trans sign).trans behind
  · exact absurd found (by simp)

theorem suffix_rawSpan? {raw : List Char} {before after : Bool}
    (found : rawSpan? cs = some (raw, before, after, rest)) : rest <:+ cs := by
  induction cs generalizing raw with
  | nil => simp [rawSpan?] at found
  | cons c cs ih =>
    rw [rawSpan?.eq_def] at found
    dsimp only at found
    split at found
    · rename_i ends
      cases found
      split at ends
      · rename_i ds
        obtain ⟨⟨trims, rest'⟩, statement, same⟩ := Option.map_eq_some_iff.mp ends
        cases same
        have inside := (suffix_wordStatement? statement).trans (suffix_dropSign ds)
        exact inside.trans (List.suffix_append ['\x7b', '%'] ds)
      · exact absurd ends (by simp)
    · obtain ⟨⟨raw', rest'⟩, later, same⟩ := Option.map_eq_some_iff.mp found
      cases same
      exact (ih later).trans (List.suffix_cons c cs)

/-- The end of a mark is made of two characters. -/
theorem suffix_markEnd? {isBlock trims : Bool} (found : markEnd? isBlock cs = some (trims, rest)) :
    ∃ c, c :: '\x7d' :: rest <:+ cs := by
  rw [markEnd?] at found
  split at found
  · rename_i c rest' ends
    rw [Option.ite_none_right_eq_some] at found
    obtain ⟨-, found⟩ := found
    cases found
    exact ⟨c, ends ▸ suffix_dropSign cs⟩
  · exact absurd found (by simp)

theorem suffix_stringSpan? {body : List Char} (found : stringSpan? c cs = some (body, rest)) :
    rest <:+ cs := by
  fun_induction stringSpan? c cs generalizing body with
  | case1 => simp at found
  | case2 d ds ih =>
    obtain ⟨⟨body', rest'⟩, later, same⟩ := Option.map_eq_some_iff.mp found
    cases same
    exact (ih later).trans (List.suffix_append ['\\', d] ds)
  | case3 ds =>
    cases found
    exact List.suffix_cons _ _
  | case4 d ds _ _ ih =>
    obtain ⟨⟨body', rest'⟩, later, same⟩ := Option.map_eq_some_iff.mp found
    cases same
    exact (ih later).trans (List.suffix_cons d ds)

theorem suffix_numberSpan (base : Nat) (state : NumberState) (cs : List Char) :
    (numberSpan base state cs).2.2 <:+ cs := by
  induction cs generalizing state with
  | nil => exact List.suffix_refl []
  | cons c cs ih =>
    rw [numberSpan]
    dsimp only
    split
    · exact List.suffix_refl _
    · exact (ih _).trans (List.suffix_cons c cs)

/-- A digit belongs to the number that begins with it. -/
theorem suffix_numberSpan_digit (digit : isDigit c = true) (base : Nat) (cs : List Char) :
    (numberSpan base .whole (c :: cs)).2.2 <:+ cs := by
  rw [numberSpan]
  dsimp only
  split
  · rename_i stops
    split_ifs at stops
  · exact suffix_numberSpan _ _ _

theorem suffix_number (digit : isDigit c = true) (cs : List Char) :
    (number (c :: cs)).2 <:+ cs := by
  have all : ∀ base ds, (base = 10 ∧ ds = c :: cs ∨ ds <:+ cs) →
      (numberSpan base (if base == 10 then .whole else .based) ds).2.2 <:+ cs := by
    rintro base ds (⟨rfl, rfl⟩ | inside)
    · exact suffix_numberSpan_digit digit 10 cs
    · exact (suffix_numberSpan _ _ _).trans inside
  rw [number.eq_def]
  split
  rename_i base ds found
  have left := all base ds (by
    split at found
    · rename_i d ds' same
      obtain ⟨-, rfl⟩ := List.cons.inj same
      split_ifs at found
      all_goals cases found
      · exact .inr (List.suffix_cons d ds)
      · exact .inr (List.suffix_cons d ds)
      · exact .inr (List.suffix_cons d ds)
      · exact .inl ⟨rfl, rfl⟩
    · cases found
      exact .inl ⟨rfl, rfl⟩)
  split
  rename_i span state after ends
  rw [ends] at left
  split
  · exact left
  · exact left

theorem suffix_single (c : Char) (cs : List Char) : (inner.single c cs).2 <:+ cs := by
  unfold inner.single
  split_ifs with symbol quote digit name
  · exact List.suffix_refl cs
  · split
    · exact List.nil_suffix
    · rename_i body rest found
      have behind := suffix_stringSpan? found
      split
      · split
        · exact behind
        · exact List.nil_suffix
      · exact behind
  · exact suffix_number digit cs
  · exact List.dropWhile_suffix continuesName
  · exact List.nil_suffix

theorem suffix_inner (c : Char) (cs : List Char) : (inner c cs).2 <:+ cs := by
  unfold inner
  split
  · rename_i d after
    split
    · exact List.suffix_cons d after
    · exact suffix_single c (d :: after)
  · exact suffix_single c []

/-! ### The bound -/

/-- The tokens from a mark on. -/
def fromMark (fuel : Nat) (rest : List Char) : Mark → List Token
  | .comment =>
    match splitAtPair '#' '\x7d' rest with
    | none => [.fault .malformed]
    | some (body, rest) => outside fuel (body.getLast? == some '-') rest
  | .variable => .variableStart :: inside fuel false 0 (dropSign rest)
  | .block =>
    match wordStatement? ['r', 'a', 'w'] (dropSign rest) with
    | none => .blockStart :: inside fuel true 0 (dropSign rest)
    | some (trimsStart, rest) =>
      match rawSpan? rest with
      | none => [.fault .malformed]
      | some (raw, trimsEnd, trims, rest) =>
        let raw := if trimsStart then raw.dropWhile isBlank else raw
        let raw := if trimsEnd then dropEndWhile isBlank raw else raw
        ofText raw ++ outside fuel trims rest

/-- The text in front of a mark, which may lose the blanks at its end. -/
def keptText (text rest : List Char) : List Char :=
  if rest.head? == some '-' then dropEndWhile isBlank text else text

theorem outside_succ (fuel : Nat) (trims : Bool) (cs : List Char) :
    outside (fuel + 1) trims cs =
      match untilMark (if trims then cs.dropWhile isBlank else cs) with
      | (text, none) => ofText text
      | (text, some (mark, rest)) => ofText (keptText text rest) ++ fromMark fuel rest mark := by
  rw [outside]
  generalize untilMark (if trims then cs.dropWhile isBlank else cs) = found
  obtain ⟨text, _ | ⟨mark, rest⟩⟩ := found
  · rfl
  · cases mark <;> rfl

/-- Whether two bounds give the same tokens for every text shorter than either. -/
structure Agree (fuel fuel' : Nat) : Prop where
  outside : ∀ trims cs, cs.length < fuel → cs.length < fuel' →
    Scanner.outside fuel trims cs = Scanner.outside fuel' trims cs
  inside : ∀ isBlock balance cs, cs.length < fuel → cs.length < fuel' →
    Scanner.inside fuel isBlock balance cs = Scanner.inside fuel' isBlock balance cs

theorem Agree.fromMark {fuel fuel' : Nat} (agree : Agree fuel fuel') {rest : List Char}
    (enough : rest.length < fuel) (enough' : rest.length < fuel') (mark : Mark) :
    fromMark fuel rest mark = Scanner.fromMark fuel' rest mark := by
  have sign := (suffix_dropSign rest).length_le
  match mark with
  | .comment =>
    rw [Scanner.fromMark, Scanner.fromMark]
    cases closed : splitAtPair '#' '\x7d' rest with
    | none => rfl
    | some found =>
      obtain ⟨body, after⟩ := found
      have less : after.length ≤ rest.length := by
        rw [eq_of_splitAtPair closed, List.length_append, List.length_cons, List.length_cons]
        omega
      exact agree.outside _ after (by omega) (by omega)
  | .variable =>
    rw [Scanner.fromMark, Scanner.fromMark, agree.inside _ _ _ (by omega) (by omega)]
  | .block =>
    rw [Scanner.fromMark, Scanner.fromMark]
    cases raw : wordStatement? ['r', 'a', 'w'] (dropSign rest) with
    | none =>
      dsimp only
      rw [agree.inside _ _ _ (by omega) (by omega)]
    | some found =>
      obtain ⟨trimsStart, start⟩ := found
      have begun := (suffix_wordStatement? raw).length_le
      dsimp only
      cases ended : rawSpan? start with
      | none => rfl
      | some found =>
        obtain ⟨raw, trimsEnd, trims, after⟩ := found
        have less := (suffix_rawSpan? ended).length_le
        dsimp only
        rw [agree.outside _ after (by omega) (by omega)]

theorem Agree.outside_succ {fuel fuel' : Nat} (agree : Agree fuel fuel') {trims : Bool}
    (enough : cs.length < fuel + 1) (enough' : cs.length < fuel' + 1) :
    Scanner.outside (fuel + 1) trims cs = Scanner.outside (fuel' + 1) trims cs := by
  have fewer : (if trims then cs.dropWhile isBlank else cs).length ≤ cs.length := by
    split
    · exact (List.dropWhile_suffix isBlank).length_le
    · exact Nat.le_refl _
  rw [Scanner.outside_succ, Scanner.outside_succ]
  split
  · rfl
  · rename_i text mark rest found
    obtain ⟨c, -, parts⟩ := eq_of_untilMark found
    rw [parts, List.length_append, List.length_cons, List.length_cons] at fewer
    rw [agree.fromMark (by omega) (by omega)]

theorem Agree.inside_succ {fuel fuel' : Nat} (agree : Agree fuel fuel') {isBlock : Bool}
    {balance : Int} (enough : cs.length < fuel + 1) (enough' : cs.length < fuel' + 1) :
    Scanner.inside (fuel + 1) isBlock balance cs =
      Scanner.inside (fuel' + 1) isBlock balance cs := by
  have fewer : (cs.dropWhile isGap).length ≤ cs.length := (List.dropWhile_suffix isGap).length_le
  rw [Scanner.inside, Scanner.inside]
  split
  · rfl
  · rename_i c ds visible
    rw [visible, List.length_cons] at fewer
    split
    · -- The mark ends here.
      rename_i trims rest ends
      rw [Option.ite_none_right_eq_some] at ends
      obtain ⟨d, behind⟩ := suffix_markEnd? ends.2
      have less := behind.length_le
      simp only [List.length_cons] at less
      rw [agree.outside _ _ (by omega) (by omega)]
    · have left := (suffix_inner c ds).length_le
      split
      · rfl
      · rename_i token rest _ next
        rw [next] at left
        dsimp only at left
        rw [agree.inside _ _ _ (by omega) (by omega)]

/-- **A bound above the length of a text does not matter.** -/
theorem agree (fuel fuel' : Nat) : Agree fuel fuel' := by
  induction fuel generalizing fuel' with
  | zero =>
    exact ⟨fun _ _ enough => absurd enough (Nat.not_lt_zero _),
      fun _ _ _ enough => absurd enough (Nat.not_lt_zero _)⟩
  | succ fuel ih =>
    cases fuel' with
    | zero =>
      exact ⟨fun _ _ _ enough => absurd enough (Nat.not_lt_zero _),
        fun _ _ _ _ enough => absurd enough (Nat.not_lt_zero _)⟩
    | succ fuel' =>
      exact ⟨fun _ _ => (ih fuel').outside_succ, fun _ _ _ => (ih fuel').inside_succ⟩

end CatalogFeeds.Template.Scanner
