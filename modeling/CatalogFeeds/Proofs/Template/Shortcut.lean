import CatalogFeeds.Proofs.Template.Scanner
/-!
Texts that are not read as templates.

A text without the marks of a variable or of a statement stands for itself, and is accepted
unread. Reading it would do more: a comment is a mark too, and a line break at the end of a
template is dropped. So the shortcut is seen exactly where one of these is there.

* `Scanner.outside_unmarked` — the tokens of such a text are pieces of it, fewer characters than it
  has if there is a comment, and a fault stands behind them if a comment is not closed.
* `shortcut_seen_iff` — where expansion and evaluation differ, and where checking and reading do.
-/

namespace CatalogFeeds.Template

open CatalogFeeds.Text

variable {cs ds rest front : List Char} {c : Char}

/-- One list of characters is found inside another where it is a part of it. -/
theorem contains_iff_isInfix {needle : List Char} :
    Text.contains needle cs = true ↔ needle <:+: cs := by
  induction cs with
  | nil => rw [Text.contains, List.isEmpty_iff, List.infix_nil]
  | cons c cs ih => rw [Text.contains, Bool.or_eq_true, List.isPrefixOf_iff_prefix, ih,
      List.infix_cons_iff]

/-- A text without the marks of a variable or of a statement. -/
def IsUnmarked (cs : List Char) : Prop :=
  ¬ ['\x7b', '\x7b'] <:+: cs ∧ ¬ ['\x7b', '%'] <:+: cs

theorem hasMarkup_eq_false_iff {text : String} :
    hasMarkup text = false ↔ IsUnmarked text.toList := by
  rw [hasMarkup, Bool.or_eq_false_iff, IsUnmarked, ← contains_iff_isInfix, ← contains_iff_isInfix,
    Bool.not_eq_true, Bool.not_eq_true]

theorem IsUnmarked.of_infix (unmarked : IsUnmarked cs) (part : ds <:+: cs) : IsUnmarked ds :=
  ⟨fun found => unmarked.1 (found.trans part), fun found => unmarked.2 (found.trans part)⟩

/-! ### Marks and comments -/

namespace Scanner

variable {mark : Mark}

theorem eq_of_untilMark_none (nothing : (untilMark cs).2 = none) : (untilMark cs).1 = cs := by
  induction cs with
  | nil => rfl
  | cons d cs ih =>
    by_cases brace : d = '\x7b'
    · subst brace
      cases cs with
      | nil => rfl
      | cons e cs =>
        cases opens : mark? e with
        | none =>
          rw [untilMark_brace opens] at nothing ⊢
          rw [ih nothing]
        | some own => simp [untilMark_mark opens] at nothing
    · rw [untilMark_cons brace] at nothing ⊢
      rw [ih nothing]

/-- Where a comment is opened a mark is found. -/
theorem untilMark_ne_none (opened : ['\x7b', '#'] <:+: cs) : (untilMark cs).2 ≠ none := by
  induction cs with
  | nil => simp at opened
  | cons d cs ih =>
    by_cases brace : d = '\x7b'
    · subst brace
      cases cs with
      | nil => simp [List.infix_cons_iff] at opened
      | cons e cs =>
        cases opens : mark? e with
        | none =>
          rw [untilMark_brace opens]
          apply ih
          rw [List.infix_cons_iff] at opened
          refine opened.resolve_left fun first => ?_
          simp only [List.cons_prefix_cons, true_and] at first
          rw [← first.1] at opens
          exact absurd opens (by decide)
        | some own => simp [untilMark_mark opens]
    · rw [untilMark_cons brace]
      apply ih
      rw [List.infix_cons_iff] at opened
      refine opened.resolve_left fun first => ?_
      exact brace (List.cons_prefix_cons.mp first).1.symm

/-- The first mark of an unmarked text opens a comment. -/
theorem eq_of_untilMark_unmarked (unmarked : IsUnmarked cs)
    (found : untilMark cs = (front, some (mark, rest))) :
    mark = .comment ∧ cs = front ++ '\x7b' :: '#' :: rest := by
  obtain ⟨c, opens, rfl⟩ := eq_of_untilMark found
  have there : ['\x7b', c] <:+: front ++ '\x7b' :: c :: rest := ⟨front, rest, by simp⟩
  have noVariable : c ≠ '\x7b' := by
    rintro rfl
    exact unmarked.1 there
  have noBlock : c ≠ '%' := by
    rintro rfl
    exact unmarked.2 there
  simp only [mark?, beq_iff_eq, noVariable, noBlock, if_false, Option.ite_none_right_eq_some,
    Option.some.injEq] at opens
  obtain ⟨rfl, rfl⟩ := opens
  exact ⟨rfl, rfl⟩

/-- A text in which each comment that is opened is closed. -/
inductive ClosesComments : List Char → Prop
  | text {cs : List Char} : (untilMark cs).2 = none → ClosesComments cs
  | comment {cs after body rest : List Char} : (untilMark cs).2 = some (.comment, after) →
      splitAtPair '#' '\x7d' after = some (body, rest) → ClosesComments rest → ClosesComments cs

theorem untilMark_dropWhile (cs : List Char) :
    (untilMark (cs.dropWhile isBlank)).2 = (untilMark cs).2 := by
  induction cs with
  | nil => rfl
  | cons c cs ih =>
    by_cases blank : isBlank c = true
    · have other : c ≠ '\x7b' := by
        rintro rfl
        exact absurd blank (by decide)
      rw [List.dropWhile_cons_of_pos blank, ih, untilMark_cons other]
    · rw [List.dropWhile_cons_of_neg blank]

theorem ClosesComments.of_mark (closes : ClosesComments cs)
    (same : (untilMark cs).2 = (untilMark ds).2) : ClosesComments ds := by
  cases closes with
  | text nothing => exact .text (same ▸ nothing)
  | comment found closed later => exact .comment (same ▸ found) closed later

theorem closesComments_of_mark {after body : List Char}
    (found : (untilMark cs).2 = some (.comment, after))
    (closed : splitAtPair '#' '\x7d' after = some (body, rest)) :
    ClosesComments cs ↔ ClosesComments rest := by
  constructor
  · intro closes
    cases closes with
    | text nothing => simp [found] at nothing
    | comment found' closed' later =>
      obtain ⟨-, rfl⟩ := Prod.mk.inj (Option.some.inj (found.symm.trans found'))
      obtain ⟨-, rfl⟩ := Prod.mk.inj (Option.some.inj (closed.symm.trans closed'))
      exact later
  · exact .comment found closed

theorem not_closesComments {after : List Char}
    (found : (untilMark cs).2 = some (.comment, after))
    (goesOn : splitAtPair '#' '\x7d' after = none) : ¬ ClosesComments cs := by
  intro closes
  cases closes with
  | text nothing => simp [found] at nothing
  | comment found' closed _ =>
    obtain ⟨-, rfl⟩ := Prod.mk.inj (Option.some.inj (found.symm.trans found'))
    simp [goesOn] at closed

/-! A character at the end that belongs to no mark changes nothing. -/

theorem untilMark_append_last (other : c ≠ '\x7b') (plain : mark? c = none) (cs : List Char) :
    (untilMark (cs ++ [c])).2 =
      (untilMark cs).2.map fun (mark, rest) => (mark, rest ++ [c]) := by
  induction cs with
  | nil =>
    rw [List.nil_append, untilMark_cons other]
    rfl
  | cons d cs ih =>
    by_cases brace : d = '\x7b'
    · subst brace
      cases cs with
      | nil =>
        rw [List.cons_append, List.nil_append, untilMark_brace plain, untilMark_cons other]
        rfl
      | cons e cs =>
        cases opens : mark? e with
        | none =>
          rw [untilMark_brace opens, ← ih, List.cons_append, List.cons_append,
            untilMark_brace opens]
        | some own =>
          rw [List.cons_append, List.cons_append, untilMark_mark opens, untilMark_mark opens]
          rfl
    · rw [untilMark_cons brace, List.cons_append, untilMark_cons brace, ih]

theorem splitAtPair_append_last {a b : Char} (other : c ≠ b) (cs : List Char) :
    splitAtPair a b (cs ++ [c]) =
      (splitAtPair a b cs).map fun (body, rest) => (body, rest ++ [c]) := by
  fun_induction splitAtPair a b cs with
  | case1 => rfl
  | case2 => simp [splitAtPair, other]
  | case3 d e rest pair => simp [splitAtPair, pair]
  | case4 d e rest apart ih =>
    rw [List.cons_append] at ih
    simp only [List.cons_append, splitAtPair, apart, ih]
    cases splitAtPair a b (e :: rest) <;> rfl

theorem closesComments_append_last (other : c ≠ '\x7b') (plain : mark? c = none)
    (ends : c ≠ '\x7d') : ClosesComments (cs ++ [c]) ↔ ClosesComments cs := by
  constructor
  · intro closes
    generalize longer : cs ++ [c] = ds at closes
    induction closes generalizing cs with
    | text nothing =>
      subst longer
      rw [untilMark_append_last other plain, Option.map_eq_none_iff] at nothing
      exact .text nothing
    | comment found closed _ ih =>
      subst longer
      rw [untilMark_append_last other plain, Option.map_eq_some_iff] at found
      obtain ⟨⟨mark, after⟩, found, same⟩ := found
      cases same
      rw [splitAtPair_append_last ends, Option.map_eq_some_iff] at closed
      obtain ⟨⟨body, rest⟩, closed, same⟩ := closed
      cases same
      exact .comment found closed (ih rfl)
  · intro closes
    induction closes with
    | text nothing =>
      apply ClosesComments.text
      rw [untilMark_append_last other plain, nothing]
      rfl
    | @comment cs after body rest found closed _ ih =>
      have found' : (untilMark (cs ++ [c])).2 = some (.comment, after ++ [c]) := by
        rw [untilMark_append_last other plain, found]
        rfl
      have closed' : splitAtPair '#' '\x7d' (after ++ [c]) = some (body, rest ++ [c]) := by
        rw [splitAtPair_append_last ends, closed]
        rfl
      exact .comment found' closed' ih

theorem closesComments_withoutLastBreak :
    ClosesComments (withoutLastBreak cs) ↔ ClosesComments cs := by
  have dropped {c : Char} (other : c ≠ '\x7b') (plain : mark? c = none) (ends : c ≠ '\x7d')
      (ds : List Char) : ClosesComments (if ds.head? == some c then ds.tail else ds).reverse ↔
        ClosesComments ds.reverse := by
    cases ds with
    | nil => simp
    | cons d ds =>
      by_cases same : d = c
      · subst same
        simpa using (closesComments_append_last other plain ends).symm
      · simp [same]
  rw [withoutLastBreak, dropped (by decide) (by decide) (by decide),
    dropped (by decide) (by decide) (by decide), List.reverse_reverse]

theorem length_keptText_le (text rest : List Char) : (keptText text rest).length ≤ text.length := by
  rw [keptText]
  split
  · rw [dropEndWhile, List.length_reverse]
    exact Nat.le_trans (List.dropWhile_suffix isBlank).length_le (Nat.le_of_eq List.length_reverse)
  · exact Nat.le_refl _

/-- Pieces of an unmarked text that its tokens are made of. A fault stands behind them if there is a
comment that is not closed, and of a comment nothing is left. -/
structure IsCut (cs : List Char) (tokens : List Token) (pieces : List (List Char)) : Prop where
  bound : pieces.flatten.length ≤ cs.length
  shrinks : (untilMark cs).2 ≠ none → pieces.flatten.length < cs.length
  tokens : ClosesComments cs ∧ tokens = pieces.flatMap ofText ∨
    ¬ ClosesComments cs ∧ tokens = pieces.flatMap ofText ++ [.fault .malformed]

section Cuts

variable {own after body : List Char} {tokens : List Token} {pieces : List (List Char)}

/-- What is dropped in front of the first mark changes neither the marks nor the comments. -/
theorem IsCut.of_suffix (cut : IsCut own tokens pieces) (suffix : own <:+ cs)
    (same : (untilMark own).2 = (untilMark cs).2) : IsCut cs tokens pieces where
  bound := Nat.le_trans cut.bound suffix.length_le
  shrinks found := Nat.lt_of_lt_of_le (cut.shrinks (same ▸ found)) suffix.length_le
  tokens := cut.tokens.imp (And.imp_left (·.of_mark same))
    (And.imp_left fun stays closes => stays (closes.of_mark same.symm))

theorem isCut_text (nothing : (untilMark own).2 = none) : IsCut own (ofText own) [own] where
  bound := by simp
  shrinks found := absurd nothing found
  tokens := .inl ⟨.text nothing, by simp⟩

theorem isCut_unclosed (split : untilMark own = (front, some (.comment, after)))
    (goesOn : splitAtPair '#' '\x7d' after = none) :
    IsCut own (ofText (keptText front after) ++ [.fault .malformed]) [keptText front after] := by
  obtain ⟨c, -, parts⟩ := eq_of_untilMark split
  have short := length_keptText_le front after
  have less : [keptText front after].flatten.length < own.length := by
    rw [List.flatten_singleton, parts, List.length_append, List.length_cons]
    omega
  have mark : (untilMark own).2 = some (.comment, after) := by rw [split]
  exact ⟨Nat.le_of_lt less, fun _ => less, .inr ⟨not_closesComments mark goesOn, by simp⟩⟩

/-- A comment that is closed, with what is around it. -/
theorem eq_of_comment (split : untilMark own = (front, some (mark, after)))
    (closed : splitAtPair '#' '\x7d' after = some (body, rest)) :
    ∃ c, own = (front ++ '\x7b' :: c :: (body ++ ['#', '\x7d'])) ++ rest := by
  obtain ⟨c, -, parts⟩ := eq_of_untilMark split
  exact ⟨c, by simp [parts, eq_of_splitAtPair closed]⟩

/-- A comment that is closed leaves what is in front of it and behind it. -/
theorem IsCut.comment (split : untilMark own = (front, some (.comment, after)))
    (closed : splitAtPair '#' '\x7d' after = some (body, rest)) (cut : IsCut rest tokens pieces) :
    IsCut own (ofText (keptText front after) ++ tokens) (keptText front after :: pieces) := by
  obtain ⟨c, parts⟩ := eq_of_comment split closed
  have short := length_keptText_le front after
  have bound := cut.bound
  have less : (keptText front after :: pieces).flatten.length < own.length := by
    rw [parts]
    simp only [List.flatten_cons, List.length_append, List.length_cons]
    omega
  have mark : (untilMark own).2 = some (.comment, after) := by rw [split]
  refine ⟨Nat.le_of_lt less, fun _ => less, ?_⟩
  rw [closesComments_of_mark mark closed]
  refine cut.tokens.imp (And.imp_right fun same => ?_) (And.imp_right fun same => ?_)
  · rw [same, List.flatMap_cons]
  · rw [same, List.flatMap_cons, List.append_assoc]

end Cuts

/-- **The tokens of an unmarked text** are pieces of it. -/
theorem outside_unmarked {fuel : Nat} (unmarked : IsUnmarked cs) (enough : cs.length < fuel)
    (trims : Bool) : ∃ pieces, IsCut cs (outside fuel trims cs) pieces := by
  induction fuel generalizing cs trims with
  | zero => exact absurd enough (Nat.not_lt_zero _)
  | succ fuel ih =>
    obtain ⟨own, trimmed, suffix, same⟩ : ∃ own,
        (if trims then cs.dropWhile isBlank else cs) = own ∧ own <:+ cs ∧
          (untilMark own).2 = (untilMark cs).2 := by
      cases trims with
      | false => exact ⟨cs, rfl, List.suffix_refl cs, rfl⟩
      | true => exact ⟨_, rfl, List.dropWhile_suffix isBlank, untilMark_dropWhile cs⟩
    suffices cut : ∃ pieces, IsCut own (outside (fuel + 1) trims cs) pieces from
      cut.imp fun _ cut => cut.of_suffix suffix same
    rw [outside_succ, trimmed]
    rcases split : untilMark own with ⟨front, _ | ⟨kind, after⟩⟩
    · have nothing : (untilMark own).2 = none := by rw [split]
      obtain rfl : own = front := by rw [← eq_of_untilMark_none nothing, split]
      exact ⟨[own], isCut_text nothing⟩
    · obtain ⟨rfl, -⟩ := eq_of_untilMark_unmarked (unmarked.of_infix suffix.isInfix) split
      dsimp only
      rw [fromMark]
      cases closed : splitAtPair '#' '\x7d' after with
      | none => exact ⟨_, isCut_unclosed split closed⟩
      | some found =>
        obtain ⟨body, rest⟩ := found
        obtain ⟨c, parts⟩ := eq_of_comment split closed
        have behind : rest <:+: cs :=
          (parts ▸ List.suffix_append _ rest).isInfix.trans suffix.isInfix
        have fewer : rest.length < own.length := by
          rw [parts]
          simp only [List.length_append, List.length_cons]
          omega
        have shorter := suffix.length_le
        obtain ⟨pieces, cut⟩ := ih (unmarked.of_infix behind) (by omega)
          (body.getLast? == some '-')
        exact ⟨_, cut.comment split closed⟩

end Scanner

/-! ### Reading and evaluating -/

namespace Parse

theorem readsAs_pieces (pieces : List (List Char)) :
    ReadsAs (pieces.flatMap Scanner.ofText) (pieces.flatMap Pattern.textStatement) := by
  induction pieces with
  | nil => exact readsAs_nil
  | cons piece pieces ih => exact ih.text piece

/-- Whether tokens turn out not to be a template, given steps in proportion. -/
def Rejects (tokens : List Token) : Prop :=
  ∀ fuel blocks, tokens.length ≤ fuel → body fuel 0 false [] ⟨tokens, blocks⟩ = .error .malformed

theorem rejects_fault : Rejects [.fault .malformed] := by
  intro fuel blocks enough
  obtain ⟨less, rfl⟩ : ∃ less, fuel = less + 1 := ⟨fuel - 1, by simp at enough; omega⟩
  rw [body]
  rfl

theorem Rejects.text {tokens : List Token} (rest : Rejects tokens) (cs : List Char) :
    Rejects (Scanner.ofText cs ++ tokens) := by
  rw [Scanner.ofText]
  split
  · exact rest
  · intro fuel blocks enough
    simp only [List.cons_append, List.nil_append, List.length_cons] at enough ⊢
    obtain ⟨less, rfl⟩ : ∃ less, fuel = less + 1 := ⟨fuel - 1, by omega⟩
    rw [body_text, rest less blocks (by omega)]
    rfl

/-- A fault behind texts is met when the texts have been read. -/
theorem rejects_pieces (pieces : List (List Char)) :
    Rejects (pieces.flatMap Scanner.ofText ++ [.fault .malformed]) := by
  induction pieces with
  | nil => exact rejects_fault
  | cons piece pieces ih =>
    rw [List.flatMap_cons, List.append_assoc]
    exact ih.text piece

end Parse

theorem Eval.writes_pieces (blocks : List (String × List Stmt)) (members : List (String × Json))
    (pieces : List (List Char)) :
    Writes blocks members (pieces.flatMap Pattern.textStatement) pieces.flatten := by
  induction pieces with
  | nil => exact writes_nil
  | cons piece pieces ih => exact ih.text piece

/-- A text whose tokens turn out not to be a template is none. -/
theorem parse_of_rejects {text : String} {tokens : List Token}
    (scanned : Scanner.scan text = tokens) (rejected : Parse.Rejects tokens) :
    parse text = .error .malformed := by
  have failed := rejected (32 * (tokens.length + 2)) [] (by omega)
  rw [parse, scanned]
  simp [StateT.run, failed, bind, Except.bind]

theorem evaluate_of_render {text result : String} {members : List (String × Json)}
    {statements : List Stmt} (read : parse text = .ok statements)
    (rendered : render statements (bindings members) = .ok result) :
    evaluate text members = .ok result := by
  simp [evaluate, read, bind, Except.bind, rendered]

/-! ### The end of a text -/

/-- Whether a text ends with a line break. -/
def endsWithBreak (cs : List Char) : Bool :=
  cs.getLast? == some '\n' || cs.getLast? == some '\r'

theorem withoutLastBreak_isPrefix (cs : List Char) : Scanner.withoutLastBreak cs <+: cs := by
  have drops (c : Char) (ds : List Char) :
      (if ds.head? == some c then ds.tail else ds) <:+ ds := by
    split
    · exact List.tail_suffix ds
    · exact List.suffix_refl ds
  rw [Scanner.withoutLastBreak, ← List.reverse_suffix, List.reverse_reverse]
  exact (drops '\r' _).trans (drops '\n' _)

theorem withoutLastBreak_eq_iff :
    Scanner.withoutLastBreak cs = cs ↔ endsWithBreak cs = false := by
  constructor
  · intro whole
    by_contra breaks
    have shorter : (Scanner.withoutLastBreak cs).length < cs.length := by
      rcases List.eq_nil_or_concat' cs with rfl | ⟨front, c, rfl⟩
      · exact absurd rfl breaks
      · simp only [endsWithBreak, List.getLast?_concat, Bool.not_eq_false, Bool.or_eq_true,
          beq_iff_eq, Option.some.injEq] at breaks
        have dropped : ∀ ds : List Char, (if ds.head? == some '\r' then ds.tail else ds).length ≤
            ds.length := by
          intro ds
          split
          · exact (List.tail_suffix ds).length_le
          · exact Nat.le_refl _
        rcases breaks with rfl | rfl
        · have most := dropped front.reverse
          simp [Scanner.withoutLastBreak] at most ⊢
          omega
        · simp [Scanner.withoutLastBreak]
    rw [whole] at shorter
    exact Nat.lt_irrefl _ shorter
  · intro last
    apply withoutLastBreak_of_last
    intro c final
    simp only [endsWithBreak, Option.mem_def.mp final, Bool.or_eq_false_iff] at last
    simpa using last

/-! ### What the shortcut changes -/

variable {text : String}

/-- An unmarked text in which a comment is not closed is no template. -/
theorem parse_of_not_closesComments (unmarked : IsUnmarked text.toList)
    (stays : ¬ Scanner.ClosesComments text.toList) : parse text = .error .malformed := by
  have part := (withoutLastBreak_isPrefix text.toList).isInfix
  obtain ⟨pieces, -, -, ⟨closes, -⟩ | ⟨-, scanned⟩⟩ :=
    Scanner.outside_unmarked (unmarked.of_infix part) (Nat.lt_succ_self _) false
  · exact absurd (Scanner.closesComments_withoutLastBreak.mp closes) stays
  · exact parse_of_rejects scanned (Parse.rejects_pieces pieces)

/-- **Reading an unmarked text** whose comments are closed: what is written of it is no longer than
the text, and shorter if there is a comment. -/
theorem evaluate_of_closesComments (unmarked : IsUnmarked text.toList)
    (closes : Scanner.ClosesComments text.toList) :
    ∃ statements written, parse text = .ok statements ∧
      (∀ members, evaluate text members = .ok (String.ofList written)) ∧
      written.length ≤ (Scanner.withoutLastBreak text.toList).length ∧
      ((Scanner.untilMark (Scanner.withoutLastBreak text.toList)).2 ≠ none →
        written.length < (Scanner.withoutLastBreak text.toList).length) := by
  have part := (withoutLastBreak_isPrefix text.toList).isInfix
  obtain ⟨pieces, most, less, ⟨-, scanned⟩ | ⟨stays, -⟩⟩ :=
    Scanner.outside_unmarked (unmarked.of_infix part) (Nat.lt_succ_self _) false
  · have read := parse_of_readsAs scanned (Parse.readsAs_pieces pieces)
    exact ⟨_, pieces.flatten, read, fun members =>
      evaluate_of_render read (render_of_writes (Eval.writes_pieces _ members pieces)), most, less⟩
  · exact absurd (Scanner.closesComments_withoutLastBreak.mpr closes) stays

/-- An unmarked text without a comment and without a line break at its end is written as it is. -/
theorem evaluate_of_plain (unmarked : IsUnmarked text.toList)
    (plain : Text.contains ['\x7b', '#'] text.toList = false)
    (last : endsWithBreak text.toList = false) (members : List (String × Json)) :
    evaluate text members = .ok text := by
  have nothing : (Scanner.untilMark text.toList).2 = none := by
    cases found : (Scanner.untilMark text.toList).2 with
    | none => rfl
    | some mark =>
      obtain ⟨-, split⟩ := Scanner.eq_of_untilMark_unmarked unmarked (Prod.ext rfl found)
      have there : Text.contains ['\x7b', '#'] text.toList = true := by
        rw [contains_iff_isInfix]
        exact ⟨_, mark.2, by rw [List.append_assoc]; exact split.symm⟩
      rw [plain] at there
      exact absurd there Bool.false_ne_true
  have whole : Scanner.untilMark text.toList = (text.toList, none) :=
    Prod.ext (Scanner.eq_of_untilMark_none nothing) nothing
  have scanned : Scanner.scan text = [text.toList].flatMap Scanner.ofText := by
    simp [Scanner.scan, withoutLastBreak_eq_iff.mpr last, Scanner.outside, whole]
  have read := parse_of_readsAs scanned (Parse.readsAs_pieces [text.toList])
  have rendered := render_of_writes (Eval.writes_pieces _ members [text.toList])
  rw [evaluate_of_render read rendered]
  simp

/-- Only such a text is written as it is. -/
theorem plain_of_evaluate (unmarked : IsUnmarked text.toList) {members : List (String × Json)}
    (same : evaluate text members = .ok text) :
    Text.contains ['\x7b', '#'] text.toList = false ∧ endsWithBreak text.toList = false := by
  have closes : Scanner.ClosesComments text.toList := by
    by_contra stays
    rw [evaluate, parse_of_not_closesComments unmarked stays] at same
    exact absurd same (by simp [bind, Except.bind])
  obtain ⟨statements, written, -, written_eq, most, less⟩ :=
    evaluate_of_closesComments unmarked closes
  have all : text = String.ofList written := Except.ok.inj (same.symm.trans (written_eq members))
  have long : text.toList.length = written.length := by rw [all, String.toList_ofList]
  -- So nothing has been dropped: neither at the end of the text nor for a comment.
  have shown := withoutLastBreak_isPrefix text.toList
  have whole : Scanner.withoutLastBreak text.toList = text.toList :=
    shown.eq_of_length (Nat.le_antisymm shown.length_le (long ▸ most))
  refine ⟨?_, withoutLastBreak_eq_iff.mp whole⟩
  rw [whole] at less
  rw [Bool.eq_false_iff]
  intro opened
  have shorter := less (Scanner.untilMark_ne_none (contains_iff_isInfix.mp opened))
  exact absurd shorter (by omega)

/-- **Where the shortcut is seen.** Expanding a text and evaluating it come to the same exactly if
the text has the mark of a variable or of a statement, or has neither a comment nor a line break at
its end. Checking accepts exactly what can be read if the text has such a mark, or if each of its
comments is closed; every other text is accepted and cannot be read. -/
theorem shortcut_seen_iff (text : String) (members : List (String × Json)) :
    (expand text members = evaluate text members ↔
      hasMarkup text = true ∨
        Text.contains ['\x7b', '#'] text.toList = false ∧ endsWithBreak text.toList = false) ∧
    ((validate text = .ok () ↔ ∃ statements, parse text = .ok statements) ↔
      hasMarkup text = true ∨ Scanner.ClosesComments text.toList) ∧
    (hasMarkup text = false → expand text members = .ok text ∧ validate text = .ok ()) := by
  cases marked : hasMarkup text with
  | true =>
    refine ⟨?_, ?_, by simp⟩
    · simp [expand, marked]
    · rw [validate, if_pos marked]
      cases parse text <;> simp
  | false =>
    have unmarked := hasMarkup_eq_false_iff.mp marked
    have expanded : expand text members = .ok text := by simp [expand, marked]
    have valid : validate text = .ok () := by simp [validate, marked]
    refine ⟨?_, ?_, fun _ => ⟨expanded, valid⟩⟩
    · rw [expanded]
      simp only [Bool.false_eq_true, false_or]
      constructor
      · intro same
        exact plain_of_evaluate unmarked same.symm
      · rintro ⟨plain, last⟩
        exact (evaluate_of_plain unmarked plain last members).symm
    · simp only [valid, true_iff, Bool.false_eq_true, false_or]
      constructor
      · rintro ⟨statements, read⟩
        by_contra stays
        rw [parse_of_not_closesComments unmarked stays] at read
        exact absurd read (by simp)
      · intro closes
        obtain ⟨statements, -, read, -⟩ := evaluate_of_closesComments unmarked closes
        exact ⟨statements, read⟩

/-- A line break at the end of a text is kept though a template would lose it, and a comment that is
never closed is accepted though no template may have it. -/
theorem shortcut_keeps_last_break :
    expand "a\n" [] = .ok "a\n" ∧ evaluate "a\n" [] = .ok "a" ∧
      validate "\x7b# c" = .ok () ∧ parse "\x7b# c" = .error .malformed := by
  have unclosed : Scanner.scan "\x7b# c" = [.fault .malformed] := by rfl
  refine ⟨rfl, ?_, rfl, parse_of_rejects unclosed Parse.rejects_fault⟩
  decide +kernel

end CatalogFeeds.Template
