import CatalogFeeds.Path.Evaluate
import CatalogFeeds.Proofs.Json.Written
import CatalogFeeds.Proofs.Path.Written
/-!
Literals in expressions.

A call is everything behind the first bar that no backslash protects, and its argument everything
behind the first colon of the call. Neither search looks into the argument, so a string that is
written there is the value as it stands.

* `unbarred_of_rawSegments?` — a path that can be read protects no bar behind it.
* `splitCall_behind` — a bar behind an expression without a call ends its path.
* `gives_literal`, `gives_behind` — a literal by itself, and behind such an expression.
* `literals_kept` — so the value of a literal is its string, in any document.
-/

namespace CatalogFeeds.Selector

open CatalogFeeds.Text

variable {modifiers : ModifierSet} {source argument s : String} {cs : List Char}

/-- A text stands for a string in JSON, and ends with its quotation mark. Any of the characters may
be escaped. -/
structure IsQuoted (text s : String) : Prop where
  closed : text.toList.getLast? = some '"'
  means : Json.parse? text = some (.string s)

/-- The text that is written of a string stands for it. -/
theorem isQuoted_quote (s : String) : IsQuoted (Json.quote s) s := by
  constructor
  · rw [Json.quote, String.toList_ofList, ← List.cons_append, List.getLast?_concat]
  · exact Json.parse?_of_isText (.string s)

/-- An expression is read, and has the same value in every document. -/
def Gives (modifiers : ModifierSet) (source : String) (value : Json) : Prop :=
  ∃ selector, parse modifiers source = .ok selector ∧
    ∀ document, selector.evaluate document = .ok (some value)

/-! ### The path in front of a literal -/

theorem unbarred_single {c : Char} (escape : c ≠ '\\') (bar : c ≠ '|') : Unbarred [c] := by
  intro rest
  rw [List.singleton_append, splitAtBar]
  · rfl
  · exact fun d rest same => absurd same escape
  · exact bar

/-- A path that can be read does not end with a lone backslash, so it protects no bar behind it. -/
theorem unbarred_of_rawSegments? (noBar : (splitAtBar cs).2 = none)
    (read : rawSegments? cs ≠ none) : Unbarred cs := by
  fun_induction splitAtBar cs with
  | case1 => exact unbarred_nil
  | case2 c cs path call split ih =>
    have later : rawSegments? cs ≠ none := by
      intro failed
      apply read
      rw [rawSegments?, failed, Option.map_none]
    rw [split] at ih
    exact ((Spells.nil.escaped c).unbarred).append (ih noBar later)
  | case3 cs => cases noBar
  | case4 c cs noEscape noMark path call split ih =>
    have escape : c ≠ '\\' := by
      rintro rfl
      cases cs with
      | nil => exact read rfl
      | cons d cs => exact noEscape d cs rfl rfl
    have later : rawSegments? cs ≠ none := by
      intro failed
      apply read
      by_cases dot : c = '.'
      · rw [dot, rawSegments?_dot, failed, Option.map_none]
      · simp [rawSegments?, escape, failed]
    rw [split] at ih
    exact (unbarred_single escape noMark).append (ih noBar later)

/-- Without a call an expression is the document itself, or a path as a whole. -/
theorem splitCall_eq_none {path : List Char} (h : splitCall cs = (path, none)) :
    cs = ['@', 't', 'h', 'i', 's'] ∧ path = [] ∨
      cs.head? ≠ some '@' ∧ path = cs ∧ (splitAtBar cs).2 = none := by
  unfold splitCall at h
  split at h
  · exact .inl ⟨rfl, (Prod.mk.inj h).1.symm⟩
  · cases h
  · cases h
  · rename_i other
    refine .inr ⟨?_, ?_, by rw [h]⟩
    · rintro sign
      obtain ⟨rest, rfl⟩ := List.head?_eq_some_iff.mp sign
      exact other rest rfl
    · have parts := splitAtBar_eq cs
      rw [h] at parts
      simpa using parts.symm

/-- **A bar behind an expression without a call** ends its path. -/
theorem splitCall_behind {path : List Char} {segments : List String}
    (bare : splitCall cs = (path, none)) (read : segments? source path = .ok segments)
    (rest : List Char) : splitCall (cs ++ '|' :: rest) = (path, some rest) := by
  rcases splitCall_eq_none bare with ⟨rfl, rfl⟩ | ⟨first, rfl, noBar⟩
  · rfl
  · have unbarred : Unbarred path := by
      rcases segments?_eq_ok_iff.mp read with ⟨rfl, -⟩ | ⟨-, raw, -⟩
      · exact unbarred_nil
      · exact unbarred_of_rawSegments? noBar (by simp [raw])
    have noSign : (path ++ '|' :: rest).head? ≠ some '@' := by
      cases path with
      | nil => simp
      | cons c path => exact first
    rw [splitCall_of_first noSign, unbarred]
    simp [splitAtBar]

/-! ### Literals -/

/-- The call of a literal. -/
def literalCall (argument : String) : AppliedModifier :=
  ⟨.literal, some argument⟩

theorem isCall_literal (held : modifiers.get? "literal" = some .literal) (argument : String) :
    IsCall modifiers (callText (literalCall argument)) (literalCall argument) :=
  ⟨nameAndArgument_callText Modifier.isCallable_literal, Modifier.isCallable_literal.filled, held,
    fun _ => rfl⟩

/-- The value of a literal does not depend on what its path leads to. -/
theorem evaluate_literal {selector : Selector} (quoted : IsQuoted argument s)
    (called : selector.modifier = some (literalCall argument)) (document : Json) :
    selector.evaluate document = .ok (some (.string s)) := by
  rw [evaluate, called]
  simp [literalCall, Modifier.literal, Modifier.literalValue, quoted.means, Except.map,
    Json.present?, Json.isNull]

/-- A literal ends with a quotation mark. -/
theorem IsQuoted.endsBlank_literal (quoted : IsQuoted argument s) (c : Char) :
    endsBlank (c :: callText (literalCall argument)) = false := by
  have last : endsBlank argument.toList = false := by
    rw [endsBlank, quoted.closed]
    decide
  have call : endsBlank (callText (literalCall argument)) = false := by
    apply endsBlank_callText Modifier.isCallable_literal.trimmed
    rintro _ ⟨⟩
    exact last
  have filled : callText (literalCall argument) ≠ [] := by simp [callText, literalCall]
  exact (endsBlank_append filled [c]).trans call

theorem splitCall_literal (quoted : IsQuoted argument s) :
    splitCall (trim ("@literal:" ++ argument).toList) =
      ([], some (callText (literalCall argument))) := by
  have text : ("@literal:" ++ argument).toList = '@' :: callText (literalCall argument) := by
    simp [literalCall, callText, Modifier.literal]
  have visible : ('@' :: callText (literalCall argument)).head?.any isBlank = false := rfl
  rw [text, trim_of_ends visible (quoted.endsBlank_literal '@')]
  simp [literalCall, callText, Modifier.literal, splitCall]

/-- **A literal by itself** is read as its call, on the document. -/
theorem gives_literal (held : modifiers.get? "literal" = some .literal)
    (quoted : IsQuoted argument s) :
    Gives modifiers ("@literal:" ++ argument) (.string s) := by
  refine ⟨⟨"@literal:" ++ argument, [], some (literalCall argument)⟩, ?_, ?_⟩
  · rw [parse_eq_ok_iff, splitCall_literal quoted]
    exact ⟨rfl, rfl, .some (isCall_literal held argument)⟩
  · intro document
    exact evaluate_literal quoted rfl document

/-- **A literal behind an expression** is read as its call, on what the expression leads to. -/
theorem gives_behind (held : modifiers.get? "literal" = some .literal)
    (quoted : IsQuoted argument s) {selector : Selector}
    (read : parse modifiers source = .ok selector) (bare : selector.modifier = none)
    (last : endsBlank source.toList = false) :
    Gives modifiers (source ++ "|literal:" ++ argument) (.string s) := by
  obtain ⟨-, segments, called⟩ := parse_eq_ok_iff.mp read
  rw [bare] at called
  rcases split : splitCall (trim source.toList) with ⟨path, call⟩
  rw [split] at segments called
  cases called with
  | none =>
    have text : (source ++ "|literal:" ++ argument).toList =
        source.toList ++ '|' :: callText (literalCall argument) := by
      simp [literalCall, callText, Modifier.literal]
    have visible : ('|' :: callText (literalCall argument)).head?.any isBlank = false := rfl
    have trimmed : trim (source ++ "|literal:" ++ argument).toList =
        trim source.toList ++ '|' :: callText (literalCall argument) := by
      rw [text, trim_append last visible (quoted.endsBlank_literal '|')]
    refine ⟨⟨source ++ "|literal:" ++ argument, selector.segments,
      some (literalCall argument)⟩, ?_, ?_⟩
    · rw [parse_eq_ok_iff, trimmed, splitCall_behind split segments]
      exact ⟨rfl, segments?_eq_ok_iff.mpr (segments?_eq_ok_iff.mp segments),
        .some (isCall_literal held argument)⟩
    · intro document
      exact evaluate_literal quoted rfl document

/-- **Literals are kept.** Let a set of modifiers hold the literal. Then the literal of a string,
written in JSON in any way, has this string as its value in every document: by itself, and behind
any expression that is read as a path alone and does not end with a blank. -/
theorem literals_kept (modifiers : ModifierSet)
    (held : modifiers.get? "literal" = some .literal) (s : String) :
    IsQuoted (Json.quote s) s ∧
      ∀ argument, IsQuoted argument s →
        Gives modifiers ("@literal:" ++ argument) (.string s) ∧
        ∀ source selector, parse modifiers source = .ok selector → selector.modifier = none →
          endsBlank source.toList = false →
            Gives modifiers (source ++ "|literal:" ++ argument) (.string s) := by
  refine ⟨isQuoted_quote s, ?_⟩
  intro argument quoted
  refine ⟨gives_literal held quoted, ?_⟩
  intro source selector read bare last
  exact gives_behind held quoted read bare last

/-- Bars, colons, dots, quotation marks, backslashes, at signs, control characters and blanks in a
string, behind a path that ends with a backslash; and a string of which a character is escaped
without need. -/
theorem literals_kept_marks :
    let s := " |@a:b.\"\\\x01\n "
    let source := "  a\\|b.c\\\\"
    let selector : Selector := ⟨source, ["a|b", "c\\"], none⟩
    parse .builtin source = .ok selector ∧ endsBlank source.toList = false ∧
      Gives .builtin ("@literal:" ++ Json.quote s) (.string s) ∧
      Gives .builtin (source ++ "|literal:" ++ Json.quote s) (.string s) ∧
      IsQuoted "\"\\u0061|\"" "a|" ∧
      Gives .builtin (source ++ "|literal:" ++ "\"\\u0061|\"") (.string "a|") := by
  intro s source selector
  have held : ModifierSet.builtin.get? "literal" = some .literal :=
    ModifierSet.get?_builtin_eq_some_iff.mpr ⟨rfl, .inl rfl⟩
  have read : parse .builtin source = .ok selector := by
    have split : splitCall (trim source.toList) = ("a\\|b.c\\\\".toList, none) := by decide +kernel
    rw [parse_eq_ok_iff, split]
    exact ⟨rfl, by decide +kernel, .none⟩
  have last : endsBlank source.toList = false := by decide +kernel
  have escaped : IsQuoted "\"\\u0061|\"" "a|" := by
    have read : (Json.parse? "\"\\u0061|\"").bind Json.string? = some "a|" := by decide +kernel
    obtain ⟨value, parsed, own⟩ := Option.bind_eq_some_iff.mp read
    cases value <;> cases own
    exact ⟨by decide, parsed⟩
  obtain ⟨quoted, kept⟩ := literals_kept .builtin held s
  obtain ⟨-, others⟩ := literals_kept .builtin held "a|"
  refine ⟨read, last, (kept _ quoted).1, ?_, escaped, ?_⟩
  · exact (kept _ quoted).2 source selector read rfl last
  · exact (others _ escaped).2 source selector read rfl last

end CatalogFeeds.Selector
