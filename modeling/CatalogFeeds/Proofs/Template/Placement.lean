import CatalogFeeds.Proofs.Template.Shortcut
import CatalogFeeds.Proofs.Template.Steps
import CatalogFeeds.Proofs.Text.Split
/-!
A template behind other text.

A template may be checked behind one text and used behind another. Where neither text has a brace
in it the marks are the same ones, and so are the tokens from the first mark on: only the text token
in front of them differs, which is not there if it loses all of its characters to that mark. So what
can be read behind the one text can be read behind the other.

* `Scanner.scan_behind` — the tokens of a template behind a text.
* `Parse.isRead_front` — the text token in front makes no difference to the parser.
* `validate_behind` — a template that has been checked behind one text is fine behind the other.
* `isEvaluation_of_expand` — what may still go wrong is the evaluation.
-/

namespace CatalogFeeds.Template

open CatalogFeeds.Text

variable {before other cs : List Char}

/-! ### Tokens -/

namespace Scanner

/-- The text in front of the first mark, behind another text. -/
def frontText (before cs : List Char) : List Char :=
  match untilMark cs with
  | (text, none) => before ++ text
  | (text, some (_, rest)) => keptText (before ++ text) rest

/-- The tokens from the first mark on. -/
def markedTokens (cs : List Char) : List Token :=
  match untilMark cs with
  | (_, none) => []
  | (_, some (mark, rest)) => fromMark cs.length rest mark

theorem outside_behind (plain : '\x7b' ∉ before) (cs : List Char) :
    outside ((before ++ cs).length + 1) false (before ++ cs) =
      ofText (frontText before cs) ++ markedTokens cs := by
  rw [outside_succ, if_neg Bool.false_ne_true, untilMark_behind plain, frontText, markedTokens]
  rcases found : untilMark cs with ⟨text, _ | ⟨mark, rest⟩⟩
  · exact (List.append_nil _).symm
  · obtain ⟨c, -, parts⟩ := eq_of_untilMark found
    have shorter : rest.length < cs.length := by
      rw [parts, List.length_append, List.length_cons, List.length_cons]
      omega
    have longer : cs.length ≤ (before ++ cs).length := by simp
    dsimp only
    rw [(agree _ _).fromMark (Nat.lt_of_lt_of_le shorter longer) shorter]

/-- A visible character keeps the line breaks behind it apart from the text in front. -/
theorem withoutLastBreak_behind (before : List Char) (visible : ∃ c ∈ cs, c ≠ '\n' ∧ c ≠ '\r') :
    withoutLastBreak (before ++ cs) = before ++ withoutLastBreak cs := by
  obtain ⟨c, mem, feed, back⟩ := visible
  have keeps {d : Char} {ds : List Char} (own : c ∈ ds) (apart : c ≠ d) :
      c ∈ (if ds.head? == some d then ds.tail else ds) := by
    cases ds with
    | nil => simp at own
    | cons e ds =>
      by_cases same : e = d
      · simpa [same, apart] using own
      · simpa [same] using own
  have drop_append (d : Char) {ds : List Char} (own : c ∈ ds) (es : List Char) :
      (if (ds ++ es).head? == some d then (ds ++ es).tail else ds ++ es) =
        (if ds.head? == some d then ds.tail else ds) ++ es := by
    cases ds with
    | nil => simp at own
    | cons e ds => by_cases same : e = d <;> simp [same]
  have own := List.mem_reverse.mpr mem
  simp only [withoutLastBreak, List.reverse_append]
  rw [drop_append '\n' own, drop_append '\r' (keeps own feed), List.reverse_append,
    List.reverse_reverse]

/-- **The tokens of a template behind a text.** -/
theorem scan_behind (plain : '\x7b' ∉ before) (visible : ∃ c ∈ cs, c ≠ '\n' ∧ c ≠ '\r') :
    scan (String.ofList (before ++ cs)) =
      ofText (frontText before (withoutLastBreak cs)) ++ markedTokens (withoutLastBreak cs) := by
  rw [scan, String.toList_ofList, withoutLastBreak_behind before visible]
  exact outside_behind plain _

/-- A text whose last character is not blank is not lost to the mark behind it. -/
theorem frontText_ne_nil {c : Char} (dark : isBlank c = false) (before cs : List Char) :
    frontText (before ++ [c]) cs ≠ [] := by
  rw [frontText]
  split
  · simp
  · rename_i text mark rest _
    rw [List.append_assoc, List.singleton_append, keptText]
    split
    · simp [dropEndWhile_append dark]
    · simp

end Scanner

/-! ### Statements -/

namespace Parse

/-- Whether tokens are read to their end, within the bound that their number sets. -/
def IsRead (tokens : List Token) : Prop :=
  ∃ result, body (32 * (tokens.length + 2)) 0 false [] ⟨tokens, []⟩ = .ok result

theorem isRead_text {tokens : List Token} {value : String} :
    IsRead (.text value :: tokens) ↔
      ∃ result, body (32 * (tokens.length + 2) + 31) 0 false [] ⟨tokens, []⟩ = .ok result := by
  have bound : 32 * ((Token.text value :: tokens).length + 2) =
      32 * (tokens.length + 2) + 31 + 1 := by
    rw [List.length_cons]
    omega
  rw [IsRead, bound, body_text]
  constructor
  · rintro ⟨result, read⟩
    obtain ⟨own, rest, -⟩ := map_eq_ok_iff.mp read
    exact ⟨own, rest⟩
  · rintro ⟨result, rest⟩
    exact ⟨_, map_eq_ok_iff.mpr ⟨result, rest, rfl⟩⟩

/-- **The text in front** makes no difference: tokens that are read behind a text, or behind none,
are read behind any. -/
theorem isRead_front {front other : List Char} {tokens : List Token} (some : other ≠ [])
    (read : IsRead (Scanner.ofText front ++ tokens)) :
    IsRead (Scanner.ofText other ++ tokens) := by
  have shown : Scanner.ofText other = [.text (String.ofList other)] := by
    rw [Scanner.ofText, if_neg (by simpa using some)]
  rw [shown, List.singleton_append, isRead_text]
  rw [Scanner.ofText] at read
  split at read
  · obtain ⟨result, read⟩ := read
    exact ⟨result, body_mono (Nat.le_add_right _ 31) read⟩
  · exact isRead_text.mp read

end Parse

theorem exists_parse_iff {text : String} :
    (∃ statements, parse text = .ok statements) ↔ Parse.IsRead (Scanner.scan text) := by
  unfold parse Parse.IsRead
  constructor
  · rintro ⟨statements, read⟩
    obtain ⟨result, whole, -⟩ := bind_eq_ok_iff.mp read
    exact ⟨result, whole⟩
  · rintro ⟨result, whole⟩
    exact ⟨result.1, bind_eq_ok_iff.mpr ⟨result, whole, rfl⟩⟩

/-! ### Templates -/

theorem validate_eq_ok_iff {text : String} :
    validate text = .ok () ↔
      (hasMarkup text = true → ∃ statements, parse text = .ok statements) := by
  rw [validate]
  cases hasMarkup text with
  | false => simp
  | true => cases parse text <;> simp

theorem hasMarkup_behind (plain : '\x7b' ∉ before) (cs : List Char) :
    hasMarkup (String.ofList (before ++ cs)) = hasMarkup (String.ofList cs) := by
  rw [hasMarkup, hasMarkup, String.toList_ofList, String.toList_ofList, contains_behind plain,
    contains_behind plain]

theorem visible_of_hasMarkup (marked : hasMarkup (String.ofList cs) = true) :
    ∃ c ∈ cs, c ≠ '\n' ∧ c ≠ '\r' := by
  refine ⟨'\x7b', ?_, by decide, by decide⟩
  rw [hasMarkup, Bool.or_eq_true, contains_iff_isInfix, contains_iff_isInfix,
    String.toList_ofList] at marked
  exact marked.elim (fun found => found.subset List.mem_cons_self)
    fun found => found.subset List.mem_cons_self

/-- **A template that has been checked behind one text** is fine behind another, if neither has a
brace in it and the other does not end with a blank. -/
theorem validate_behind {c : Char} (plain : '\x7b' ∉ before) (plain' : '\x7b' ∉ other ++ [c])
    (dark : isBlank c = false) (valid : validate (String.ofList (before ++ cs)) = .ok ()) :
    validate (String.ofList (other ++ c :: cs)) = .ok () := by
  rw [List.append_cons]
  rw [validate_eq_ok_iff, hasMarkup_behind plain, exists_parse_iff] at valid
  rw [validate_eq_ok_iff, hasMarkup_behind plain', exists_parse_iff]
  intro marked
  have visible := visible_of_hasMarkup marked
  have read := valid marked
  rw [Scanner.scan_behind plain visible] at read
  rw [Scanner.scan_behind plain' visible]
  exact Parse.isRead_front (Scanner.frontText_ne_nil dark other _) read

/-- Whether an error was met in the evaluation of a template that can be read. -/
def TemplateError.IsEvaluation (error : TemplateError) : Prop :=
  ∃ statements members, parse error.template = .ok statements ∧
    render statements (bindings members) = .error error.fault

/-- **What may go wrong with a template that has been checked** is its evaluation. -/
theorem isEvaluation_of_expand {text : String} {members : List (String × Json)}
    {error : TemplateError} (valid : validate text = .ok ())
    (failed : expand text members = .error error) : error.IsEvaluation := by
  rw [expand] at failed
  split at failed
  · rename_i marked
    obtain ⟨statements, read⟩ := validate_eq_ok_iff.mp valid marked
    cases met : render statements (bindings members) with
    | ok result =>
      rw [evaluate_of_render read met] at failed
      cases failed
    | error fault =>
      have whole : evaluate text members = .error ⟨text, fault⟩ := by
        simp [evaluate, read, bind, Except.bind, met]
      rw [whole] at failed
      cases failed
      exact ⟨statements, members, read, met⟩
  · cases failed

end CatalogFeeds.Template
