import CatalogFeeds.Proofs.Members
import CatalogFeeds.Proofs.Results
import CatalogFeeds.Template.Expand
/-!
Templates that hold placeholders and nothing else.

A pattern is a text with placeholders for variables in it. It is followed through all three steps:
its tokens (`outside_chars`), its statements (`readsAs_tokens`), and what these write
(`writes_statements`).

* `expand_chars` — the placeholders of a pattern give way to the values of the variables, and
  every other character stays.
-/

namespace CatalogFeeds.Template

open CatalogFeeds.Text

/-- Texts and placeholders for variables by turns. -/
inductive Pattern where
  | text (last : List Char)
  | placeholder (before : List Char) (name : String) (rest : Pattern)

/-- Whether a name stands for a variable: it is no operator and no constant. -/
def IsVariable (name : String) : Prop :=
  name.toList.head?.any Scanner.startsName ∧ name.toList.tail.all Scanner.continuesName ∧
    name ∉ ["not", "true", "True", "false", "False", "none", "None"]

instance (name : String) : Decidable (IsVariable name) :=
  inferInstanceAs (Decidable (_ ∧ _ ∧ _))

/-- The characters of the name of a variable. -/
theorem IsVariable.exists_cons {name : String} (known : IsVariable name) :
    ∃ c cs, name.toList = c :: cs ∧ Scanner.startsName c ∧ cs.all Scanner.continuesName := by
  obtain ⟨first, all, -⟩ := known
  cases spelled : name.toList with
  | nil => simp [spelled] at first
  | cons c cs => exact ⟨c, cs, rfl, by simpa [spelled] using first, by simpa [spelled] using all⟩

/-- A placeholder for a variable as it is written. -/
def placeholderChars (name : String) : List Char :=
  '\x7b' :: '\x7b' :: ' ' :: (name.toList ++ [' ', '\x7d', '\x7d'])

namespace Pattern

/-- The characters of a pattern. -/
def chars : Pattern → List Char
  | text last => last
  | placeholder before name rest => before ++ (placeholderChars name ++ rest.chars)

/-- Texts without braces and without a line break at the end, and names of variables. -/
def IsPlain : Pattern → Prop
  | text last => '\x7b' ∉ last ∧ ∀ c ∈ last.getLast?, c ≠ '\n' ∧ c ≠ '\r'
  | placeholder before name rest => '\x7b' ∉ before ∧ IsVariable name ∧ rest.IsPlain

/-- The names of the variables. -/
def names : Pattern → List String
  | text _ => []
  | placeholder _ name rest => name :: rest.names

/-- The characters of a pattern with values in the place of its placeholders. -/
def filled (value : String → String) : Pattern → List Char
  | text last => last
  | placeholder before name rest => before ++ ((value name).toList ++ rest.filled value)

/-- The tokens of a pattern. -/
def tokens : Pattern → List Token
  | text last => Scanner.ofText last
  | placeholder before name rest =>
    Scanner.ofText before ++ .variableStart :: .name name :: .variableEnd :: rest.tokens

/-- The statement that writes a text, unless the text is empty. -/
def textStatement (cs : List Char) : List Stmt :=
  if cs.isEmpty then [] else [.text (String.ofList cs)]

/-- The statements of a pattern. -/
def statements : Pattern → List Stmt
  | text last => textStatement last
  | placeholder before name rest =>
    textStatement before ++ .emit (.variable name) :: rest.statements

end Pattern

theorem bind_of_ok {σ α β : Type} {step : StateT σ (Except Fault) α}
    {next : α → StateT σ (Except Fault) β} {s after : σ} {a : α} (h : step s = .ok (a, after)) :
    (step >>= next) s = next a after := by
  simp [bind, StateT.bind, h, Except.bind]

/-! ### Tokens -/

namespace Scanner

variable {cs rest : List Char} {name : String} {fuel : Nat}

theorem untilMark_cons {c : Char} (other : c ≠ '\x7b') (cs : List Char) :
    untilMark (c :: cs) = (c :: (untilMark cs).1, (untilMark cs).2) := by
  cases cs <;> simp [untilMark, other]

/-- A text in front adds itself. -/
theorem untilMark_behind (none : '\x7b' ∉ cs) (rest : List Char) :
    untilMark (cs ++ rest) = (cs ++ (untilMark rest).1, (untilMark rest).2) := by
  induction cs with
  | nil => rfl
  | cons c cs ih =>
    rw [List.mem_cons, not_or] at none
    rw [List.cons_append, untilMark_cons (Ne.symm none.1), ih none.2, List.cons_append]

theorem untilMark_of_notMem (none : '\x7b' ∉ cs) : untilMark cs = (cs, .none) := by
  have whole := untilMark_behind none []
  rwa [List.append_nil, untilMark, List.append_nil] at whole

theorem untilMark_append (none : '\x7b' ∉ cs) (rest : List Char) :
    untilMark (cs ++ '\x7b' :: '\x7b' :: rest) = (cs, some (.variable, rest)) := by
  rw [untilMark_behind none]
  simp [untilMark, mark?]

theorem outside_text (none : '\x7b' ∉ cs) : outside (fuel + 1) false cs = ofText cs := by
  simp [outside, untilMark_of_notMem none]

theorem toNat_of_startsName {c : Char} (first : startsName c) : 65 ≤ c.toNat := by
  simp only [startsName, isLetter, Bool.or_eq_true, beq_iff_eq, Bool.and_eq_true,
    decide_eq_true_eq] at first
  rcases first with rfl | ⟨low, -⟩ | ⟨low, -⟩
  · decide
  · exact Nat.le_trans (by decide) (show 'a'.toNat ≤ c.toNat from low)
  · exact low

theorem not_isGap_of_startsName {c : Char} (first : startsName c) : isGap c = false := by
  have high := toNat_of_startsName first
  have other (d : Char) (low : d.toNat < 65) : c ≠ d := fun same => by subst same; omega
  have feed : c.toNat ≠ 12 := by omega
  simp [isGap, other ' ' (by decide), other '\t' (by decide), other '\n' (by decide),
    other '\r' (by decide), feed]

theorem not_isDigit_of_startsName {c : Char} (first : startsName c) : isDigit c = false := by
  have high := toNat_of_startsName first
  rw [isDigit, Bool.and_eq_false_iff, decide_eq_false_iff_not]
  exact .inr (decide_eq_false fun low => by
    have : c.toNat ≤ '9'.toNat := low
    exact absurd (Nat.le_trans high this) (by decide))

/-- A name does not start with any of the other characters. -/
theorem notMem_of_startsName {c : Char} (first : startsName c) {others : List Char}
    (apart : others.all (!startsName ·)) : c ∉ others := fun mem => by
  simpa [first] using List.all_eq_true.mp apart c mem

/-- What starts a name starts nothing else. -/
theorem inner_name {c : Char} (first : startsName c) (all : cs.all continuesName)
    (rest : List Char) :
    inner c (cs ++ ' ' :: rest) = (.name (String.ofList (c :: cs)), ' ' :: rest) := by
  have symbol : c ∉ singles := notMem_of_startsName first (by decide)
  have quote : c ∉ ['\'', '"'] := notMem_of_startsName first (by decide)
  have operator : c ∉ pairs.map Prod.fst := notMem_of_startsName first (by decide)
  have pair (d : Char) : (c, d) ∉ pairs := fun mem => operator (List.mem_map_of_mem mem)
  have single : inner.single c (cs ++ ' ' :: rest) =
      (.name (String.ofList (c :: cs)), ' ' :: rest) := by
    simp only [List.mem_cons, List.not_mem_nil, or_false, not_or] at quote
    have span : (cs ++ ' ' :: rest).takeWhile continuesName = cs := by
      rw [List.takeWhile_append_of_pos (by simpa using all)]
      simp [continuesName, isAlphanumeric, isLetter, isDigit]
    have after : (cs ++ ' ' :: rest).dropWhile continuesName = ' ' :: rest := by
      rw [List.dropWhile_append_of_pos (by simpa using all)]
      simp [continuesName, isAlphanumeric, isLetter, isDigit]
    simp [inner.single, symbol, quote, not_isDigit_of_startsName first, first, span, after]
  cases cs with
  | nil =>
    rw [List.nil_append, inner, if_neg (by simpa using pair ' ')]
    exact single
  | cons d cs =>
    rw [List.cons_append, inner, if_neg (by simpa using pair d)]
    exact single

theorem inside_name {c : Char} (first : startsName c) (all : cs.all continuesName)
    (rest : List Char) :
    inside (fuel + 1) false 0 (' ' :: (c :: (cs ++ ' ' :: rest))) =
      .name (String.ofList (c :: cs)) :: inside fuel false 0 (' ' :: rest) := by
  have gap := not_isGap_of_startsName first
  have others : c ∉ ['-', '+', '\x7d'] := notMem_of_startsName first (by decide)
  simp only [List.mem_cons, List.not_mem_nil, or_false, not_or] at others
  have sign : dropSign (c :: (cs ++ ' ' :: rest)) = c :: (cs ++ ' ' :: rest) := by
    simp [dropSign, others]
  have goesOn : markEnd? false (c :: (cs ++ ' ' :: rest)) = none := by
    rw [markEnd?, sign]
    split <;> simp_all
  have blank : isGap ' ' = true := by decide
  simp [inside, gap, goesOn, blank, inner_name first all, Token.nesting]

theorem inside_end (rest : List Char) :
    inside (fuel + 1) false 0 (' ' :: '\x7d' :: '\x7d' :: rest) =
      .variableEnd :: outside fuel false rest := by
  simp [inside, isGap, markEnd?, dropSign]

theorem outside_placeholder (none : '\x7b' ∉ cs) (known : IsVariable name) (rest : List Char) :
    outside (fuel + 3) false (cs ++ (placeholderChars name ++ rest)) =
      ofText cs ++ .variableStart :: .name name :: .variableEnd :: outside fuel false rest := by
  obtain ⟨c, ds, spelled, first, all⟩ := known.exists_cons
  have mark : cs ++ (placeholderChars name ++ rest) =
      cs ++ '\x7b' :: '\x7b' :: ' ' :: (c :: (ds ++ ' ' :: '\x7d' :: '\x7d' :: rest)) := by
    simp [placeholderChars, spelled]
  have back : String.ofList (c :: ds) = name := by rw [← spelled, String.ofList_toList]
  rw [mark, outside]
  simp only [Bool.false_eq_true, if_false, untilMark_append none]
  simp [dropSign, inside_name first all, inside_end, back]

theorem outside_chars {pattern : Pattern} (plain : pattern.IsPlain)
    (enough : pattern.chars.length < fuel) : outside fuel false pattern.chars = pattern.tokens := by
  induction pattern generalizing fuel with
  | text last =>
    obtain ⟨less, rfl⟩ := Nat.exists_eq_add_of_lt (Nat.zero_lt_of_lt enough)
    rw [Nat.zero_add]
    exact outside_text plain.1
  | placeholder before name rest ih =>
    obtain ⟨none, known, plain⟩ := plain
    simp only [Pattern.chars, placeholderChars, List.length_append, List.length_cons] at enough
    obtain ⟨less, rfl⟩ : ∃ less, fuel = less + 3 := ⟨fuel - 3, by omega⟩
    rw [Pattern.chars, outside_placeholder none known, ih plain (by omega), Pattern.tokens]

end Scanner

/-! ### Statements -/

namespace Parse

variable {tokens : List Token} {blocks : List String} {fuel depth : Nat}

/-- The state in which a variable is about to end. -/
def atEnd (tokens : List Token) (blocks : List String) : ParserState :=
  ⟨.variableEnd :: tokens, blocks⟩

/-- The state in front of a name with which a variable ends. -/
def atName (name : String) (tokens : List Token) (blocks : List String) : ParserState :=
  ⟨.name name :: .variableEnd :: tokens, blocks⟩

theorem deeper_of_le (shallow : depth + 1 ≤ deepest) (s : ParserState) :
    deeper depth s = .ok (depth + 1, s) := by
  rw [deeper, if_neg (Nat.not_lt.mpr shallow)]
  rfl

theorem arithmeticTail_atEnd (choices : List (String × BinaryOperator))
    (levels : List (List (String × BinaryOperator))) (e : Expr) :
    arithmeticTail (fuel + 1) depth choices levels e (atEnd tokens blocks) =
      .ok (e, atEnd tokens blocks) := by
  rw [arithmeticTail]
  rfl

theorem postfixes_atEnd (e : Expr) :
    postfixes (fuel + 1) depth e (atEnd tokens blocks) = .ok (e, atEnd tokens blocks) := by
  rw [postfixes]
  rfl

theorem filters_atEnd (e : Expr) :
    filters (fuel + 1) depth e (atEnd tokens blocks) = .ok (e, atEnd tokens blocks) := by
  rw [filters]
  rfl

theorem compared_atEnd :
    compared (fuel + 1) depth (atEnd tokens blocks) = .ok (([], []), atEnd tokens blocks) := by
  rw [compared]
  rfl

theorem conjunctionTail_atEnd (e : Expr) :
    conjunctionTail (fuel + 1) depth e (atEnd tokens blocks) = .ok (e, atEnd tokens blocks) := by
  rw [conjunctionTail]
  rfl

theorem disjunctionTail_atEnd (e : Expr) :
    disjunctionTail (fuel + 1) depth e (atEnd tokens blocks) = .ok (e, atEnd tokens blocks) := by
  rw [disjunctionTail]
  rfl

theorem conditionalTail_atEnd (e : Expr) :
    conditionalTail (fuel + 1) depth e (atEnd tokens blocks) = .ok (e, atEnd tokens blocks) := by
  rw [conditionalTail]
  rfl

theorem primary_atName {name : String} (known : IsVariable name) :
    primary (fuel + 1) depth (atName name tokens blocks) =
      .ok (.variable name, atEnd tokens blocks) := by
  have taken : next (atName name tokens blocks) = .ok (some (.name name), atEnd tokens blocks) :=
    rfl
  have others := known.2.2
  -- The cases can only be split while the token is not yet known to be a name.
  obtain ⟨token, found⟩ : ∃ token, token = some (Token.name name) := ⟨_, rfl⟩
  rw [primary, bind_of_ok taken, ← found]
  split <;> simp_all
  rfl

theorem signed_atName {name : String} (known : IsVariable name) (shallow : depth + 1 ≤ deepest) :
    signed (fuel + 2) depth (atName name tokens blocks) =
      .ok (.variable name, atEnd tokens blocks) := by
  have sign : skipSymbol "-" (atName name tokens blocks) =
      .ok (false, atName name tokens blocks) := rfl
  rw [signed, bind_of_ok sign]
  simp only [Bool.false_eq_true, if_false]
  rw [bind_of_ok (deeper_of_le shallow _), primary_atName known]

theorem operand_atName {name : String} (known : IsVariable name) (shallow : depth + 1 ≤ deepest) :
    operand (fuel + 3) depth (atName name tokens blocks) =
      .ok (.variable name, atEnd tokens blocks) := by
  rw [operand, bind_of_ok (signed_atName known shallow), bind_of_ok (postfixes_atEnd _),
    filters_atEnd]

theorem arithmetic_atName {name : String} (known : IsVariable name)
    (shallow : depth + 1 ≤ deepest) (levels : List (List (String × BinaryOperator))) :
    arithmetic (fuel + 4 + levels.length) depth levels (atName name tokens blocks) =
      .ok (.variable name, atEnd tokens blocks) := by
  induction levels with
  | nil => rw [List.length_nil, Nat.add_zero, arithmetic, operand_atName known shallow]
  | cons choices levels ih =>
    rw [List.length_cons, ← Nat.add_assoc, arithmetic, bind_of_ok ih]
    obtain ⟨less, enough⟩ : ∃ less, fuel + 4 + levels.length = less + 1 :=
      ⟨fuel + 3 + levels.length, by omega⟩
    rw [enough, arithmeticTail_atEnd]

theorem negation_atName {name : String} (known : IsVariable name)
    (shallow : depth + 1 ≤ deepest) :
    negation (fuel + 9) depth (atName name tokens blocks) =
      .ok (.variable name, atEnd tokens blocks) := by
  have found : atWord ["not"] (atName name tokens blocks) =
      .ok (["not"].contains name, atName name tokens blocks) := rfl
  have other : ["not"].contains name = false := by
    have others := known.2.2
    simp_all
  have word : skipWord ["not"] (atName name tokens blocks) =
      .ok (false, atName name tokens blocks) := by
    rw [skipWord, bind_of_ok found, other]
    rfl
  have operand : arithmetic (fuel + 8) depth operators (atName name tokens blocks) =
      .ok (.variable name, atEnd tokens blocks) :=
    arithmetic_atName known shallow operators
  rw [negation, bind_of_ok word]
  simp only [Bool.false_eq_true, if_false]
  rw [bind_of_ok operand, bind_of_ok compared_atEnd]
  rfl

/-- A name is read as a variable. -/
theorem expr_atName {name : String} (known : IsVariable name) (shallow : depth + 2 ≤ deepest) :
    expr (fuel + 13) depth (atName name tokens blocks) =
      .ok (.variable name, atEnd tokens blocks) := by
  have conjunction : conjunction (fuel + 10) (depth + 1) (atName name tokens blocks) =
      .ok (.variable name, atEnd tokens blocks) := by
    rw [conjunction, bind_of_ok (negation_atName known shallow), conjunctionTail_atEnd]
  have disjunction : disjunction (fuel + 11) (depth + 1) (atName name tokens blocks) =
      .ok (.variable name, atEnd tokens blocks) := by
    rw [disjunction, bind_of_ok conjunction, disjunctionTail_atEnd]
  rw [expr, bind_of_ok (deeper_of_le (by omega) _), conditional, bind_of_ok disjunction,
    conditionalTail_atEnd]

/-- Whether tokens are read as statements, given steps in proportion. -/
def ReadsAs (tokens : List Token) (statements : List Stmt) : Prop :=
  ∀ fuel blocks, tokens.length + 14 ≤ fuel →
    body fuel 0 false [] ⟨tokens, blocks⟩ = .ok (statements, ⟨[], blocks⟩)

theorem readsAs_nil : ReadsAs [] [] := by
  intro fuel blocks enough
  obtain ⟨less, rfl⟩ : ∃ less, fuel = less + 1 := ⟨fuel - 1, by omega⟩
  rw [body]
  rfl

theorem body_text (fuel : Nat) (inProcedure : Bool) (ends : List String) (value : String) :
    body (fuel + 1) depth inProcedure ends ⟨.text value :: tokens, blocks⟩ =
      (body fuel depth inProcedure ends ⟨tokens, blocks⟩).map
        fun (rest, after) => (.text value :: rest, after) := by
  have start : next ⟨.text value :: tokens, blocks⟩ =
      .ok (some (.text value), ⟨tokens, blocks⟩) := rfl
  rw [body, bind_of_ok start]
  cases read : body fuel depth inProcedure ends ⟨tokens, blocks⟩ with
  | error fault => simp [bind, StateT.bind, read, Except.bind, Except.map]
  | ok result => exact bind_of_ok read

theorem ReadsAs.text {statements : List Stmt} (rest : ReadsAs tokens statements)
    (cs : List Char) :
    ReadsAs (Scanner.ofText cs ++ tokens) (Pattern.textStatement cs ++ statements) := by
  rw [Scanner.ofText, Pattern.textStatement]
  split
  · exact rest
  · intro fuel blocks enough
    simp only [List.cons_append, List.nil_append, List.length_cons] at enough ⊢
    obtain ⟨less, rfl⟩ : ∃ less, fuel = less + 1 := ⟨fuel - 1, by omega⟩
    rw [body_text, rest less blocks (by omega)]
    rfl

theorem ReadsAs.placeholder {statements : List Stmt} {name : String}
    (rest : ReadsAs tokens statements) (known : IsVariable name) :
    ReadsAs (.variableStart :: .name name :: .variableEnd :: tokens)
      (.emit (.variable name) :: statements) := by
  intro fuel blocks enough
  simp only [List.length_cons] at enough
  obtain ⟨less, rfl⟩ : ∃ less, fuel = less + 14 := ⟨fuel - 14, by omega⟩
  have start : next ⟨.variableStart :: .name name :: .variableEnd :: tokens, blocks⟩ =
      .ok (some .variableStart, atName name tokens blocks) := rfl
  have stop : expectVariableEnd (atEnd tokens blocks) = .ok ((), ⟨tokens, blocks⟩) := rfl
  rw [body, bind_of_ok start]
  dsimp only
  rw [bind_of_ok (expr_atName known (by decide)), bind_of_ok stop,
    bind_of_ok (rest (less + 13) blocks (by omega))]
  rfl

theorem readsAs_tokens {pattern : Pattern} (plain : pattern.IsPlain) :
    ReadsAs pattern.tokens pattern.statements := by
  induction pattern with
  | text last =>
    have read := readsAs_nil.text last
    rwa [List.append_nil, List.append_nil] at read
  | placeholder before name rest ih => exact ((ih plain.2.2).placeholder plain.2.1).text before

end Parse

/-! ### Evaluation -/

namespace Eval

variable {blocks : List (String × List Stmt)} {members : List (String × Json)}
  {output : List String}

/-- The state of an evaluation in which nothing has been bound. -/
def running (members : List (String × Json)) (output : List String) : EvalState :=
  ⟨[⟨bindings members, none⟩], output, false, [], 0⟩

theorem lookup_bindings {name text : String}
    (known : Members.get? name members = some (.string text)) :
    (bindings members).lookup name = some (.ofString text) := by
  induction members with
  | nil => simp [Members.get?] at known
  | cons member members ih =>
    obtain ⟨key, value⟩ := member
    rw [Members.get?] at known
    by_cases same : key = name
    · simp only [same, beq_self_eq_true, if_true, Option.some.injEq] at known
      simp [bindings, same, known, Value.ofJson]
    · simp only [beq_iff_eq, same, if_false] at known
      rw [← ih known, bindings, List.map_cons, List.lookup_cons, beq_false_of_ne (Ne.symm same)]
      rfl

theorem lookup?_running {name text : String}
    (known : Members.get? name members = some (.string text)) :
    lookup? name (running members output) =
      .ok (some (.ofString text), running members output) := by
  have found : [(⟨bindings members, none⟩ : Scope)].findSome? (Scope.lookup? · name) =
      some (.ofString text) := by
    simp [Scope.lookup?, lookup_bindings known]
  have state : (get : Eval EvalState) (running members output) =
      .ok (running members output, running members output) := rfl
  rw [lookup?, bind_of_ok state]
  dsimp only [running]
  rw [found]
  rfl

theorem emit_running (text : String) :
    emit (.ofString text) (running members output) = .ok ((), running members (text :: output)) :=
  rfl

/-- Whether statements write a text, given steps in proportion. -/
def Writes (blocks : List (String × List Stmt)) (members : List (String × Json))
    (statements : List Stmt) (text : List Char) : Prop :=
  ∀ fuel output, statements.length + 4 ≤ fuel →
    ∃ after,
      stmts blocks fuel statements (running members output) = .ok ((), running members after) ∧
      (String.join after.reverse).toList = (String.join output.reverse).toList ++ text

theorem writes_nil : Writes blocks members [] [] := by
  intro fuel output enough
  obtain ⟨less, rfl⟩ : ∃ less, fuel = less + 1 := ⟨fuel - 1, by omega⟩
  exact ⟨output, by rw [stmts]; rfl, by simp⟩

theorem Writes.text {statements : List Stmt} {text : List Char}
    (rest : Writes blocks members statements text) (cs : List Char) :
    Writes blocks members (Pattern.textStatement cs ++ statements) (cs ++ text) := by
  rw [Pattern.textStatement]
  split
  · rename_i empty
    rwa [List.isEmpty_iff.mp empty]
  · intro fuel output enough
    simp only [List.cons_append, List.nil_append, List.length_cons] at enough ⊢
    obtain ⟨less, rfl⟩ : ∃ less, fuel = less + 2 := ⟨fuel - 2, by omega⟩
    have written : stmt blocks (less + 1) (.text (String.ofList cs)) (running members output) =
        .ok ((), running members (String.ofList cs :: output)) := by
      rw [stmt]
      rfl
    obtain ⟨after, ran, total⟩ := rest (less + 1) (String.ofList cs :: output) (by omega)
    refine ⟨after, by rw [stmts, bind_of_ok written, ran], ?_⟩
    rw [total]
    simp [String.join_append]

theorem Writes.placeholder {statements : List Stmt} {text : List Char} {name value : String}
    (rest : Writes blocks members statements text)
    (known : Members.get? name members = some (.string value)) :
    Writes blocks members (.emit (.variable name) :: statements) (value.toList ++ text) := by
  intro fuel output enough
  simp only [List.length_cons] at enough
  obtain ⟨less, rfl⟩ : ∃ less, fuel = less + 3 := ⟨fuel - 3, by omega⟩
  have found : expr blocks .none (less + 1) (.variable name) (running members output) =
      .ok (.ofString value, running members output) := by
    rw [expr, bind_of_ok (lookup?_running known)]
    rfl
  have written : stmt blocks (less + 2) (.emit (.variable name)) (running members output) =
      .ok ((), running members (value :: output)) := by
    rw [stmt, bind_of_ok found, emit_running]
  obtain ⟨after, ran, total⟩ := rest (less + 2) (value :: output) (by omega)
  refine ⟨after, by rw [stmts, bind_of_ok written, ran], ?_⟩
  rw [total]
  simp [String.join_append]

theorem writes_statements {pattern : Pattern} {value : String → String}
    (known : ∀ name ∈ pattern.names, Members.get? name members = some (.string (value name))) :
    Writes blocks members pattern.statements (pattern.filled value) := by
  induction pattern with
  | text last =>
    have written : Writes blocks members (Pattern.textStatement last ++ []) (last ++ []) :=
      writes_nil.text last
    rwa [List.append_nil, List.append_nil] at written
  | placeholder before name rest ih =>
    have later := ih fun other mem => known other (List.mem_cons_of_mem name mem)
    exact (later.placeholder (known name List.mem_cons_self)).text before

end Eval

/-! ### Expansion -/

theorem contains_append (needle before after : List Char) :
    Text.contains needle (before ++ (needle ++ after)) := by
  induction before with
  | nil =>
    cases needle <;> cases after <;> simp [Text.contains]
  | cons c before ih => simp [Text.contains, ih]

theorem contains_behind {c : Char} {cs : List Char} (none : c ∉ cs) (needle rest : List Char) :
    Text.contains (c :: needle) (cs ++ rest) = Text.contains (c :: needle) rest := by
  induction cs with
  | nil => rfl
  | cons d cs ih =>
    rw [List.mem_cons, not_or] at none
    simp [Text.contains, List.isPrefixOf, none.1, ih none.2]

theorem not_contains_of_notMem {c : Char} {needle cs : List Char} (none : c ∉ cs) :
    Text.contains (c :: needle) cs = false := by
  have behind := contains_behind none needle []
  rwa [List.append_nil] at behind

theorem withoutLastBreak_of_last {cs : List Char}
    (last : ∀ c ∈ cs.getLast?, c ≠ '\n' ∧ c ≠ '\r') : Scanner.withoutLastBreak cs = cs := by
  have noFeed : cs.getLast? ≠ some '\n' := fun feed => (last '\n' feed).1 rfl
  have noReturn : cs.getLast? ≠ some '\r' := fun back => (last '\r' back).2 rfl
  simp [Scanner.withoutLastBreak, noFeed, noReturn]

theorem Pattern.IsPlain.last {pattern : Pattern} (plain : pattern.IsPlain) :
    ∀ c ∈ pattern.chars.getLast?, c ≠ '\n' ∧ c ≠ '\r' := by
  induction pattern with
  | text last => exact plain.2
  | placeholder before name rest ih =>
    intro c final
    have shape : (placeholder before name rest).chars =
        (before ++ '\x7b' :: '\x7b' :: ' ' :: (name.toList ++ [' ', '\x7d'])) ++
          '\x7d' :: rest.chars := by
      simp [Pattern.chars, placeholderChars]
    rw [shape, List.getLast?_append, List.getLast?_cons] at final
    cases ending : rest.chars.getLast? with
    | none =>
      obtain rfl : '\x7d' = c := by simpa [ending] using final
      decide
    | some d =>
      obtain rfl : d = c := by simpa [ending] using final
      exact ih plain.2.2 d ending

/-- A text whose tokens are read as statements is read as them. -/
theorem parse_of_readsAs {text : String} {tokens : List Token} {statements : List Stmt}
    (scanned : Scanner.scan text = tokens) (read : Parse.ReadsAs tokens statements) :
    parse text = .ok statements := by
  have done := read (32 * (tokens.length + 2)) [] (by omega)
  rw [parse, scanned]
  simp [StateT.run, done, bind, Except.bind, pure, Except.pure]

theorem parse_chars {pattern : Pattern} (plain : pattern.IsPlain) :
    parse (String.ofList pattern.chars) = .ok pattern.statements := by
  have scanned : Scanner.scan (String.ofList pattern.chars) = pattern.tokens := by
    rw [Scanner.scan, String.toList_ofList, withoutLastBreak_of_last plain.last]
    exact Scanner.outside_chars plain (Nat.lt_succ_self _)
  exact parse_of_readsAs scanned (Parse.readsAs_tokens plain)

/-- Statements that write a text are rendered as it. -/
theorem render_of_writes {members : List (String × Json)} {statements : List Stmt}
    {text : List Char}
    (written : Eval.Writes (Stmt.listBlocks statements) members statements text) :
    render statements (bindings members) = .ok (String.ofList text) := by
  obtain ⟨after, ran, total⟩ := written (evaluationBound + statements.length) []
    (by rw [evaluationBound]; omega)
  have whole : String.join after.reverse = String.ofList text := by
    rw [← String.toList_inj, total]
    simp
  simp only [render, StateT.run]
  rw [show (⟨[⟨bindings members, .none⟩], [], false, [], 0⟩ : EvalState) =
    Eval.running members [] from rfl, ran]
  exact congrArg Except.ok whole

theorem render_statements {pattern : Pattern} {members : List (String × Json)}
    {value : String → String}
    (known : ∀ name ∈ pattern.names, Members.get? name members = some (.string (value name))) :
    render pattern.statements (bindings members) = .ok (String.ofList (pattern.filled value)) :=
  render_of_writes (Eval.writes_statements known)

/-- **The placeholders of a pattern** give way to the values of the variables, and every other
character stays. -/
theorem expand_chars {pattern : Pattern} {members : List (String × Json)} {value : String → String}
    (plain : pattern.IsPlain)
    (known : ∀ name ∈ pattern.names, Members.get? name members = some (.string (value name))) :
    expand (String.ofList pattern.chars) members = .ok (String.ofList (pattern.filled value)) := by
  cases pattern with
  | text last =>
    have none : hasMarkup (String.ofList last) = false := by
      simp [hasMarkup, not_contains_of_notMem plain.1]
    rw [expand, Pattern.chars, none]
    rfl
  | placeholder before name rest =>
    have marked : hasMarkup (.ofList (Pattern.placeholder before name rest).chars) = true := by
      have opened := contains_append ['\x7b', '\x7b'] before
        (' ' :: (name.toList ++ [' ', '\x7d', '\x7d']) ++ rest.chars)
      rw [hasMarkup, String.toList_ofList, Bool.or_eq_true]
      exact .inl opened
    have result : parse (String.ofList (Pattern.placeholder before name rest).chars) >>=
        (render · (bindings members)) =
          .ok (String.ofList ((Pattern.placeholder before name rest).filled value)) := by
      rw [parse_chars plain]
      exact render_statements known
    rw [expand, marked, if_pos rfl, evaluate, result]

end CatalogFeeds.Template
