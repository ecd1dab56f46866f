import CatalogFeeds.Proofs.Template.Pattern
/-!
The parser and its bound.

The parser is bounded in its steps, and a bound may be too low. It is never the other way round:
what has been read within one bound is read within any higher one, and the same comes out. This is
shown for all functions of the parser that call each other at once, by induction on the bound. They
are built of steps that know no bound and of calls with one less, and `Refines` goes through all
the ways in which these are put together.

* `Refines.bind`, `Refines.map` — one step after another.
* `grows`, `bodiesGrow` — the functions that read expressions, and those that read statements.
* `body_mono` — what has been read is read within a higher bound too.
-/

namespace CatalogFeeds.Template.Parse

variable {α β : Type} {fuel fuel' : Nat}

/-- Whatever one step reads the other reads too, and leaves the same behind. -/
structure Refines (step other : Parse α) : Prop where
  keeps : ∀ s result, step s = .ok result → other s = .ok result

namespace Refines

theorem refl (step : Parse α) : Refines step step :=
  ⟨fun _ _ read => read⟩

theorem throw (fault : Fault) (other : Parse α) : Refines (throw fault) other := by
  constructor
  intro s result read
  cases read

theorem bind {step other : Parse α} {next next' : α → Parse β} (first : Refines step other)
    (later : ∀ a, Refines (next a) (next' a)) : Refines (step >>= next) (other >>= next') := by
  constructor
  intro s result read
  cases own : step s with
  | error fault => simp [Bind.bind, StateT.bind, own, Except.bind] at read
  | ok found =>
    obtain ⟨a, after⟩ := found
    rw [bind_of_ok own] at read
    rw [bind_of_ok (first.keeps s _ own)]
    exact (later a).keeps after result read

theorem map {step other : Parse α} (f : α → β) (first : Refines step other) :
    Refines (f <$> step) (f <$> other) := by
  rw [map_eq_pure_bind, map_eq_pure_bind]
  exact bind first fun _ => refl _

theorem after (step : Parse α) {next next' : α → Parse β}
    (later : ∀ a, Refines (next a) (next' a)) : Refines (step >>= next) (step >>= next') :=
  bind (refl step) later

theorem ite {c : Prop} [Decidable c] {yes no yes' no' : Parse α} (first : Refines yes yes')
    (second : Refines no no') : Refines (if c then yes else no) (if c then yes' else no') := by
  split
  · exact first
  · exact second

end Refines

/-- What holds of the lowest bound and of each one with every higher one. -/
theorem higher_induction {motive : Nat → Nat → Prop} (zero : ∀ fuel', motive 0 fuel')
    (succ : ∀ {fuel fuel'}, fuel ≤ fuel' → motive fuel fuel' → motive (fuel + 1) (fuel' + 1))
    (higher : fuel ≤ fuel') : motive fuel fuel' := by
  induction fuel generalizing fuel' with
  | zero => exact zero fuel'
  | succ fuel ih =>
    cases fuel' with
    | zero => exact absurd higher (Nat.not_succ_le_zero fuel)
    | succ fuel' =>
      have lower := Nat.le_of_succ_le_succ higher
      exact succ lower (ih lower)

/-! ### Expressions -/

/-- What is read of expressions within one bound is read within another. -/
structure Grows (fuel fuel' : Nat) : Prop where
  expr : ∀ depth, Refines (expr fuel depth) (Parse.expr fuel' depth)
  conditional : ∀ depth, Refines (conditional fuel depth) (Parse.conditional fuel' depth)
  conditionalTail : ∀ depth yes,
    Refines (conditionalTail fuel depth yes) (Parse.conditionalTail fuel' depth yes)
  disjunction : ∀ depth, Refines (disjunction fuel depth) (Parse.disjunction fuel' depth)
  disjunctionTail : ∀ depth left,
    Refines (disjunctionTail fuel depth left) (Parse.disjunctionTail fuel' depth left)
  conjunction : ∀ depth, Refines (conjunction fuel depth) (Parse.conjunction fuel' depth)
  conjunctionTail : ∀ depth left,
    Refines (conjunctionTail fuel depth left) (Parse.conjunctionTail fuel' depth left)
  negation : ∀ depth, Refines (negation fuel depth) (Parse.negation fuel' depth)
  compared : ∀ depth, Refines (compared fuel depth) (Parse.compared fuel' depth)
  arithmetic : ∀ depth levels,
    Refines (arithmetic fuel depth levels) (Parse.arithmetic fuel' depth levels)
  arithmeticTail : ∀ depth choices levels left,
    Refines (arithmeticTail fuel depth choices levels left)
      (Parse.arithmeticTail fuel' depth choices levels left)
  operand : ∀ depth, Refines (operand fuel depth) (Parse.operand fuel' depth)
  signed : ∀ depth, Refines (signed fuel depth) (Parse.signed fuel' depth)
  postfixes : ∀ depth value,
    Refines (postfixes fuel depth value) (Parse.postfixes fuel' depth value)
  subscript : ∀ depth value,
    Refines (subscript fuel depth value) (Parse.subscript fuel' depth value)
  arguments : ∀ depth isFirst keyed,
    Refines (arguments fuel depth isFirst keyed) (Parse.arguments fuel' depth isFirst keyed)
  filters : ∀ depth value, Refines (filters fuel depth value) (Parse.filters fuel' depth value)
  primary : ∀ depth, Refines (primary fuel depth) (Parse.primary fuel' depth)
  items : ∀ depth closing isFirst,
    Refines (items fuel depth closing isFirst) (Parse.items fuel' depth closing isFirst)
  members : ∀ depth isFirst,
    Refines (members fuel depth isFirst) (Parse.members fuel' depth isFirst)

/-- An argument of a call and those after it, once it is known which name it has. -/
def argument (fuel depth : Nat) (keyed : Bool) (value : Expr) (name? : Option String) :
    Parse (List Argument) :=
  match name? with
  | some name => do
    let value ← expr fuel depth
    let rest ← arguments fuel depth false true
    return .keyword name value :: rest
  | none => do
    if keyed then throw .malformed
    let rest ← arguments fuel depth false keyed
    return .positional value :: rest

section Expressions

variable (less : Grows fuel fuel')
include less

theorem expr_succ (depth : Nat) : Refines (expr (fuel + 1) depth) (expr (fuel' + 1) depth) := by
  rw [expr, expr]
  exact .after _ fun depth => less.conditional depth

theorem conditional_succ (depth : Nat) :
    Refines (conditional (fuel + 1) depth) (conditional (fuel' + 1) depth) := by
  rw [conditional, conditional]
  exact .bind (less.disjunction depth) fun first => less.conditionalTail depth first

theorem conditionalTail_succ (depth : Nat) (yes : Expr) :
    Refines (conditionalTail (fuel + 1) depth yes) (conditionalTail (fuel' + 1) depth yes) := by
  rw [conditionalTail, conditionalTail]
  refine .after _ fun _ => .ite (.bind (less.disjunction depth) fun test => ?_) (.refl _)
  exact .after _ fun _ => .ite
    (.bind (.map some (less.conditional depth)) fun no => less.conditionalTail depth _)
    (.after _ fun no => less.conditionalTail depth _)

theorem disjunction_succ (depth : Nat) :
    Refines (disjunction (fuel + 1) depth) (disjunction (fuel' + 1) depth) := by
  rw [disjunction, disjunction]
  exact .bind (less.conjunction depth) fun first => less.disjunctionTail depth first

theorem disjunctionTail_succ (depth : Nat) (left : Expr) :
    Refines (disjunctionTail (fuel + 1) depth left) (disjunctionTail (fuel' + 1) depth left) := by
  rw [disjunctionTail, disjunctionTail]
  refine .after _ fun _ => .ite (.bind (less.conjunction depth) fun right => ?_) (.refl _)
  exact less.disjunctionTail depth _

theorem conjunction_succ (depth : Nat) :
    Refines (conjunction (fuel + 1) depth) (conjunction (fuel' + 1) depth) := by
  rw [conjunction, conjunction]
  exact .bind (less.negation depth) fun first => less.conjunctionTail depth first

theorem conjunctionTail_succ (depth : Nat) (left : Expr) :
    Refines (conjunctionTail (fuel + 1) depth left) (conjunctionTail (fuel' + 1) depth left) := by
  rw [conjunctionTail, conjunctionTail]
  refine .after _ fun _ => .ite (.bind (less.negation depth) fun right => ?_) (.refl _)
  exact less.conjunctionTail depth _

theorem negation_succ (depth : Nat) :
    Refines (negation (fuel + 1) depth) (negation (fuel' + 1) depth) := by
  rw [negation, negation]
  exact .after _ fun _ => .ite
    (.bind (less.negation depth) fun operand => .refl _)
    (.bind (less.arithmetic depth operators) fun first =>
      .bind (less.compared depth) fun others => .refl _)

theorem compared_succ (depth : Nat) :
    Refines (compared (fuel + 1) depth) (compared (fuel' + 1) depth) := by
  rw [compared, compared]
  refine .after _ fun operator => ?_
  cases operator with
  | none => exact .refl _
  | some operator =>
    exact .bind (less.arithmetic depth operators) fun other =>
      .bind (less.compared depth) fun others => .refl _

theorem arithmetic_succ (depth : Nat) (levels : List (List (String × BinaryOperator))) :
    Refines (arithmetic (fuel + 1) depth levels) (arithmetic (fuel' + 1) depth levels) := by
  cases levels with
  | nil =>
    rw [arithmetic, arithmetic]
    exact less.operand depth
  | cons choices levels =>
    rw [arithmetic, arithmetic]
    exact .bind (less.arithmetic depth levels) fun first =>
      less.arithmeticTail depth choices levels first

theorem arithmeticTail_succ (depth : Nat) (choices : List (String × BinaryOperator))
    (levels : List (List (String × BinaryOperator))) (left : Expr) :
    Refines (arithmeticTail (fuel + 1) depth choices levels left)
      (arithmeticTail (fuel' + 1) depth choices levels left) := by
  rw [arithmeticTail, arithmeticTail]
  refine .after _ fun operator => ?_
  cases operator with
  | none => exact .refl _
  | some operator =>
    exact .bind (less.arithmetic depth levels) fun right =>
      less.arithmeticTail depth choices levels _

theorem operand_succ (depth : Nat) :
    Refines (operand (fuel + 1) depth) (operand (fuel' + 1) depth) := by
  rw [operand, operand]
  exact .bind (less.signed depth) fun value =>
    .bind (less.postfixes depth value) fun value => less.filters depth value

theorem signed_succ (depth : Nat) :
    Refines (signed (fuel + 1) depth) (signed (fuel' + 1) depth) := by
  rw [signed, signed]
  exact .after _ fun _ => .ite
    (.bind (less.signed depth) fun value => .refl _)
    (.after _ fun depth => less.primary depth)

theorem postfixes_succ (depth : Nat) (value : Expr) :
    Refines (postfixes (fuel + 1) depth value) (postfixes (fuel' + 1) depth value) := by
  rw [postfixes, postfixes]
  refine .after _ fun _ => .ite (.after _ fun token => ?_) (.after _ fun _ => .ite ?_
    (.after _ fun _ => .ite ?_ (.refl _)))
  · split
    · exact less.postfixes depth _
    · exact less.postfixes depth _
    · exact .refl _
  · exact .bind (less.subscript depth value) fun subscripted => less.postfixes depth subscripted
  · exact .bind (less.arguments depth true false) fun arguments => less.postfixes depth _

theorem subscript_succ (depth : Nat) (value : Expr) :
    Refines (subscript (fuel + 1) depth value) (subscript (fuel' + 1) depth value) := by
  have expr := fun depth => Refines.map some (less.expr depth)
  rw [subscript, subscript]
  refine .after _ fun _ => .ite (.after _ fun start => ?_) (.bind (expr depth) fun start => ?_)
  all_goals
    refine .after _ fun _ => .ite (.after _ fun _ => .after _ fun _ => ?_) (.refl _)
    refine .ite (.after _ fun stop => ?_) (.bind (expr depth) fun stop => ?_)
    all_goals
      exact .after _ fun _ => .ite
        (.after _ fun _ => .ite (.refl _) (.bind (expr depth) fun step => .refl _))
        (.refl _)

theorem arguments_succ (depth : Nat) (isFirst keyed : Bool) :
    Refines (arguments (fuel + 1) depth isFirst keyed)
      (arguments (fuel' + 1) depth isFirst keyed) := by
  have rest := fun keyed => less.arguments depth false keyed
  rw [arguments, arguments]
  refine .after _ fun _ => .ite (.refl _) (.ite ?_ (.after _ fun _ => ?_))
  all_goals
    refine .after _ fun _ =>
      .ite (.refl _) (.after _ fun _ => .ite ?_ (.after _ fun _ => .ite ?_ ?_))
    · exact .bind (less.expr depth) fun value => .bind (rest true) fun rest => .refl _
    · exact .bind (less.expr depth) fun value => .bind (rest keyed) fun rest => .refl _
    · refine .bind (less.expr depth) fun value => ?_
      have named (name? : Option String) : Refines
          (argument fuel depth keyed value name?) (argument fuel' depth keyed value name?) := by
        cases name? with
        | some name =>
          exact .bind (less.expr depth) fun value => .bind (rest true) fun rest => .refl _
        | none => exact .ite (.refl _) (.bind (rest keyed) fun rest => .refl _)
      cases value <;> first
        | exact .after _ named
        | exact .after _ fun _ => .ite (.after _ named) (.after _ named)

theorem filters_succ (depth : Nat) (value : Expr) :
    Refines (filters (fuel + 1) depth value) (filters (fuel' + 1) depth value) := by
  rw [filters, filters]
  refine .after _ fun _ => .ite (.after _ fun name => .after _ fun _ => .ite ?_ ?_)
    (.after _ fun _ => .ite (.after _ fun negated => .after _ fun name => .after _ fun _ =>
      .after _ fun _ => .ite ?_ (.ite ?_ ?_)) (.refl _))
  · exact .bind (less.arguments depth true false) fun arguments => less.filters depth _
  · exact .after _ fun arguments => less.filters depth _
  · exact .bind (less.arguments depth true false) fun arguments => less.filters depth _
  · exact .bind (less.signed depth) fun argument => .bind (less.postfixes depth argument)
      fun argument => .after _ fun arguments => less.filters depth _
  · exact .after _ fun arguments => less.filters depth _

theorem primary_succ (depth : Nat) :
    Refines (primary (fuel + 1) depth) (primary (fuel' + 1) depth) := by
  rw [primary, primary]
  refine .after _ fun token => ?_
  split
  case h_11 =>
    exact .after _ fun _ => .ite (.refl _) (.bind (less.expr depth) fun first => .after _ fun _ =>
      .ite (.bind (less.items depth ")" false) fun rest => .refl _) (.refl _))
  case h_12 => exact .bind (less.items depth "]" true) fun items => .refl _
  case h_13 => exact .bind (less.members depth true) fun members => .refl _
  all_goals exact .refl _

theorem items_succ (depth : Nat) (closing : String) (isFirst : Bool) :
    Refines (items (fuel + 1) depth closing isFirst) (items (fuel' + 1) depth closing isFirst) := by
  rw [items, items]
  refine .after _ fun _ => .ite (.refl _) (.ite ?_ (.after _ fun _ => ?_))
  all_goals
    exact .after _ fun _ => .ite (.refl _) (.bind (less.expr depth) fun item =>
      .bind (less.items depth closing false) fun rest => .refl _)

theorem members_succ (depth : Nat) (isFirst : Bool) :
    Refines (members (fuel + 1) depth isFirst) (members (fuel' + 1) depth isFirst) := by
  rw [members, members]
  refine .after _ fun _ => .ite (.refl _) (.ite ?_ (.after _ fun _ => ?_))
  all_goals
    exact .after _ fun _ => .ite (.refl _) (.bind (less.expr depth) fun key => .after _ fun _ =>
      .bind (less.expr depth) fun value => .bind (less.members depth false) fun rest => .refl _)

theorem grows_succ : Grows (fuel + 1) (fuel' + 1) where
  expr := expr_succ less
  conditional := conditional_succ less
  conditionalTail := conditionalTail_succ less
  disjunction := disjunction_succ less
  disjunctionTail := disjunctionTail_succ less
  conjunction := conjunction_succ less
  conjunctionTail := conjunctionTail_succ less
  negation := negation_succ less
  compared := compared_succ less
  arithmetic := arithmetic_succ less
  arithmeticTail := arithmeticTail_succ less
  operand := operand_succ less
  signed := signed_succ less
  postfixes := postfixes_succ less
  subscript := subscript_succ less
  arguments := arguments_succ less
  filters := filters_succ less
  primary := primary_succ less
  items := items_succ less
  members := members_succ less

end Expressions

theorem grows_zero (fuel' : Nat) : Grows 0 fuel' := by
  constructor
  case arithmetic =>
    intro _ levels
    cases levels <;> (rw [arithmetic]; exact .throw _ _)
  all_goals
    intros
    simp only [expr, conditional, conditionalTail, disjunction, disjunctionTail, conjunction,
      conjunctionTail, negation, compared, arithmeticTail, operand, signed, postfixes,
      subscript, arguments, filters, primary, items, members]
    exact .throw _ _

/-- What is read of expressions within one bound is read within a higher one. -/
theorem grows (higher : fuel ≤ fuel') : Grows fuel fuel' :=
  higher_induction grows_zero (fun _ less => grows_succ less) higher

/-! ### Statements -/

section Parts

variable (higher : fuel ≤ fuel')
include higher

theorem targets_mono (isFirst : Bool) :
    Refines (targets fuel isFirst) (targets fuel' isFirst) := by
  revert isFirst
  refine higher_induction (motive := fun fuel fuel' =>
    ∀ isFirst, Refines (targets fuel isFirst) (targets fuel' isFirst)) ?_ ?_ higher
  · intro fuel' isFirst
    rw [targets]
    exact .throw _ _
  · intro fuel fuel' higher less isFirst
    rw [targets, targets]
    refine .ite (.after _ fun token => ?_) (.after _ fun _ => .after _ fun token => ?_)
    all_goals split
    all_goals
      refine .after _ fun atEnd => .ite (.refl _) (.after _ fun _ => .ite ?_ ?_)
      · exact .bind (less true) fun inner => .after _ fun _ => .after _ fun item =>
          .after _ fun _ => .ite (.bind (less false) fun rest => .refl _) (.refl _)
      · exact .after _ fun name => .after _ fun item => .after _ fun _ =>
          .ite (.bind (less false) fun rest => .refl _) (.refl _)

theorem target_mono : Refines (target fuel) (target fuel') :=
  .bind (targets_mono higher true) fun _ => .refl _

theorem dottedTarget_mono (value : Expr) (found : Target) :
    Refines (dottedTarget fuel value found) (dottedTarget fuel' value found) := by
  revert value found
  refine higher_induction (motive := fun fuel fuel' => ∀ value found,
    Refines (dottedTarget fuel value found) (dottedTarget fuel' value found)) ?_ ?_ higher
  · intro fuel' value found
    rw [dottedTarget]
    exact .throw _ _
  · intro fuel fuel' higher less value found
    rw [dottedTarget, dottedTarget]
    exact .after _ fun _ => .ite (.after _ fun name => less _ _) (.refl _)

theorem closedTarget_mono : Refines (closedTarget fuel) (closedTarget fuel') :=
  .after _ fun _ => .ite (.bind (target_mono higher) fun _ => .refl _) (.refl _)

theorem bindings_mono (depth : Nat) (isFirst : Bool) :
    Refines (bindings fuel depth isFirst) (bindings fuel' depth isFirst) := by
  revert isFirst
  refine higher_induction (motive := fun fuel fuel' => ∀ isFirst,
    Refines (bindings fuel depth isFirst) (bindings fuel' depth isFirst)) ?_ ?_ higher
  · intro fuel' isFirst
    rw [bindings]
    exact .throw _ _
  · intro fuel fuel' higher less isFirst
    rw [bindings, bindings]
    refine .after _ fun _ => .ite (.refl _) (.ite ?_ (.after _ fun _ => ?_))
    all_goals
      exact .bind (closedTarget_mono higher) fun target => .after _ fun _ =>
        .bind ((grows higher).expr depth) fun value => .bind (less false) fun rest => .refl _

theorem filterChain_mono (depth : Nat) (found : Option Expr) :
    Refines (filterChain fuel depth found) (filterChain fuel' depth found) := by
  revert found
  refine higher_induction (motive := fun fuel fuel' => ∀ found,
    Refines (filterChain fuel depth found) (filterChain fuel' depth found)) ?_ ?_ higher
  · intro fuel' found
    rw [filterChain]
    exact .throw _ _
  · intro fuel fuel' higher less found
    rw [filterChain.eq_def, filterChain.eq_def (fuel' + 1)]
    refine .after _ fun _ => .ite (.refl _) (.ite (.after _ fun _ => ?_) ?_)
    all_goals
      exact .after _ fun name => .after _ fun _ => .ite
        (.bind ((grows higher).arguments depth true false) fun arguments => less _)
        (.after _ fun arguments => less _)

theorem parameters_mono (depth : Nat) (isFirst defaulted : Bool) :
    Refines (parameters fuel depth isFirst defaulted)
      (parameters fuel' depth isFirst defaulted) := by
  revert isFirst defaulted
  refine higher_induction (motive := fun fuel fuel' => ∀ isFirst defaulted,
    Refines (parameters fuel depth isFirst defaulted)
      (parameters fuel' depth isFirst defaulted)) ?_ ?_ higher
  · intro fuel' isFirst defaulted
    rw [parameters]
    exact .throw _ _
  · intro fuel fuel' higher less isFirst defaulted
    rw [parameters, parameters]
    refine .after _ fun _ => .ite (.refl _) (.ite ?_ (.after _ fun _ => ?_))
    all_goals
      refine .after _ fun _ => .ite (.refl _) (.after _ fun name => .after _ fun _ => .ite ?_ ?_)
      · exact .bind ((grows higher).expr depth) fun value =>
          .bind (less false true) fun rest => .refl _
      · exact .ite (.refl _) (.bind (less false false) fun rest => .refl _)

theorem importedNames_mono (isFirst : Bool) :
    Refines (importedNames fuel isFirst) (importedNames fuel' isFirst) := by
  revert isFirst
  refine higher_induction (motive := fun fuel fuel' =>
    ∀ isFirst, Refines (importedNames fuel isFirst) (importedNames fuel' isFirst)) ?_ ?_ higher
  · intro fuel' isFirst
    rw [importedNames]
    exact .throw _ _
  · intro fuel fuel' higher less isFirst
    rw [importedNames, importedNames]
    refine .after _ fun _ => .ite (.refl _) (.ite ?_ (.after _ fun _ => ?_))
    all_goals
      exact .after _ fun _ => .ite (.refl _) (.after _ fun _ => .after _ fun _ => .ite
        (.after _ fun _ => .after _ fun _ => less false) (.after _ fun _ => less false))

end Parts

/-- What is read of statements within one bound is read within another. -/
structure BodiesGrow (fuel fuel' : Nat) : Prop where
  body : ∀ depth inProcedure ends,
    Refines (body fuel depth inProcedure ends) (Parse.body fuel' depth inProcedure ends)
  stmt : ∀ depth inProcedure,
    Refines (stmt fuel depth inProcedure) (Parse.stmt fuel' depth inProcedure)
  closed : ∀ depth inProcedure closing,
    Refines (closed fuel depth inProcedure closing) (Parse.closed fuel' depth inProcedure closing)
  procedureBody : ∀ depth closing,
    Refines (procedureBody fuel depth closing) (Parse.procedureBody fuel' depth closing)
  branch : ∀ depth inProcedure,
    Refines (branch fuel depth inProcedure) (Parse.branch fuel' depth inProcedure)

section Statements

variable (higher : fuel ≤ fuel') (less : BodiesGrow fuel fuel')
include less

theorem closed_succ (depth : Nat) (inProcedure : Bool) (closing : String) :
    Refines (closed (fuel + 1) depth inProcedure closing)
      (closed (fuel' + 1) depth inProcedure closing) := by
  rw [closed, closed]
  exact .bind (less.body depth inProcedure _) fun inner => .refl _

theorem procedureBody_succ (depth : Nat) (closing : String) :
    Refines (procedureBody (fuel + 1) depth closing) (procedureBody (fuel' + 1) depth closing) := by
  rw [procedureBody, procedureBody]
  exact .after _ fun _ => less.closed depth true closing

include higher

theorem body_succ (depth : Nat) (inProcedure : Bool) (ends : List String) :
    Refines (body (fuel + 1) depth inProcedure ends)
      (body (fuel' + 1) depth inProcedure ends) := by
  have rest := less.body depth inProcedure ends
  rw [body, body]
  refine .after _ fun token => ?_
  split
  · exact .refl _
  · exact .bind rest fun rest => .refl _
  · exact .bind ((grows higher).expr depth) fun value => .after _ fun _ =>
      .bind rest fun rest => .refl _
  · refine .after _ fun token => ?_
    split
    · exact .refl _
    · exact .after _ fun _ => .ite (.refl _) (.bind (less.stmt depth inProcedure) fun statement =>
        .after _ fun _ => .bind rest fun rest => .refl _)
  · exact .refl _

theorem stmt_succ (depth : Nat) (inProcedure : Bool) :
    Refines (stmt (fuel + 1) depth inProcedure) (stmt (fuel' + 1) depth inProcedure) := by
  have expr := (grows higher).expr
  rw [stmt, stmt]
  refine .after _ fun depth => .after _ fun word => ?_
  split
  · -- for
    refine .bind (target_mono higher) fun target => .after _ fun _ =>
      .bind ((grows higher).disjunction depth) fun source => .after _ fun _ => ?_
    refine .ite (.bind (.map some (expr depth)) fun condition => ?_) (.after _ fun condition => ?_)
    all_goals
      exact .after _ fun recursive => .after _ fun _ =>
        .bind (less.body depth inProcedure _) fun inner => .after _ fun _ => .ite
          (.after _ fun _ => .bind (less.body depth inProcedure _) fun otherwise => .refl _)
          (.refl _)
  · -- if
    exact less.branch depth inProcedure
  · -- with
    exact .bind (bindings_mono higher depth true) fun bindings => .after _ fun _ =>
      .bind (less.closed depth inProcedure _) fun inner => .refl _
  · -- set
    refine .after _ fun parenthesised => .ite
      (.bind (target_mono higher) fun found => .after _ fun _ => .after _ fun target => ?_)
      (.after _ fun name => .bind (dottedTarget_mono higher _ _) fun target => ?_)
    all_goals
      refine .after _ fun _ => .after _ fun _ => .ite (.after _ fun _ => .ite ?_ ?_) ?_
      · exact .bind (.map some (filterChain_mono higher depth none)) fun filter =>
          .after _ fun _ => .bind (less.closed depth inProcedure _) fun inner => .refl _
      · exact .after _ fun filter => .after _ fun _ =>
          .bind (less.closed depth inProcedure _) fun inner => .refl _
      · exact .after _ fun _ => .bind (expr depth) fun value => .refl _
  · -- autoescape
    exact .bind (expr depth) fun value => .after _ fun _ =>
      .bind (less.closed depth inProcedure _) fun inner => .refl _
  · -- filter
    exact .bind (filterChain_mono higher depth none) fun filter => .after _ fun _ =>
      .bind (less.closed depth inProcedure _) fun inner => .refl _
  · -- block
    exact .ite (.refl _) (.after _ fun name => .after _ fun _ => .ite (.refl _)
      (.after _ fun _ => .after _ fun _ => .bind (less.closed depth inProcedure _)
        fun inner => .refl _))
  · -- extends
    exact .map _ (expr depth)
  · -- include
    exact .bind (expr depth) fun source => .refl _
  · -- import
    exact .bind (expr depth) fun source => .refl _
  · -- from
    exact .bind (expr depth) fun source => .after _ fun _ =>
      .bind (importedNames_mono higher true) fun _ => .refl _
  · -- macro
    exact .after _ fun name => .after _ fun _ => .bind (parameters_mono higher depth true false)
      fun parameters => .bind (less.procedureBody depth _) fun inner => .refl _
  · -- call
    refine .after _ fun _ => .ite
      (.bind (parameters_mono higher depth true false) fun parameters => ?_)
      (.after _ fun parameters => ?_)
    all_goals
      refine .bind (expr depth) fun call => ?_
      split
      · exact .bind (less.procedureBody depth _) fun inner => .refl _
      · exact .refl _
  · -- do
    exact .bind (expr depth) fun call => .refl _
  · exact .refl _

theorem branch_succ (depth : Nat) (inProcedure : Bool) :
    Refines (branch (fuel + 1) depth inProcedure) (branch (fuel' + 1) depth inProcedure) := by
  rw [branch, branch]
  refine .bind ((grows higher).expr depth) fun test => .after _ fun _ =>
    .bind (less.body depth inProcedure _) fun yes => .after _ fun token => ?_
  split
  · exact .after _ fun _ => .bind (less.closed depth inProcedure _) fun no => .refl _
  · exact .bind (less.branch depth inProcedure) fun no => .refl _
  · exact .refl _

theorem bodiesGrow_succ : BodiesGrow (fuel + 1) (fuel' + 1) where
  body := body_succ higher less
  stmt := stmt_succ higher less
  closed := closed_succ less
  procedureBody := procedureBody_succ less
  branch := branch_succ higher less

end Statements

theorem bodiesGrow_zero (fuel' : Nat) : BodiesGrow 0 fuel' := by
  constructor
  all_goals
    intros
    simp only [body, stmt, closed, procedureBody, branch]
    exact .throw _ _

/-- What is read of statements within one bound is read within a higher one. -/
theorem bodiesGrow (higher : fuel ≤ fuel') : BodiesGrow fuel fuel' :=
  higher_induction bodiesGrow_zero bodiesGrow_succ higher

/-- Statements that have been read are read within a higher bound too. -/
theorem body_mono {depth : Nat} {inProcedure : Bool} {ends : List String} {s : ParserState}
    {result : List Stmt × ParserState} (higher : fuel ≤ fuel')
    (read : body fuel depth inProcedure ends s = .ok result) :
    body fuel' depth inProcedure ends s = .ok result :=
  ((bodiesGrow higher).body depth inProcedure ends).keeps s result read

end CatalogFeeds.Template.Parse
