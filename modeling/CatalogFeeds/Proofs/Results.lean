import Mathlib.Data.List.Forall2
/-!
Results of steps that may fail.

A result is looked at through what it means for it to be `ok`, or an error. `bind_eq_ok_iff` and
`bind_eq_error_iff` take two steps apart; `mapM_eq_ok_iff` says what many steps beside each other
come to, `exists_of_foldlM_error` where steps one after another fail, and `foldlM_congr` when two
runs of them are the same.
-/

namespace CatalogFeeds

variable {ε ε' α β : Type}

section Single

variable {result : Except ε α}

theorem toOption_eq_some_iff {a : α} : result.toOption = some a ↔ result = .ok a := by
  cases result <;> simp [Except.toOption]

theorem map_eq_ok_iff {f : α → β} {b : β} :
    result.map f = .ok b ↔ ∃ a, result = .ok a ∧ f a = b := by
  cases result <;> simp [Except.map]

theorem mapError_eq_ok_iff {f : ε → ε'} {a : α} :
    result.mapError f = .ok a ↔ result = .ok a := by
  cases result <;> simp [Except.mapError]

theorem bind_eq_ok_iff {next : α → Except ε β} {b : β} :
    result >>= next = .ok b ↔ ∃ a, result = .ok a ∧ next a = .ok b := by
  cases result <;> simp [bind, Except.bind]

theorem throw_ne_ok {error : ε} {a : α} : (throw error : Except ε α) ≠ .ok a := by
  simp [throw, throwThe, MonadExceptOf.throw]

theorem map_eq_error_iff {f : α → β} {error : ε} :
    result.map f = .error error ↔ result = .error error := by
  cases result <;> simp [Except.map]

theorem mapError_eq_error_iff {f : ε → ε'} {error : ε'} :
    result.mapError f = .error error ↔ ∃ own, result = .error own ∧ f own = error := by
  cases result <;> simp [Except.mapError]

theorem bind_eq_error_iff {next : α → Except ε β} {error : ε} :
    result >>= next = .error error ↔
      result = .error error ∨ ∃ a, result = .ok a ∧ next a = .error error := by
  cases result <;> simp [bind, Except.bind]

/-- A check is passed exactly if its condition does not hold. -/
theorem guard_eq_ok_iff {c : Prop} [Decidable c] {error : ε} {next : Except ε α} {a : α} :
    (if c then (do throw error; next) else next) = .ok a ↔ ¬ c ∧ next = .ok a := by
  by_cases holds : c
  · simp [holds, throw, throwThe, MonadExceptOf.throw, bind, Except.bind]
  · simp [holds]

end Single

section Lists

variable {step : α → Except ε β} {items : List α}

/-- Steps beside each other succeed exactly if each of them does. -/
theorem mapM_eq_ok_iff {results : List β} :
    items.mapM step = .ok results ↔
      List.Forall₂ (fun item result => step item = .ok result) items results := by
  induction items generalizing results with
  | nil => cases results <;> simp [pure, Except.pure]
  | cons item items ih =>
    simp only [List.mapM_cons, bind_eq_ok_iff, List.forall₂_cons_left_iff, ih, pure, Except.pure,
      Except.ok.injEq]
    constructor
    · rintro ⟨result, first, others, rest, rfl⟩
      exact ⟨result, others, first, rest, rfl⟩
    · rintro ⟨result, others, first, rest, rfl⟩
      exact ⟨result, first, others, rest, rfl⟩

theorem exists_of_mem_mapM {results : List β} (h : items.mapM step = .ok results) {result : β}
    (mem : result ∈ results) : ∃ item ∈ items, step item = .ok result := by
  have all := mapM_eq_ok_iff.mp h
  clear h
  induction all with
  | nil => simp at mem
  | @cons item other items others first _ ih =>
    rcases List.mem_cons.mp mem with rfl | later
    · exact ⟨item, List.mem_cons_self, first⟩
    · obtain ⟨found, inside, step⟩ := ih later
      exact ⟨found, List.mem_cons_of_mem item inside, step⟩

theorem exists_mapM_ok_iff :
    (∃ results, items.mapM step = .ok results) ↔ ∀ item ∈ items, ∃ result, step item = .ok result := by
  simp only [mapM_eq_ok_iff]
  induction items with
  | nil => simp
  | cons item items ih =>
    rw [List.forall_mem_cons, ← ih]
    constructor
    · rintro ⟨_, first | ⟨first, later⟩⟩
      exact ⟨⟨_, first⟩, _, later⟩
    · rintro ⟨⟨result, first⟩, results, later⟩
      exact ⟨result :: results, .cons first later⟩

/-- Steps one after another fail only where one of them does. -/
theorem exists_of_foldlM_error {step : β → α → Except ε β} {start : β} {error : ε}
    (h : items.foldlM step start = .error error) :
    ∃ item ∈ items, ∃ state, step state item = .error error := by
  induction items generalizing start with
  | nil => cases h
  | cons item items ih =>
    rw [List.foldlM_cons] at h
    rcases bind_eq_error_iff.mp h with failed | ⟨state, -, later⟩
    · exact ⟨item, List.mem_cons_self, start, failed⟩
    · obtain ⟨other, mem, failed⟩ := ih later
      exact ⟨other, List.mem_cons_of_mem item mem, failed⟩

end Lists

/-- What holds of the results of each item holds of the results of all items, in their order. -/
theorem forall₂_of_common {γ : Type} {items : List α} {first : List β} {second : List γ}
    {R : α → β → Prop} {S : α → γ → Prop} {T : β → γ → Prop}
    (left : List.Forall₂ R items first) (right : List.Forall₂ S items second)
    (joined : ∀ item ∈ items, ∀ b c, R item b → S item c → T b c) :
    List.Forall₂ T first second := by
  induction left generalizing second with
  | nil =>
    obtain rfl := List.forall₂_nil_left_iff.mp right
    exact .nil
  | cons own _ ih =>
    obtain ⟨c, others, other, later, rfl⟩ := List.forall₂_cons_left_iff.mp right
    rw [List.forall_mem_cons] at joined
    exact .cons (joined.1 _ _ own other) (ih later joined.2)

/-- Items that give the same one by one give the same list. -/
theorem filterMap_eq_of_forall₂ {γ δ : Type} {items : List α} {others : List γ} {f : α → Option δ}
    {g : γ → Option δ} (same : List.Forall₂ (fun a c => f a = g c) items others) :
    items.filterMap f = others.filterMap g := by
  induction same with
  | nil => rfl
  | cons first _ ih => simp only [List.filterMap_cons, first, ih]

/-- Steps that do the same one by one do the same one after another. -/
theorem foldlM_congr {γ : Type} {step : β → α → Except ε β} {other : β → γ → Except ε β}
    {items : List α} {others : List γ}
    (same : List.Forall₂ (fun a c => ∀ state, step state a = other state c) items others)
    (state : β) : items.foldlM step state = others.foldlM other state := by
  induction same generalizing state with
  | nil => rfl
  | cons first _ ih => simp only [List.foldlM_cons, first, ih]

end CatalogFeeds
