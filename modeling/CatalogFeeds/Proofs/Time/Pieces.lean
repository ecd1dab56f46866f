import CatalogFeeds.Proofs.Results
import CatalogFeeds.Proofs.Text.Digits
import CatalogFeeds.Time.Reader
import Mathlib.Data.List.TakeWhile
/-!
The pieces that instants are written in.

Each reader of a piece is described by the pieces that it takes and by what has to follow them, so
that it does not take more (`Scan.Reads`).

* `number_reads`, `numberWithin_reads` — numbers.
* `fraction_reads` — fractions of a second.
* `numericOffset_sound`, `numericOffset_complete`, `offset_reads` — offsets.
* `skipBlanks_append`, `exists_skipBlanks` — blanks.
-/

namespace CatalogFeeds.Time

open CatalogFeeds.Text

variable {α : Type} {cs ds rest : List Char} {n least : Nat} {most : Option Nat}

/-! ### Readers -/

/-- Nothing follows that satisfies a test. -/
abbrev Stops (p : Char → Bool) (rest : List Char) : Prop :=
  rest.head?.any p = false

@[simp] theorem stops_nil (p : Char → Bool) : Stops p [] :=
  rfl

@[simp] theorem stops_cons {p : Char → Bool} {c : Char} : Stops p (c :: rest) ↔ p c = false := by
  simp [Stops]

/-- What a reader takes: certain pieces and nothing else, if what follows lets it stop. -/
structure Scan.Reads (scan : Scan α) (piece : List Char → α → Prop) (stops : List Char → Prop) :
    Prop where
  sound : ∀ {cs rest a}, scan cs = .ok (a, rest) → ∃ front, cs = front ++ rest ∧ piece front a
  complete : ∀ {front rest a}, piece front a → stops rest → scan (front ++ rest) = .ok (a, rest)

/-- A piece may be the last one. -/
theorem Scan.Reads.complete_nil {scan : Scan α} {piece : List Char → α → Prop}
    {stops : List Char → Prop} {front : List Char} {a : α} (reads : scan.Reads piece stops)
    (own : piece front a) (ends : stops []) : scan front = .ok (a, []) := by
  have read := reads.complete own ends
  rwa [List.append_nil] at read

/-! ### Numbers -/

/-- A number of so many digits. -/
structure IsNumber (least : Nat) (most : Option Nat) (ds : List Char) (n : Nat) : Prop where
  digits : ∀ d ∈ ds, isDigit d = true
  least : least ≤ ds.length
  most : ∀ bound, most = some bound → ds.length ≤ bound
  value : Nat.ofDigitChars 10 ds 0 = n

/-- A character takes up at least one byte. -/
theorem length_le_byteLength (cs : List Char) : cs.length ≤ byteLength cs := by
  have counted : ∀ start, start + cs.length ≤ cs.foldl (fun n c => n + c.utf8Size) start := by
    induction cs with
    | nil => simp
    | cons c cs ih =>
      intro start
      have size := Char.utf8Size_pos c
      have later := ih (start + c.utf8Size)
      rw [List.foldl_cons, List.length_cons]
      omega
  simpa [byteLength] using counted 0

/-- The digits that a number is read from. -/
def digitRun (most : Option Nat) (cs : List Char) : List Char :=
  match most with
  | some most => (cs.takeWhile isDigit).take most
  | none => cs.takeWhile isDigit

theorem takeWhile_front (cs : List Char) : cs.takeWhile isDigit <+: cs :=
  List.takeWhile_prefix isDigit

theorem digitRun_front (most : Option Nat) (cs : List Char) :
    digitRun most cs <+: cs.takeWhile isDigit := by
  cases most with
  | none => exact List.prefix_refl _
  | some most => exact List.take_prefix most _

theorem number_eq_ok_iff : number least most cs = .ok (n, rest) ↔
    least ≤ (digitRun most cs).length ∧ ofDigits (digitRun most cs) = n ∧
      n < Number.signedLimit ∧ rest = cs.drop (digitRun most cs).length := by
  have run : (digitRun most cs).length ≤ byteLength cs :=
    ((digitRun_front most cs).trans (takeWhile_front cs)).length_le.trans (length_le_byteLength cs)
  unfold number
  change (if byteLength cs < least then _ else
    if (digitRun most cs).length < least then _ else
      if ofDigits (digitRun most cs) ≥ Number.signedLimit then _ else
        Except.ok (ofDigits (digitRun most cs), cs.drop (digitRun most cs).length)) = _ ↔ _
  by_cases few : (digitRun most cs).length < least
  · have more : ¬ least ≤ (digitRun most cs).length := by omega
    simp only [few, if_true, more, false_and, iff_false]
    split <;> simp
  rw [if_neg (by omega), if_neg few]
  by_cases large : ofDigits (digitRun most cs) ≥ Number.signedLimit
  · rw [if_pos large]
    simp only [reduceCtorEq, false_iff]
    rintro ⟨-, rfl, small, -⟩
    omega
  · rw [if_neg large, Except.ok.injEq, Prod.mk.injEq]
    constructor
    · rintro ⟨rfl, rfl⟩
      exact ⟨by omega, rfl, by omega, rfl⟩
    · rintro ⟨-, rfl, -, rfl⟩
      exact ⟨rfl, rfl⟩

theorem takeWhile_of_stops {p : Char → Bool} (stops : Stops p rest) : rest.takeWhile p = [] := by
  cases rest with
  | nil => rfl
  | cons c rest => exact List.takeWhile_cons_of_neg (by simpa using stops)

theorem dropWhile_of_stops {p : Char → Bool} (stops : Stops p rest) : rest.dropWhile p = rest := by
  cases rest with
  | nil => rfl
  | cons c rest => exact List.dropWhile_cons_of_neg (by simpa using stops)

theorem digitRun_append (digits : ∀ d ∈ ds, isDigit d = true)
    (fits : ∀ bound, most = some bound → ds.length ≤ bound)
    (stops : most = some ds.length ∨ Stops isDigit rest) : digitRun most (ds ++ rest) = ds := by
  rcases stops with rfl | stops
  · rw [digitRun, List.takeWhile_append_of_pos digits, List.take_left]
  · have run : (ds ++ rest).takeWhile isDigit = ds := by
      rw [List.takeWhile_append_of_pos digits, takeWhile_of_stops stops, List.append_nil]
    cases most with
    | none => exact run
    | some bound => rw [digitRun, run, List.take_of_length_le (fits bound rfl)]

theorem toNat_of_isLetter {c : Char} (letter : isLetter c = true) :
    97 ≤ c.toNat ∧ c.toNat ≤ 122 ∨ 65 ≤ c.toNat ∧ c.toNat ≤ 90 := by
  simp only [isLetter, Bool.or_eq_true, Bool.and_eq_true, decide_eq_true_eq] at letter
  exact letter

theorem not_isBlank_of_isLetter {c : Char} (letter : isLetter c = true) : isBlank c = false := by
  have bounds := toNat_of_isLetter letter
  simp only [isBlank, Bool.or_eq_false_iff, Bool.and_eq_false_iff, decide_eq_false_iff_not,
    beq_eq_false_iff_ne]
  omega

theorem not_isDigit_of_isBlank {c : Char} (blank : isBlank c = true) : isDigit c = false := by
  by_contra digit
  simp [not_isBlank_of_isDigit (by simpa using digit)] at blank

theorem not_isLetter_of_isDigit {d : Char} (digit : isDigit d = true) : isLetter d = false := by
  have bounds := toNat_of_isDigit digit
  cases letter : isLetter d with
  | false => rfl
  | true =>
    have bounds' := toNat_of_isLetter letter
    omega

/-- What follows stops a reader if it begins with something that does. -/
theorem stops_append {p : Char → Bool} {front : List Char} (filled : front ≠ [])
    (none : ∀ c ∈ front, p c = false) (rest : List Char) : Stops p (front ++ rest) := by
  obtain ⟨c, front, rfl⟩ := List.exists_cons_of_ne_nil filled
  simpa using none c List.mem_cons_self

theorem IsNumber.stops {p : Char → Bool} (own : IsNumber least most ds n) (filled : 0 < least)
    (none : ∀ d, isDigit d = true → p d = false) (rest : List Char) : Stops p (ds ++ rest) := by
  have enough := own.least
  refine stops_append ?_ (fun d mem => none d (own.digits d mem)) rest
  rintro rfl
  exact absurd enough (by simp; omega)

/-- **A number** is read up to the longest that is wanted, or up to the end of its digits. -/
theorem number_reads (least : Nat) (most : Option Nat) :
    (number least most).Reads (fun ds n => IsNumber least most ds n ∧ n < Number.signedLimit)
      fun rest => most = some least ∨ Stops isDigit rest where
  sound := by
    intro cs rest n h
    obtain ⟨enough, value, small, rfl⟩ := number_eq_ok_iff.mp h
    have front := (digitRun_front most cs).trans (takeWhile_front cs)
    refine ⟨digitRun most cs, (List.prefix_iff_eq_append.mp front).symm,
      ⟨?_, enough, ?_, by rw [← ofDigits_eq, value]⟩, small⟩
    · intro d mem
      exact List.mem_takeWhile_imp ((digitRun_front most cs).subset mem)
    · rintro bound rfl
      exact List.length_take_le bound _
  complete := by
    rintro ds rest n ⟨own, small⟩ stops
    have stops : most = some ds.length ∨ Stops isDigit rest := by
      refine stops.imp_left fun fixed => ?_
      have bound := own.most least fixed
      have enough := own.least
      rw [fixed, Nat.le_antisymm bound enough]
    rw [number_eq_ok_iff, digitRun_append own.digits own.most stops, ofDigits_eq]
    exact ⟨own.least, own.value, small, by simp⟩

theorem numberWithin_reads (least : Nat) (most : Option Nat) (low : Nat) {high : Nat}
    (small : high < Number.signedLimit) :
    (numberWithin least most low high).Reads
      (fun ds n => IsNumber least most ds n ∧ low ≤ n ∧ n ≤ high)
      fun rest => most = some least ∨ Stops isDigit rest where
  sound := by
    intro cs rest n h
    obtain ⟨⟨value, left⟩, read, h⟩ := bind_eq_ok_iff.mp h
    simp only at h
    by_cases inside : low ≤ value ∧ value ≤ high
    · rw [if_pos (by simpa using inside)] at h
      obtain ⟨rfl, rfl⟩ := Prod.mk.inj (Except.ok.inj h)
      obtain ⟨front, whole, own, -⟩ := (number_reads least most).sound read
      exact ⟨front, whole, own, inside⟩
    · rw [if_neg (by simpa using inside)] at h
      exact absurd h throw_ne_ok
  complete := by
    rintro ds rest n ⟨own, inside⟩ stops
    have read := (number_reads least most).complete ⟨own, inside.2.trans_lt small⟩ stops
    simp only [numberWithin, read, bind, Except.bind]
    rw [if_pos (by simpa using inside)]
    rfl

/-- A field of two digits is read, whatever follows. -/
theorem field_complete {low high : Nat} (own : IsNumber 2 (some 2) ds n) (least : low ≤ n)
    (most : n ≤ high) (small : high < Number.signedLimit) (rest : List Char) :
    numberWithin 2 (some 2) low high (ds ++ rest) = .ok (n, rest) :=
  (numberWithin_reads 2 (some 2) low small).complete ⟨own, least, most⟩ (.inl rfl)

/-! ### Separators and blanks -/

theorem character_eq_ok_iff {expected : Char} :
    character expected cs = .ok rest ↔ cs = expected :: rest := by
  cases cs with
  | nil => simp [character]
  | cons c cs =>
    by_cases same : c = expected
    · simp [character, same]
    · simp [character, same]

theorem character_cons (expected : Char) (rest : List Char) :
    character expected (expected :: rest) = .ok rest :=
  character_eq_ok_iff.mpr rfl

theorem dateTimeSeparator_eq_ok_iff : dateTimeSeparator cs = .ok rest ↔
    ∃ c, (c = 'T' ∨ c = 't' ∨ c = ' ') ∧ cs = c :: rest := by
  cases cs with
  | nil => simp [dateTimeSeparator]
  | cons c cs =>
    by_cases fits : c = 'T' ∨ c = 't' ∨ c = ' '
    · have passed : (c == 'T' || c == 't' || c == ' ') = true := by simpa [or_assoc] using fits
      simp only [dateTimeSeparator, passed, if_true, Except.ok.injEq, List.cons.injEq]
      exact ⟨fun same => ⟨c, fits, rfl, same⟩, fun ⟨_, _, _, same⟩ => same⟩
    · have refused : ¬ (c == 'T' || c == 't' || c == ' ') = true := by simpa [or_assoc] using fits
      simp only [dateTimeSeparator, if_neg refused, reduceCtorEq, List.cons.injEq, false_iff]
      rintro ⟨_, kind, rfl, -⟩
      exact fits kind

/-- Blanks and nothing else. -/
abbrev IsGap (gap : List Char) : Prop :=
  ∀ c ∈ gap, isBlank c = true

/-- Blanks, of which there is at least one. -/
abbrev IsSpace (gap : List Char) : Prop :=
  IsGap gap ∧ gap ≠ []

theorem IsSpace.stops_isDigit {gap : List Char} (space : IsSpace gap) (rest : List Char) :
    Stops isDigit (gap ++ rest) :=
  stops_append space.2 (fun c mem => not_isDigit_of_isBlank (space.1 c mem)) rest

theorem skipBlanks_append {gap : List Char} (blank : IsGap gap) (stops : Stops isBlank rest) :
    skipBlanks (gap ++ rest) = rest := by
  rw [skipBlanks, List.dropWhile_append_of_pos blank, dropWhile_of_stops stops]

theorem exists_skipBlanks (cs : List Char) : ∃ gap, cs = gap ++ skipBlanks cs ∧ IsGap gap :=
  ⟨cs.takeWhile isBlank, List.takeWhile_append_dropWhile.symm,
    fun _ mem => List.mem_takeWhile_imp mem⟩

theorem blanks_sound (h : blanks cs = .ok rest) :
    ∃ gap, cs = gap ++ rest ∧ IsSpace gap := by
  cases cs with
  | nil => simp [blanks] at h
  | cons c cs =>
    by_cases blank : isBlank c = true
    · simp only [blanks, blank, if_true, Except.ok.injEq] at h
      obtain ⟨gap, whole, all⟩ := exists_skipBlanks cs
      rw [h] at whole
      exact ⟨c :: gap, by rw [whole, List.cons_append], List.forall_mem_cons.mpr ⟨blank, all⟩,
        List.cons_ne_nil c gap⟩
    · simp [blanks, blank] at h

theorem blanks_complete {gap : List Char} (space : IsSpace gap) (stops : Stops isBlank rest) :
    blanks (gap ++ rest) = .ok rest := by
  obtain ⟨blank, filled⟩ := space
  obtain ⟨c, gap, rfl⟩ := List.exists_cons_of_ne_nil filled
  obtain ⟨first, later⟩ := List.forall_mem_cons.mp blank
  rw [List.cons_append, blanks, if_pos first, skipBlanks_append later stops]

theorem looseCharacter_sound {expected : Char} (h : looseCharacter expected cs = .ok rest) :
    ∃ gap, cs = gap ++ expected :: rest ∧ IsGap gap := by
  obtain ⟨gap, whole, blank⟩ := exists_skipBlanks cs
  rw [character_eq_ok_iff.mp h] at whole
  exact ⟨gap, whole, blank⟩

theorem looseCharacter_complete {expected : Char} {gap : List Char} (blank : IsGap gap)
    (visible : isBlank expected = false) (rest : List Char) :
    looseCharacter expected (gap ++ expected :: rest) = .ok rest := by
  rw [looseCharacter, skipBlanks_append blank (by simpa using visible), character_cons]

/-- What a reader takes behind blanks. -/
theorem Scan.Reads.sound_loose {scan : Scan α} {piece : List Char → α → Prop}
    {stops : List Char → Prop} {a : α} (reads : scan.Reads piece stops)
    (h : scan (skipBlanks cs) = .ok (a, rest)) :
    ∃ gap front, cs = gap ++ (front ++ rest) ∧ IsGap gap ∧ piece front a := by
  obtain ⟨gap, whole, blank⟩ := exists_skipBlanks cs
  obtain ⟨front, start, own⟩ := reads.sound h
  rw [start] at whole
  exact ⟨gap, front, whole, blank, own⟩

/-! ### Fractions -/

/-- A fraction of a second in whole nanoseconds, if there is one. -/
inductive IsFraction : List Char → Nat → Prop
  | none : IsFraction [] 0
  | digits {ds : List Char} {n : Nat} (own : IsNumber 1 none ds n) :
    IsFraction ('.' :: ds) (n * Number.tenTo 9 / Number.tenTo ds.length)

theorem tenTo_add (a b : Nat) : Number.tenTo (a + b) = Number.tenTo a * Number.tenTo b :=
  Nat.pow_add 10 a b

theorem tenTo_pos (a : Nat) : 0 < Number.tenTo a :=
  Nat.pow_pos (by decide)

theorem ofDigitChars_append (front back : List Char) :
    Nat.ofDigitChars 10 (front ++ back) 0 =
      Number.tenTo back.length * Nat.ofDigitChars 10 front 0 + Nat.ofDigitChars 10 back 0 := by
  rw [Nat.ofDigitChars_append, Nat.ofDigitChars_eq_ofDigitChars_zero]
  rfl

/-- A number of so many digits is less than the power of ten. -/
theorem ofDigitChars_lt (digits : ∀ d ∈ ds, isDigit d = true) :
    Nat.ofDigitChars 10 ds 0 < Number.tenTo ds.length := by
  induction ds with
  | nil => decide
  | cons d ds ih =>
    obtain ⟨first, later⟩ := List.forall_mem_cons.mp digits
    have digit := toNat_of_isDigit first
    have small : d.toNat - '0'.toNat ≤ 9 := by
      have zero : '0'.toNat = 48 := by decide
      omega
    have rest := ih later
    calc Nat.ofDigitChars 10 ([d] ++ ds) 0
        = Number.tenTo ds.length * (d.toNat - '0'.toNat) + Nat.ofDigitChars 10 ds 0 := by
          rw [ofDigitChars_append, Nat.ofDigitChars_cons, Nat.ofDigitChars_nil, Nat.mul_zero,
            Nat.zero_add]
      _ < Number.tenTo ds.length * 9 + Number.tenTo ds.length := by
          have most := Nat.mul_le_mul_left (Number.tenTo ds.length) small
          omega
      _ = Number.tenTo (d :: ds).length := by
          rw [List.length_cons, tenTo_add]
          rfl

theorem IsNumber.lt (own : IsNumber least most ds n) : n < Number.tenTo ds.length :=
  own.value ▸ ofDigitChars_lt own.digits

theorem IsNumber.lt_of_most {bound : Nat} (own : IsNumber least (some bound) ds n) :
    n < Number.tenTo bound :=
  own.lt.trans_le (Nat.pow_le_pow_right (by decide) (own.most bound rfl))

/-- A fraction is less than a second. -/
theorem IsFraction.lt (h : IsFraction cs n) : n < 1000000000 := by
  cases h with
  | none => decide
  | digits own =>
    rw [Nat.div_lt_iff_lt_mul (tenTo_pos _), Nat.mul_comm]
    exact Nat.mul_lt_mul_of_pos_left own.lt (by decide)

/-- A fraction ends the digits in front of it. -/
theorem IsFraction.stops (h : IsFraction cs n) (stops : Stops isDigit rest) :
    Stops isDigit (cs ++ rest) := by
  cases h with
  | none => exact stops
  | digits => rfl

/-- **Nanoseconds** are the first nine digits of a fraction, filled up with zeros. -/
theorem ofDigitChars_take_nine (digits : ∀ d ∈ ds, isDigit d = true) :
    Nat.ofDigitChars 10 (ds.take 9) 0 * Number.tenTo (9 - min ds.length 9) =
      Nat.ofDigitChars 10 ds 0 * Number.tenTo 9 / Number.tenTo ds.length := by
  by_cases short : ds.length ≤ 9
  · have split : Number.tenTo 9 = Number.tenTo (9 - ds.length) * Number.tenTo ds.length := by
      rw [← tenTo_add, Nat.sub_add_cancel short]
    rw [List.take_of_length_le short, Nat.min_eq_left short, split, ← Nat.mul_assoc,
      Nat.mul_div_cancel _ (tenTo_pos _)]
  · have dropped : (ds.drop 9).length = ds.length - 9 := List.length_drop
    have later : ∀ d ∈ ds.drop 9, isDigit d = true :=
      fun d mem => digits d (List.mem_of_mem_drop mem)
    have small := ofDigitChars_lt later
    have whole : Nat.ofDigitChars 10 ds 0 =
        Number.tenTo (ds.drop 9).length * Nat.ofDigitChars 10 (ds.take 9) 0 +
          Nat.ofDigitChars 10 (ds.drop 9) 0 := by
      rw [← ofDigitChars_append, List.take_append_drop]
    have split : Number.tenTo ds.length = Number.tenTo (ds.drop 9).length * Number.tenTo 9 := by
      rw [← tenTo_add, dropped, Nat.sub_add_cancel (by omega)]
    rw [Nat.min_eq_right (by omega), split, Nat.mul_div_mul_right _ _ (tenTo_pos 9), whole,
      Nat.mul_add_div (tenTo_pos _), Nat.div_eq_of_lt small]
    simp

theorem nanoseconds_eq (cs : List Char) :
    nanoseconds cs = (number 1 (some 9) cs).map fun (value, rest) =>
      (value * Number.tenTo (9 - min (cs.takeWhile isDigit).length 9), rest.dropWhile isDigit) := by
  unfold nanoseconds
  cases number 1 (some 9) cs <;> rfl

theorem dropWhile_drop {p : Char → Bool} {count : Nat}
    (within : count ≤ (cs.takeWhile p).length) : (cs.drop count).dropWhile p = cs.dropWhile p := by
  induction cs generalizing count with
  | nil => simp
  | cons c cs ih =>
    cases count with
    | zero => rfl
    | succ count =>
      by_cases own : p c = true
      · rw [List.takeWhile_cons_of_pos own, List.length_cons] at within
        rw [List.drop_succ_cons, List.dropWhile_cons_of_pos own, ih (by omega)]
      · rw [List.takeWhile_cons_of_neg own] at within
        simp at within

theorem nanoseconds_reads : nanoseconds.Reads
    (fun ds n => ∃ m, IsNumber 1 none ds m ∧ n = m * Number.tenTo 9 / Number.tenTo ds.length)
    (Stops isDigit) where
  sound := by
    intro cs rest n h
    rw [nanoseconds_eq] at h
    obtain ⟨⟨m, left⟩, read, same⟩ := map_eq_ok_iff.mp h
    obtain ⟨rfl, rfl⟩ := Prod.mk.inj same
    obtain ⟨enough, rfl, -, rfl⟩ := number_eq_ok_iff.mp read
    have digits : ∀ d ∈ cs.takeWhile isDigit, isDigit d = true :=
      fun d mem => List.mem_takeWhile_imp mem
    have within := (digitRun_front (some 9) cs).length_le
    refine ⟨cs.takeWhile isDigit, ?_, _, ⟨digits, by omega, by simp, rfl⟩, ?_⟩
    · rw [dropWhile_drop within, List.takeWhile_append_dropWhile]
    · rw [ofDigits_eq, digitRun, ofDigitChars_take_nine digits]
  complete := by
    rintro ds rest n ⟨m, own, rfl⟩ stops
    have run : (ds ++ rest).takeWhile isDigit = ds := by
      rw [List.takeWhile_append_of_pos own.digits, takeWhile_of_stops stops, List.append_nil]
    have small : ofDigits (ds.take 9) < Number.signedLimit := by
      have first : ∀ d ∈ ds.take 9, isDigit d = true :=
        fun d mem => own.digits d (List.mem_of_mem_take mem)
      have bound := ofDigitChars_lt first
      rw [← ofDigits_eq] at bound
      refine bound.trans_le ((Nat.pow_le_pow_right (by decide) (List.length_take_le 9 ds)).trans ?_)
      decide
    have read : number 1 (some 9) (ds ++ rest) =
        .ok (ofDigits (ds.take 9), (ds ++ rest).drop (ds.take 9).length) := by
      have enough := own.least
      rw [number_eq_ok_iff, digitRun, run]
      exact ⟨by rw [List.length_take]; omega, rfl, small, rfl⟩
    have within : (ds.take 9).length ≤ ((ds ++ rest).takeWhile isDigit).length := by
      rw [run, List.length_take]
      omega
    rw [nanoseconds_eq, read, run]
    simp only [Except.map]
    rw [dropWhile_drop within, List.dropWhile_append_of_pos own.digits, dropWhile_of_stops stops,
      ofDigits_eq, ofDigitChars_take_nine own.digits, own.value]

theorem fraction_reads : Scan.Reads fraction IsFraction
    fun rest => Stops isDigit rest ∧ Stops (· == '.') rest where
  sound := by
    intro cs rest n h
    unfold fraction at h
    split at h
    · rename_i ds
      obtain ⟨front, rfl, m, own, rfl⟩ := nanoseconds_reads.sound h
      exact ⟨'.' :: front, rfl, .digits own⟩
    · obtain ⟨rfl, rfl⟩ := Prod.mk.inj (Except.ok.inj h)
      exact ⟨[], rfl, .none⟩
  complete := by
    rintro front rest n own ⟨digits, point⟩
    cases own with
    | none =>
      unfold fraction
      split
      · rename_i whole
        rw [List.nil_append] at whole
        simp [whole] at point
      · rfl
    | digits own => exact nanoseconds_reads.complete ⟨_, own, rfl⟩ digits

/-! ### Offsets -/

theorem IsNumber.exists_two {n : Nat} (own : IsNumber 2 (some 2) ds n) :
    ∃ a b, ds = [a, b] ∧ isDigit a = true ∧ isDigit b = true ∧
      n = 10 * digitValue a + digitValue b := by
  have length : ds.length = 2 := Nat.le_antisymm (own.most 2 rfl) own.least
  obtain ⟨a, b, rfl⟩ := List.length_eq_two.mp length
  refine ⟨a, b, rfl, own.digits a (by simp), own.digits b (by simp), ?_⟩
  rw [← own.value, ← ofDigits_eq]
  simp [ofDigits]

theorem twoDigits_reads : twoDigits.Reads (IsNumber 2 (some 2)) fun _ => True where
  sound := by
    intro cs rest n h
    unfold twoDigits at h
    split at h
    · simp at h
    split at h
    · rename_i a b left _
      by_cases digits : isDigit a = true ∧ isDigit b = true
      · rw [if_pos (by simpa using digits)] at h
        obtain ⟨rfl, rfl⟩ := Prod.mk.inj (Except.ok.inj h)
        refine ⟨[a, b], rfl, by simpa using digits, by simp, by simp, ?_⟩
        rw [← ofDigits_eq]
        simp [ofDigits]
      · rw [if_neg (by simpa using digits)] at h
        simp at h
    · simp at h
  complete := by
    rintro ds rest n own -
    obtain ⟨a, b, rfl, first, second, rfl⟩ := own.exists_two
    have size := length_le_byteLength ([a, b] ++ rest)
    simp only [List.length_append, List.length_cons, List.length_nil] at size
    unfold twoDigits
    rw [if_neg (by omega)]
    simp [first, second]

/-- An offset in seconds, with one of some signs for the west, and something between hours and
minutes. -/
inductive IsOffset (west : List Char) (between : List Char) : List Char → Int → Prop
  | east {hh mm : List Char} {hours minutes : Nat} (hour : IsNumber 2 (some 2) hh hours)
    (minute : IsNumber 2 (some 2) mm minutes) (most : minutes ≤ 59) :
    IsOffset west between ('+' :: (hh ++ (between ++ mm))) (hours * 3600 + minutes * 60)
  | west {sign : Char} {hh mm : List Char} {hours minutes : Nat} (known : sign ∈ west)
    (hour : IsNumber 2 (some 2) hh hours) (minute : IsNumber 2 (some 2) mm minutes)
    (most : minutes ≤ 59) :
    IsOffset west between (sign :: (hh ++ (between ++ mm))) (-(hours * 3600 + minutes * 60))

/-- Offsets are whole minutes. -/
theorem IsOffset.minutes {west between : List Char} {shift : Int}
    (h : IsOffset west between cs shift) : shift % 60 = 0 := by
  cases h <;> omega

/-- The signs for the west. -/
def westSigns (mathematical : Bool) : List Char :=
  if mathematical then ['-', minusSign] else ['-']

/-- An offset begins with a sign. -/
theorem IsOffset.exists_sign {west between : List Char} {shift : Int}
    (h : IsOffset west between cs shift) : ∃ c tail, cs = c :: tail ∧ c ∈ '+' :: west := by
  cases h with
  | east => exact ⟨_, _, rfl, List.mem_cons_self⟩
  | west known => exact ⟨_, _, rfl, List.mem_cons_of_mem _ known⟩

theorem offsetSign_eq_ok_iff {mathematical negative : Bool} :
    offsetSign mathematical cs = .ok (negative, rest) ↔
      negative = false ∧ cs = '+' :: rest ∨
        negative = true ∧ ∃ sign ∈ westSigns mathematical, cs = sign :: rest := by
  cases cs with
  | nil => simp [offsetSign]
  | cons c cs =>
    have signs : (c = '-' ∨ mathematical = true ∧ c = minusSign) ↔ c ∈ westSigns mathematical := by
      cases mathematical <;> simp [westSigns]
    rw [offsetSign]
    by_cases plus : c = '+'
    · subst plus
      have other : '+' ∉ westSigns mathematical := by cases mathematical <;> decide
      simp only [beq_self_eq_true, if_true, Except.ok.injEq, Prod.mk.injEq, List.cons.injEq]
      constructor
      · rintro ⟨rfl, rfl⟩
        exact .inl ⟨rfl, trivial, rfl⟩
      · rintro (⟨rfl, -, rfl⟩ | ⟨-, sign, known, rfl, -⟩)
        · exact ⟨rfl, rfl⟩
        · exact absurd known other
    · have known : (c == '-' || (mathematical && c == minusSign)) = true ↔
          c ∈ westSigns mathematical := by
        simpa using signs
      rw [if_neg (by simpa using plus)]
      by_cases west : c ∈ westSigns mathematical
      · rw [if_pos (known.mpr west)]
        simp [plus, west, eq_comm]
      · rw [if_neg (mt known.mp west)]
        simp [plus, west]

variable {mathematical : Bool} {separator : List Char → Except TimeError (List Char)}
  {between front : List Char} {shift : Int}

theorem numericOffset_sound (skips : ∀ {cs rest}, separator cs = .ok rest → cs = between ++ rest)
    (h : numericOffset mathematical separator cs = .ok (shift, rest)) :
    ∃ front, cs = front ++ rest ∧ IsOffset (westSigns mathematical) between front shift := by
  obtain ⟨⟨negative, cs₁⟩, signed, h₁⟩ := bind_eq_ok_iff.mp h
  obtain ⟨⟨hours, cs₂⟩, hoursRead, h₂⟩ := bind_eq_ok_iff.mp h₁
  obtain ⟨cs₃, skipped, h₃⟩ := bind_eq_ok_iff.mp h₂
  obtain ⟨⟨minutes, cs₄⟩, minutesRead, h₄⟩ := bind_eq_ok_iff.mp h₃
  simp only at h₄
  by_cases most : minutes > 59
  · rw [if_pos most] at h₄
    exact absurd h₄ throw_ne_ok
  rw [if_neg most] at h₄
  obtain ⟨rfl, rfl⟩ := Prod.mk.inj (Except.ok.inj h₄)
  obtain ⟨hh, rfl, hour⟩ := twoDigits_reads.sound hoursRead
  obtain ⟨mm, rfl, minute⟩ := twoDigits_reads.sound minutesRead
  obtain rfl := skips skipped
  rcases offsetSign_eq_ok_iff.mp signed with ⟨rfl, rfl⟩ | ⟨rfl, sign, known, rfl⟩
  · exact ⟨'+' :: (hh ++ (between ++ mm)), by simp, .east hour minute (by omega)⟩
  · exact ⟨sign :: (hh ++ (between ++ mm)), by simp, .west known hour minute (by omega)⟩

theorem numericOffset_of_sign {negative : Bool} {hh mm : List Char} {hours minutes : Nat}
    (skips : ∀ {d rest}, isDigit d = true → separator (between ++ d :: rest) = .ok (d :: rest))
    (hour : IsNumber 2 (some 2) hh hours) (minute : IsNumber 2 (some 2) mm minutes)
    (most : minutes ≤ 59)
    (signed : offsetSign mathematical cs = .ok (negative, hh ++ (between ++ (mm ++ rest)))) :
    numericOffset mathematical separator cs =
      .ok (if negative then -((hours : Int) * 3600 + minutes * 60)
        else (hours : Int) * 3600 + minutes * 60, rest) := by
  have hoursRead : twoDigits (hh ++ (between ++ (mm ++ rest))) = _ :=
    twoDigits_reads.complete hour trivial
  have skipped : separator (between ++ (mm ++ rest)) = .ok (mm ++ rest) := by
    obtain ⟨a, b, rfl, first, -⟩ := minute.exists_two
    exact skips first
  have minutesRead : twoDigits (mm ++ rest) = _ := twoDigits_reads.complete minute trivial
  simp only [numericOffset, signed, hoursRead, skipped, minutesRead, bind, Except.bind]
  rw [if_neg (by omega)]
  rfl

theorem numericOffset_complete
    (skips : ∀ {d rest}, isDigit d = true → separator (between ++ d :: rest) = .ok (d :: rest))
    (own : IsOffset (westSigns mathematical) between front shift) :
    numericOffset mathematical separator (front ++ rest) = .ok (shift, rest) := by
  cases own with
  | @east hh mm hours minutes hour minute most =>
    have signed : offsetSign mathematical ('+' :: (hh ++ (between ++ mm)) ++ rest) =
        .ok (false, hh ++ (between ++ (mm ++ rest))) :=
      offsetSign_eq_ok_iff.mpr (.inl ⟨rfl, by simp⟩)
    exact numericOffset_of_sign skips hour minute most signed
  | @west sign hh mm hours minutes known hour minute most =>
    have signed : offsetSign mathematical (sign :: (hh ++ (between ++ mm)) ++ rest) =
        .ok (true, hh ++ (between ++ (mm ++ rest))) :=
      offsetSign_eq_ok_iff.mpr (.inr ⟨rfl, sign, known, by simp⟩)
    exact numericOffset_of_sign skips hour minute most signed

/-- An offset in the strict form: `Z`, or hours and minutes with a colon between them. -/
inductive IsInternetOffset : List Char → Int → Prop
  | zulu {z : Char} (letter : z = 'Z' ∨ z = 'z') : IsInternetOffset [z] 0
  | numeric {cs : List Char} {shift : Int} (own : IsOffset (westSigns true) [':'] cs shift) :
    IsInternetOffset cs shift

/-- A strict offset ends a fraction. -/
theorem IsInternetOffset.stops (h : IsInternetOffset cs shift) :
    Stops isDigit cs ∧ Stops (· == '.') cs := by
  cases h with
  | zulu letter => rcases letter with rfl | rfl <;> decide
  | numeric own =>
    obtain ⟨c, tail, rfl, sign⟩ := own.exists_sign
    have marks : ('+' :: westSigns true).all (fun c => !isDigit c && c != '.') = true := by decide
    simpa using List.all_eq_true.mp marks c sign

theorem IsInternetOffset.minutes (h : IsInternetOffset cs shift) : shift % 60 = 0 := by
  cases h with
  | zulu => rfl
  | numeric own => exact own.minutes

theorem offset_reads : (offset (character ':')).Reads IsInternetOffset fun _ => True where
  sound := by
    intro cs rest n h
    unfold offset at h
    split at h
    · obtain ⟨rfl, rfl⟩ := Prod.mk.inj (Except.ok.inj h)
      exact ⟨['Z'], rfl, .zulu (.inl rfl)⟩
    · obtain ⟨rfl, rfl⟩ := Prod.mk.inj (Except.ok.inj h)
      exact ⟨['z'], rfl, .zulu (.inr rfl)⟩
    · have skips : ∀ {cs rest}, character ':' cs = .ok rest → cs = [':'] ++ rest :=
        character_eq_ok_iff.mp
      obtain ⟨front, whole, own⟩ := numericOffset_sound skips h
      exact ⟨front, whole, .numeric own⟩
  complete := by
    rintro front rest n own -
    cases own with
    | zulu letter => rcases letter with rfl | rfl <;> rfl
    | numeric own =>
      obtain ⟨c, tail, rfl, sign⟩ := own.exists_sign
      have skips : ∀ {d rest}, isDigit d = true →
          character ':' ([':'] ++ d :: rest) = .ok (d :: rest) :=
        fun _ => character_eq_ok_iff.mpr rfl
      unfold offset
      split
      · rename_i same
        obtain ⟨rfl, -⟩ := List.cons.inj same
        exact absurd sign (by decide)
      · rename_i same
        obtain ⟨rfl, -⟩ := List.cons.inj same
        exact absurd sign (by decide)
      · exact numericOffset_complete skips own

end CatalogFeeds.Time
