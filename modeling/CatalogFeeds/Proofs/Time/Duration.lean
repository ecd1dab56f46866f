import CatalogFeeds.Proofs.Text.Split
import CatalogFeeds.Proofs.Time.Pieces
import CatalogFeeds.Time.Duration
import Mathlib.Data.List.TakeDrop
/-!
Durations and their texts.

A text of a duration is a sum of amounts, each a number with a unit, and reading it adds them up.
Whatever is read has room in a word of seconds and less than a second of nanoseconds, and every
duration of this kind is read back from its own text.

* `isBounded_of_parse` — what is read is bounded.
* `Amount.foldlM_addTo` — what amounts add up to, as long as there is room for it.
* `readSum_amounts` — amounts that are written one behind the other are added one after the other.
* `parse_amounts` — so is a whole text of them.
* `parse_text_iff` — a duration is read back from its text exactly if it is bounded.
-/

namespace CatalogFeeds.Time

open CatalogFeeds.Text

/-- A duration that has room in a 64-bit word of seconds and less than a second of nanoseconds. -/
structure Duration.IsBounded (d : Duration) : Prop where
  seconds : d.seconds < Number.wordLimit
  nanoseconds : d.nanoseconds < 1000000000

variable {total sum d : Duration} {n m : Nat} {cs ds rest : List Char}

/-! ### What is read is bounded -/

theorem bounded_eq_ok_iff : bounded n = .ok m ↔ n < Number.wordLimit ∧ n = m := by
  unfold bounded
  by_cases fits : n < Number.wordLimit
  · simp [fits]
  · simp [fits]

theorem Duration.add_eq_ok_iff {seconds nanoseconds : Nat} :
    total.add seconds nanoseconds = .ok sum ↔
      total.nanoseconds + nanoseconds < Number.wordLimit ∧
        total.seconds + seconds + (total.nanoseconds + nanoseconds) / 1000000000 <
          Number.wordLimit ∧
        ⟨total.seconds + seconds + (total.nanoseconds + nanoseconds) / 1000000000,
          (total.nanoseconds + nanoseconds) % 1000000000⟩ = sum := by
  simp only [add, bind_eq_ok_iff, bounded_eq_ok_iff, pure, Except.pure, Except.ok.injEq]
  constructor
  · rintro ⟨_, ⟨small, rfl⟩, _, ⟨fits, rfl⟩, same⟩
    exact ⟨small, fits, same⟩
  · rintro ⟨small, fits, same⟩
    exact ⟨_, ⟨small, rfl⟩, _, ⟨fits, rfl⟩, same⟩

theorem Duration.isBounded_of_add {seconds nanoseconds : Nat}
    (h : total.add seconds nanoseconds = .ok sum) : sum.IsBounded := by
  obtain ⟨-, fits, rfl⟩ := add_eq_ok_iff.mp h
  exact ⟨fits, Nat.mod_lt _ (by decide)⟩

/-- Units are added as a whole number of them, and then as a fraction of one, if there is one. -/
theorem Duration.add_of_addUnits {fraction : Option Fraction} {unit : String}
    (h : total.addUnits n fraction unit = .ok sum) :
    ∃ before seconds nanoseconds, Duration.add before seconds nanoseconds = .ok sum := by
  unfold addUnits at h
  split at h
  · obtain ⟨amount, -, h⟩ := bind_eq_ok_iff.mp h
    cases fraction with
    | none =>
      dsimp only at h
      split at h <;>
      · obtain ⟨between, added, h⟩ := bind_eq_ok_iff.mp h
        exact ⟨_, _, _, Except.ok.inj h ▸ added⟩
    | some fraction =>
      dsimp only at h
      split at h <;>
      · obtain ⟨between, -, h⟩ := bind_eq_ok_iff.mp h
        obtain ⟨⟨seconds, nanoseconds⟩, -, added⟩ := bind_eq_ok_iff.mp h
        exact ⟨between, seconds, nanoseconds, added⟩
  · exact absurd h throw_ne_ok

theorem Duration.isBounded_of_addUnits {fraction : Option Fraction} {unit : String}
    (h : total.addUnits n fraction unit = .ok sum) : sum.IsBounded := by
  obtain ⟨before, seconds, nanoseconds, added⟩ := add_of_addUnits h
  exact isBounded_of_add added

/-- The last step of every sum adds an amount. -/
theorem isBounded_of_readSum {length fuel : Nat}
    (h : readSum length fuel total n cs = .ok sum) : sum.IsBounded := by
  induction fuel generalizing total n cs with
  | zero => simp [readSum] at h
  | succ fuel ih =>
    unfold readSum at h
    obtain ⟨⟨count, fraction, behind⟩, -, h⟩ := bind_eq_ok_iff.mp h
    dsimp only at h
    split at h
    · exact Duration.isBounded_of_addUnits h
    · split at h
      · obtain ⟨next, -, h⟩ := bind_eq_ok_iff.mp h
        exact ih h
      · split at h
        · obtain ⟨next, added, h⟩ := bind_eq_ok_iff.mp h
          obtain ⟨more, -, h⟩ := bind_eq_ok_iff.mp h
          cases more with
          | none => exact Except.ok.inj h ▸ Duration.isBounded_of_addUnits added
          | some more => exact ih h
        · exact absurd h throw_ne_ok

theorem Duration.isBounded_of_parse {text : String} (h : Duration.parse text = .ok d) :
    d.IsBounded := by
  unfold Duration.parse at h
  split at h
  · rw [← Except.ok.inj h]
    exact ⟨by decide, by decide⟩
  · obtain ⟨first, -, h⟩ := bind_eq_ok_iff.mp h
    cases first with
    | none => exact absurd h throw_ne_ok
    | some first => exact isBounded_of_readSum h

/-! ### Sums of amounts -/

theorem bounded_of_lt (fits : n < Number.wordLimit) : bounded n = .ok n :=
  bounded_eq_ok_iff.mpr ⟨fits, rfl⟩

/-- Where there is room for both parts, nothing is carried. -/
theorem Duration.add_of_room {seconds nanoseconds : Nat}
    (fits : sum.seconds + seconds < Number.wordLimit)
    (short : sum.nanoseconds + nanoseconds < 1000000000) :
    sum.add seconds nanoseconds =
      .ok ⟨sum.seconds + seconds, sum.nanoseconds + nanoseconds⟩ := by
  have wide : 1000000000 < Number.wordLimit := by decide
  rw [add_eq_ok_iff, Nat.div_eq_of_lt short, Nat.mod_eq_of_lt short]
  exact ⟨Nat.lt_trans short wide, fits, rfl⟩

/-- A unit as it is written: its spelling, and its length as a multiple of seconds or of
nanoseconds. -/
structure WrittenUnit where
  spelling : String
  length : Nat
  inSeconds : Bool

/-- A unit that is read as one of its length. -/
structure WrittenUnit.IsKnown (unit : WrittenUnit) : Prop where
  found : (timeUnits.find? (·.spellings.contains unit.spelling)).map
    (fun found => (found.length, found.inSeconds)) = some (unit.length, unit.inSeconds)
  filled : unit.spelling.toList ≠ []
  letters : ∀ c ∈ unit.spelling.toList, isUnitLetter c = true

/-- A number of units in a sum. -/
structure Amount where
  count : Nat
  unit : WrittenUnit

namespace Amount

/-- What an amount comes to in seconds, if its unit is a multiple of those. -/
def seconds (amount : Amount) : Nat :=
  if amount.unit.inSeconds then amount.count * amount.unit.length else 0

/-- What an amount comes to in nanoseconds, if its unit is a multiple of those. -/
def nanoseconds (amount : Amount) : Nat :=
  if amount.unit.inSeconds then 0 else amount.count * amount.unit.length

/-- The seconds of amounts together. -/
def secondsOf : List Amount → Nat
  | [] => 0
  | amount :: rest => amount.seconds + secondsOf rest

/-- The nanoseconds of amounts together. -/
def nanosecondsOf : List Amount → Nat
  | [] => 0
  | amount :: rest => amount.nanoseconds + nanosecondsOf rest

/-- Amounts of which there are none add nothing. -/
theorem secondsOf_filter (amounts : List Amount) :
    secondsOf (amounts.filter (0 < ·.count)) = secondsOf amounts ∧
      nanosecondsOf (amounts.filter (0 < ·.count)) = nanosecondsOf amounts := by
  induction amounts with
  | nil => exact ⟨rfl, rfl⟩
  | cons amount rest ih =>
    obtain ⟨sameSeconds, sameNanoseconds⟩ := ih
    by_cases none : amount.count = 0
    · simp [none, secondsOf, nanosecondsOf, seconds, nanoseconds, sameSeconds, sameNanoseconds]
    · have some : 0 < amount.count := Nat.pos_of_ne_zero none
      simp [some, secondsOf, nanosecondsOf, sameSeconds, sameNanoseconds]

/-- Adds an amount to a sum. -/
def addTo (sum : Duration) (amount : Amount) : Except DurationError Duration :=
  sum.addUnits amount.count none amount.unit.spelling

/-- The text of an amount. -/
def chars (amount : Amount) : List Char :=
  digits amount.count ++ amount.unit.spelling.toList

variable {amount : Amount} {amounts : List Amount}

/-- An amount is added in seconds or in nanoseconds, as far as there is room for it. -/
theorem addTo_of_room (known : amount.unit.IsKnown) {sum : Duration}
    (fits : sum.seconds + amount.seconds < Number.wordLimit)
    (short : sum.nanoseconds + amount.nanoseconds < 1000000000) :
    amount.addTo sum =
      .ok ⟨sum.seconds + amount.seconds, sum.nanoseconds + amount.nanoseconds⟩ := by
  have wide : 1000000000 < Number.wordLimit := by decide
  obtain ⟨unit, found, same⟩ := Option.map_eq_some_iff.mp known.found
  obtain ⟨length, inSeconds⟩ := Prod.mk.inj same
  unfold addTo Duration.addUnits
  unfold seconds at fits ⊢
  unfold nanoseconds at short ⊢
  simp only [found, length, inSeconds]
  cases own : amount.unit.inSeconds with
  | true =>
    simp only [own, if_true] at fits short ⊢
    have added := Duration.add_of_room fits short
    exact bind_eq_ok_iff.mpr ⟨_, bounded_of_lt (by omega), bind_eq_ok_iff.mpr ⟨_, added, rfl⟩⟩
  | false =>
    simp only [own, Bool.false_eq_true, if_false] at fits short ⊢
    have added := Duration.add_of_room fits short
    exact bind_eq_ok_iff.mpr ⟨_, bounded_of_lt (by omega), bind_eq_ok_iff.mpr ⟨_, added, rfl⟩⟩

/-- **What amounts add up to**, as long as there is room for it. -/
theorem foldlM_addTo (known : ∀ amount ∈ amounts, amount.unit.IsKnown) (sum : Duration)
    (fits : sum.seconds + secondsOf amounts < Number.wordLimit)
    (short : sum.nanoseconds + nanosecondsOf amounts < 1000000000) :
    amounts.foldlM addTo sum =
      .ok ⟨sum.seconds + secondsOf amounts, sum.nanoseconds + nanosecondsOf amounts⟩ := by
  induction amounts generalizing sum with
  | nil => rfl
  | cons amount rest ih =>
    obtain ⟨first, others⟩ := List.forall_mem_cons.mp known
    simp only [secondsOf, nanosecondsOf, ← Nat.add_assoc] at fits short ⊢
    have added : amount.addTo sum =
        .ok ⟨sum.seconds + amount.seconds, sum.nanoseconds + amount.nanoseconds⟩ :=
      addTo_of_room first (by omega) (by omega)
    rw [List.foldlM_cons, added]
    exact ih others ⟨sum.seconds + amount.seconds, sum.nanoseconds + amount.nanoseconds⟩ fits short

end Amount

/-! ### Reading sums -/

theorem not_isBlank_of_isUnitLetter {c : Char} (unit : isUnitLetter c = true) :
    isBlank c = false := by
  rcases Bool.or_eq_true_iff.mp unit with letter | micro
  · exact not_isBlank_of_isLetter letter
  · rw [beq_iff_eq.mp micro]
    decide

theorem not_isDigit_of_isUnitLetter {c : Char} (unit : isUnitLetter c = true) :
    isDigit c = false := by
  cases digit : isDigit c with
  | false => rfl
  | true =>
    rcases Bool.or_eq_true_iff.mp unit with letter | micro
    · simp [not_isLetter_of_isDigit digit] at letter
    · rw [beq_iff_eq.mp micro] at digit
      exact absurd digit (by decide)

/-- The number that digits come to behind others. -/
def continued (n : Nat) (ds : List Char) : Nat :=
  ds.foldl (fun n d => 10 * n + digitValue d) n

theorem le_continued (n : Nat) (ds : List Char) : n ≤ continued n ds := by
  induction ds generalizing n with
  | nil => exact Nat.le_refl n
  | cons d ds ih =>
    have later := ih (10 * n + digitValue d)
    rw [continued, List.foldl_cons]
    exact Nat.le_trans (by omega) later

/-- The digits of a number are read up to the unit behind them. -/
theorem readAmount_digits {length : Nat} {c : Char} (digits : ∀ d ∈ ds, isDigit d = true)
    (fits : continued n ds < Number.wordLimit) (unit : isUnitLetter c = true) :
    readAmount length n (ds ++ c :: rest) = .ok (continued n ds, none, c :: rest) := by
  induction ds generalizing n with
  | nil =>
    simp [readAmount, continued, unit, not_isBlank_of_isUnitLetter unit,
      not_isDigit_of_isUnitLetter unit]
  | cons d ds ih =>
    obtain ⟨digit, others⟩ := List.forall_mem_cons.mp digits
    have small := Nat.lt_of_le_of_lt (le_continued (10 * n + digitValue d) ds) fits
    have next : appendDigit n d = .ok (10 * n + digitValue d) := bounded_of_lt small
    rw [List.cons_append, readAmount, if_pos digit, next]
    exact ih others fits

/-- The first digit of a number, when there is no blank in front of it. -/
theorem firstDigit?_cons {length : Nat} {c : Char} (digit : isDigit c = true) (cs : List Char) :
    firstDigit? length (c :: cs) = .ok (some (digitValue c, cs)) := by
  simp [firstDigit?, not_isBlank_of_isDigit digit, digit]

/-- The text of amounts behind others. -/
def Amount.behind (amounts : List Amount) : List Char :=
  ledBy ' ' (amounts.map (·.chars))

/-- The number of an amount is a first digit and what others behind it make of it. -/
theorem Amount.exists_digits (amount : Amount) : ∃ c ds, digits amount.count = c :: ds ∧
    isDigit c = true ∧ (∀ d ∈ ds, isDigit d = true) ∧
      continued (digitValue c) ds = amount.count := by
  obtain ⟨c, ds, written, all⟩ := Text.exists_digits amount.count
  have value : continued (digitValue c) ds = ofDigits (c :: ds) := by
    simp [continued, ofDigits]
  rw [← written, ofDigits_digits] at value
  exact ⟨c, ds, written, all c List.mem_cons_self,
    fun d mem => all d (List.mem_cons_of_mem c mem), value⟩

/-- A number and its unit are read up to what follows them. -/
theorem readAmount_amount {amount : Amount} {length : Nat} {c : Char} (known : amount.unit.IsKnown)
    (fits : amount.count < Number.wordLimit) (start : digits amount.count = c :: ds)
    (rest : List Char) :
    readAmount length (digitValue c) (ds ++ (amount.unit.spelling.toList ++ rest)) =
      .ok (amount.count, none, amount.unit.spelling.toList ++ rest) := by
  obtain ⟨c', ds', start', -, digit, value⟩ := amount.exists_digits
  obtain ⟨rfl, rfl⟩ := List.cons.inj (start.symm.trans start')
  obtain ⟨unit, units, spelled⟩ := List.exists_cons_of_ne_nil known.filled
  have letter : isUnitLetter unit = true :=
    known.letters unit (spelled ▸ List.mem_cons_self)
  rw [spelled, List.cons_append, readAmount_digits digit (value ▸ fits) letter, value]

theorem span_units {units : List Char} (letters : ∀ c ∈ units, isUnitLetter c = true)
    (stops : Stops isUnitLetter rest) : (units ++ rest).span isUnitLetter = (units, rest) := by
  rw [List.span_eq_takeWhile_dropWhile, List.takeWhile_append_of_pos letters,
    List.dropWhile_append_of_pos letters, takeWhile_of_stops stops, dropWhile_of_stops stops,
    List.append_nil]

section Steps

variable {amount : Amount} {length : Nat} {c : Char}

/-- The last amount of a sum is added to it. -/
theorem readSum_last (known : amount.unit.IsKnown) (fits : amount.count < Number.wordLimit)
    (start : digits amount.count = c :: ds) (fuel : Nat) (sum : Duration) :
    readSum length (fuel + 1) sum (digitValue c) (ds ++ amount.unit.spelling.toList) =
      amount.addTo sum := by
  have read : readAmount length (digitValue c) (ds ++ (amount.unit.spelling.toList ++ [])) = _ :=
    readAmount_amount known fits start []
  have cut := span_units known.letters (stops_nil isUnitLetter)
  rw [List.append_nil] at read cut
  rw [readSum, read]
  simp only [bind, Except.bind, cut, String.ofList_toList]
  rfl

/-- Behind a blank the sum goes on. -/
theorem readSum_next (known : amount.unit.IsKnown) (fits : amount.count < Number.wordLimit)
    (start : digits amount.count = c :: ds) {d : Char} (digit : isDigit d = true) (fuel : Nat)
    (sum : Duration) (rest : List Char) :
    readSum length (fuel + 1) sum (digitValue c)
        (ds ++ (amount.unit.spelling.toList ++ ' ' :: d :: rest)) =
      amount.addTo sum >>= fun sum => readSum length fuel sum (digitValue d) rest := by
  have read : readAmount length _ _ = _ :=
    readAmount_amount known fits start (' ' :: d :: rest)
  have space : Stops isUnitLetter (' ' :: d :: rest) := by
    rw [stops_cons]
    decide
  have cut := span_units known.letters space
  have blank : isBlank ' ' = true := by decide
  have noDigit : isDigit ' ' = false := by decide
  rw [readSum, read]
  simp only [bind, Except.bind, cut, String.ofList_toList, noDigit, blank, Bool.false_eq_true,
    if_false, if_true, firstDigit?_cons digit, Amount.addTo]

end Steps

/-- **Amounts that are written one behind the other** are added one after the other. -/
theorem readSum_amounts {first : Amount} {others : List Amount} {length fuel : Nat} {c : Char}
    (known : ∀ amount ∈ first :: others, amount.unit.IsKnown)
    (fits : ∀ amount ∈ first :: others, amount.count < Number.wordLimit)
    (start : digits first.count = c :: ds) (enough : others.length < fuel) (sum : Duration) :
    readSum length fuel sum (digitValue c) (ds ++ (first.unit.spelling.toList ++ Amount.behind others)) =
      (first :: others).foldlM Amount.addTo sum := by
  induction others generalizing first fuel c ds sum with
  | nil =>
    obtain ⟨fuel, rfl⟩ := Nat.exists_eq_add_one_of_ne_zero (Nat.ne_zero_of_lt enough)
    have last : readSum length (fuel + 1) sum _ _ = _ :=
      readSum_last (known first List.mem_cons_self) (fits first List.mem_cons_self) start fuel sum
    rw [List.foldlM_cons]
    simp only [List.foldlM_nil, bind_pure]
    simpa [Amount.behind] using last
  | cons next others ih =>
    obtain ⟨fuel, rfl⟩ := Nat.exists_eq_add_one_of_ne_zero (Nat.ne_zero_of_lt enough)
    obtain ⟨knownFirst, knownOthers⟩ := List.forall_mem_cons.mp known
    obtain ⟨fitsFirst, fitsOthers⟩ := List.forall_mem_cons.mp fits
    obtain ⟨d, es, start', digit, -, -⟩ := next.exists_digits
    have text : Amount.behind (next :: others) =
        ' ' :: d :: (es ++ (next.unit.spelling.toList ++ Amount.behind others)) := by
      simp [Amount.behind, Amount.chars, start']
    rw [text, readSum_next knownFirst fitsFirst start digit, List.foldlM_cons]
    congr 1
    funext sum
    exact ih knownOthers fitsOthers start' (by simpa using enough) sum

/-- A text of amounts is read as what they add up to. -/
theorem parse_amounts {first : Amount} {others : List Amount} {text : String}
    (known : ∀ amount ∈ first :: others, amount.unit.IsKnown)
    (fits : ∀ amount ∈ first :: others, amount.count < Number.wordLimit)
    (chars : text.toList = first.chars ++ Amount.behind others) :
    Duration.parse text = (first :: others).foldlM Amount.addTo ⟨0, 0⟩ := by
  obtain ⟨c, ds, start, digit, -, -⟩ := first.exists_digits
  rw [Amount.chars, start, List.cons_append, List.cons_append, List.append_assoc] at chars
  have unequal : (text == "0") = false := by
    rw [beq_eq_false_iff_ne]
    intro same
    have filled := (known first List.mem_cons_self).filled
    simp [same, filled] at chars
  have enough : others.length < text.toList.length + 1 := by
    have each : others.length ≤ (Amount.behind others).length := by
      rw [Amount.behind]
      simpa using length_le_ledBy (others.map (·.chars))
    simp only [chars, List.length_cons, List.length_append]
    omega
  rw [Duration.parse, unequal]
  simp only [Bool.false_eq_true, if_false]
  rw [chars] at enough ⊢
  rw [firstDigit?_cons digit]
  exact readSum_amounts known fits start enough ⟨0, 0⟩

/-! ### Texts of durations -/

namespace Duration

/-- An amount of a unit that takes a plural. -/
def plural (name : String) (count length : Nat) : Amount :=
  ⟨count, ⟨if count = 1 then name else name ++ "s", length, true⟩⟩

/-- The amounts of each unit in a duration, largest unit first. -/
def amounts (d : Duration) : List Amount :=
  let ofYear := d.seconds % 31557600
  let ofMonth := ofYear % 2630016
  let ofDay := ofMonth % 86400
  [plural "year" (d.seconds / 31557600) 31557600, plural "month" (ofYear / 2630016) 2630016,
    plural "day" (ofMonth / 86400) 86400, ⟨ofDay / 3600, "h", 3600, true⟩,
    ⟨ofDay % 3600 / 60, "m", 60, true⟩, ⟨ofDay % 60, "s", 1, true⟩,
    ⟨d.nanoseconds / 1000000, "ms", 1000000, false⟩,
    ⟨d.nanoseconds / 1000 % 1000, "us", 1000, false⟩, ⟨d.nanoseconds % 1000, "ns", 1, false⟩]

/-- The amounts of a duration that are written: those of which there are any. -/
def writtenAmounts (d : Duration) : List Amount :=
  d.amounts.filter (0 < ·.count)

/-- **The amounts of a duration** come to its seconds and nanoseconds. -/
theorem secondsOf_amounts (d : Duration) :
    Amount.secondsOf d.amounts = d.seconds ∧ Amount.nanosecondsOf d.amounts = d.nanoseconds := by
  simp only [amounts, plural, Amount.secondsOf, Amount.nanosecondsOf, Amount.seconds,
    Amount.nanoseconds, if_true, Bool.false_eq_true, if_false]
  omega

theorem isKnown_plural {name : String} {length : Nat}
    (one : (WrittenUnit.mk name length true).IsKnown)
    (many : (WrittenUnit.mk (name ++ "s") length true).IsKnown) (count : Nat) :
    (plural name count length).unit.IsKnown := by
  unfold plural
  split
  · exact one
  · exact many

theorem isKnown_amounts : ∀ amount ∈ d.amounts, amount.unit.IsKnown := by
  simp only [amounts, List.forall_mem_cons]
  refine ⟨isKnown_plural ?_ ?_ _, isKnown_plural ?_ ?_ _, isKnown_plural ?_ ?_ _, ?_, ?_, ?_, ?_, ?_,
    ?_, by simp⟩
  all_goals
    refine ⟨by decide +kernel, by decide +kernel, List.all_eq_true.mp ?_⟩
    decide +kernel

theorem pluralItem_eq (name : String) (n length : Nat) :
    pluralItem name n =
      ([plural name n length].filter (0 < ·.count)).map (String.ofList ·.chars) := by
  have number : toString n = String.ofList (digits n) := Nat.toString_eq_ofList_toDigits
  rw [pluralItem, number]
  by_cases none : n = 0
  · simp [none, plural]
  · have some : 0 < n := Nat.pos_of_ne_zero none
    by_cases one : n = 1
    · simp [one, plural, Amount.chars, String.ofList_append]
    · simp [none, some, one, plural, Amount.chars, String.ofList_append, String.append_assoc]

theorem item_eq (unit : WrittenUnit) (n : Nat) :
    item unit.spelling n =
      ([(⟨n, unit⟩ : Amount)].filter (0 < ·.count)).map (String.ofList ·.chars) := by
  have number : toString n = String.ofList (digits n) := Nat.toString_eq_ofList_toDigits
  rw [item, number]
  by_cases none : n = 0
  · simp [none]
  · have some : 0 < n := Nat.pos_of_ne_zero none
    simp [none, some, Amount.chars, String.ofList_append]

/-- The texts of a duration are those of its amounts. -/
theorem items_eq (d : Duration) : d.items = d.writtenAmounts.map (String.ofList ·.chars) := by
  dsimp only [items, writtenAmounts, amounts]
  rw [pluralItem_eq "year" _ 31557600, pluralItem_eq "month" _ 2630016,
    pluralItem_eq "day" _ 86400, item_eq ⟨"h", 3600, true⟩, item_eq ⟨"m", 60, true⟩,
    item_eq ⟨"s", 1, true⟩, item_eq ⟨"ms", 1000000, false⟩, item_eq ⟨"us", 1000, false⟩,
    item_eq ⟨"ns", 1, false⟩]
  simp only [← List.map_append, ← List.filter_append, List.cons_append, List.nil_append]

theorem secondsOf_writtenAmounts (d : Duration) :
    Amount.secondsOf d.writtenAmounts = d.seconds ∧
      Amount.nanosecondsOf d.writtenAmounts = d.nanoseconds := by
  obtain ⟨seconds, nanoseconds⟩ := Amount.secondsOf_filter d.amounts
  exact ⟨seconds.trans d.secondsOf_amounts.1, nanoseconds.trans d.secondsOf_amounts.2⟩

theorem isKnown_writtenAmounts : ∀ amount ∈ d.writtenAmounts, amount.unit.IsKnown :=
  fun amount mem => isKnown_amounts amount (List.mem_of_mem_filter mem)

/-- No amount of a bounded duration is too large to be read. -/
theorem count_lt_of_isBounded (h : d.IsBounded) :
    ∀ amount ∈ d.writtenAmounts, amount.count < Number.wordLimit := by
  have all : ∀ amount ∈ d.amounts, amount.count < Number.wordLimit := by
    obtain ⟨fits, short⟩ := h
    have wide : 1000000000 < Number.wordLimit := by decide
    simp only [amounts, plural, List.forall_mem_cons]
    refine ⟨?_, ?_, ?_, ?_, ?_, ?_, ?_, ?_, ?_, by simp⟩
    all_goals omega
  exact fun amount mem => all amount (List.mem_of_mem_filter mem)

/-- The text of a duration is its amounts, one behind the other. -/
theorem toList_text {first : Amount} {others : List Amount}
    (written : d.writtenAmounts = first :: others) :
    d.text.toList = first.chars ++ Amount.behind others := by
  have shown : d.items = String.ofList first.chars :: others.map (String.ofList ·.chars) := by
    rw [items_eq, written, List.map_cons]
  have joined : d.text = " ".intercalate d.items := by simp [text, shown]
  have blank : " ".toList = [' '] := by decide
  rw [joined, shown, String.toList_intercalate, blank, List.map_cons, intercalate_cons]
  simp [Amount.behind, Function.comp_def]

theorem parse_text (h : d.IsBounded) : Duration.parse d.text = .ok d := by
  have known : ∀ amount ∈ d.writtenAmounts, amount.unit.IsKnown := isKnown_writtenAmounts
  have fits := count_lt_of_isBounded h
  obtain ⟨seconds, nanoseconds⟩ := d.secondsOf_writtenAmounts
  cases written : d.writtenAmounts with
  | nil =>
    rw [written] at seconds nanoseconds
    obtain ⟨ownSeconds, ownNanoseconds⟩ := d
    obtain rfl : 0 = ownSeconds := seconds
    obtain rfl : 0 = ownNanoseconds := nanoseconds
    decide +kernel
  | cons first others =>
    rw [written] at known fits seconds nanoseconds
    have sum : (first :: others).foldlM Amount.addTo ⟨0, 0⟩ = .ok d := by
      have added := Amount.foldlM_addTo known ⟨0, 0⟩
        (by simpa [seconds] using h.seconds) (by simpa [nanoseconds] using h.nanoseconds)
      simpa [seconds, nanoseconds] using added
    exact (parse_amounts known fits (toList_text written)).trans sum

/-- **A duration is read back from its text** exactly if it is bounded. -/
theorem parse_text_iff : Duration.parse d.text = .ok d ↔ d.IsBounded :=
  ⟨isBounded_of_parse, parse_text⟩

end Duration

end CatalogFeeds.Time
