import CatalogFeeds.Json.Parser
import CatalogFeeds.Json.Printer
import CatalogFeeds.Proofs.Overrides
import CatalogFeeds.Proofs.Time.Pieces
import Mathlib.Data.List.DropRight
/-!
JSON that is read back from its texts.

`IsText` says which texts a value has: blanks may stand between the parts, and the members of an
object may stand in any order. Such a text is read as its value, and the two texts that are written
of a value are among them. A value whose members are in no order is read back as the one that has
them in the order of their keys.

* `readString_flatMap`, `readNumber_wholeChars` — strings and whole numbers are read back.
* `IsText.isReadFrom` — a text is read as what it is a text of.
* `isText_render`, `isText_prettyAt` — the texts that are written.
* `parse?_of_isLossless` — a value is read back from both of them but for the order of members.
* `parse?_texts` — it is read back as it is, if they hold it in full.
-/

namespace CatalogFeeds.Json
open CatalogFeeds.Text
open CatalogFeeds.Time (Stops stops_cons stops_nil)

variable {cs rest : List Char} {c : Char}

/-! ### Strings -/

theorem hexQuad?_control {n : Nat} (small : n < 32) :
    hexQuad? '0' '0' (hexDigit (n / 16)) (hexDigit (n % 16)) = some n := by
  have all : ∀ m : Fin 32,
      hexQuad? '0' '0' (hexDigit (m / 16)) (hexDigit (m % 16)) = some m.val := by decide
  exact all ⟨n, small⟩

theorem readString_short {letter : Char} (short : unescape? letter = some c) :
    readString ('\\' :: letter :: rest) =
      (readString rest).map fun (body, rest) => (c :: body, rest) := by
  have noUnit : letter ≠ 'u' := by
    rintro rfl
    simp [unescape?] at short
  rw [readString, short]
  · cases readString rest <;> rfl
  · intro a b c d rest same
    exact absurd same noUnit

theorem readString_control (small : c.toNat < 32) :
    readString ('\\' :: 'u' :: '0' :: '0' :: hexDigit (c.toNat / 16) :: hexDigit (c.toNat % 16) ::
      rest) = (readString rest).map fun (body, rest) => (c :: body, rest) := by
  have low : isLowSurrogate c.toNat = false := by
    simp [isLowSurrogate]
    omega
  have high : isHighSurrogate c.toNat = false := by
    simp [isHighSurrogate]
    omega
  rw [readString, hexQuad?_control small]
  simp only [bind, Option.bind, low, high, Bool.false_eq_true, if_false]
  cases readString rest with
  | none => rfl
  | some read => simp

theorem readString_plain (quotation : c ≠ '"') (backslash : c ≠ '\\') (large : 32 ≤ c.toNat) :
    readString (c :: rest) = (readString rest).map fun (body, rest) => (c :: body, rest) := by
  have stays : ¬ ((c == '\\' || decide (c.toNat < 32)) = true) := by
    simp [backslash, large]
  rw [readString, if_neg stays]
  · cases readString rest <;> rfl
  · exact quotation
  · exact fun _ _ _ _ _ same => absurd same backslash
  · exact fun _ _ same => absurd same backslash

/-- A character of a string is read back from its written form. -/
theorem readString_escapeChar (c : Char) (rest : List Char) :
    readString (escapeChar c ++ rest) =
      (readString rest).map fun (body, rest) => (c :: body, rest) := by
  unfold escapeChar
  split_ifs with quotation backslash newline carriage tab backspace feed control
  · exact readString_short (by simp_all [unescape?])
  · exact readString_short (by simp_all [unescape?])
  · exact readString_short (by simp_all [unescape?])
  · exact readString_short (by simp_all [unescape?])
  · exact readString_short (by simp_all [unescape?])
  · have own : Char.ofNat 8 = c := by rw [← beq_iff_eq.mp backspace, Char.ofNat_toNat]
    exact readString_short (congrArg some own)
  · have own : Char.ofNat 12 = c := by rw [← beq_iff_eq.mp feed, Char.ofNat_toNat]
    exact readString_short (congrArg some own)
  · exact readString_control control
  · exact readString_plain (by simpa using quotation) (by simpa using backslash) (by omega)

/-- **A string is read back** up to its closing quotation mark. -/
theorem readString_flatMap (cs rest : List Char) :
    readString (cs.flatMap escapeChar ++ '"' :: rest) = some (cs, rest) := by
  induction cs with
  | nil => rw [List.flatMap_nil, List.nil_append, readString]
  | cons c cs ih => rw [List.flatMap_cons, List.append_assoc, readString_escapeChar, ih]; rfl

/-! ### Whole numbers -/

/-- Characters that would go on with a number. -/
def continuesNumber (c : Char) : Bool :=
  isDigit c || c == '.' || c == 'e' || c == 'E'

theorem takeDigits_append {ds : List Char} (digits : ∀ d ∈ ds, isDigit d = true)
    (stops : Stops isDigit rest) : takeDigits (ds ++ rest) = (ds, rest) := by
  rw [takeDigits, List.takeWhile_append_of_pos digits, List.dropWhile_append_of_pos digits,
    Time.takeWhile_of_stops stops, Time.dropWhile_of_stops stops, List.append_nil]

/-- Only zero itself is written with a zero in front. -/
theorem head?_digits {n : Nat} (long : 1 < (digits n).length) : (digits n).head? ≠ some '0' := by
  intro zero
  obtain ⟨ds, written⟩ := List.head?_eq_some_iff.mp zero
  have filled : 0 < ds.length := by
    rw [written, List.length_cons] at long
    omega
  have small : n < 10 ^ ds.length := by
    have bound : Nat.ofDigitChars 10 ds 0 < 10 ^ ds.length :=
      Time.ofDigitChars_lt fun d mem =>
        isDigit_of_mem_digits (n := n) (written ▸ List.mem_cons_of_mem _ mem)
    have value : ofDigits ('0' :: ds) = n := written ▸ ofDigits_digits n
    rw [ofDigits_eq] at value
    rw [← value]
    exact bound
  have short : (digits n).length ≤ ds.length :=
    (Nat.length_toDigits_le_iff (by decide) filled).mpr small
  rw [written, List.length_cons] at short
  omega

theorem readExponent_of_stops (stops : Stops continuesNumber rest) :
    readExponent rest = some (none, rest) := by
  cases rest with
  | nil => rfl
  | cons c rest =>
    rw [stops_cons] at stops
    simp only [continuesNumber, Bool.or_eq_false_iff] at stops
    simp [readExponent, stops]

theorem readUnsigned_digits {negative : Bool} {n : Nat} {number : JsonNumber}
    (whole : whole? negative n = some number) (stops : Stops continuesNumber rest) :
    readUnsigned negative (digits n ++ rest) = some (number, rest) := by
  have ends : Stops isDigit rest ∧ ∀ ds, rest ≠ '.' :: ds := by
    cases rest with
    | nil => exact ⟨rfl, by simp⟩
    | cons c rest =>
      simp only [stops_cons, continuesNumber, Bool.or_eq_false_iff] at stops ⊢
      refine ⟨stops.1.1.1, ?_⟩
      rintro ds same
      simp [(List.cons.inj same).1] at stops
  have taken := takeDigits_append (fun d mem => isDigit_of_mem_digits (n := n) mem) ends.1
  have numeral : ((digits n).isEmpty ||
      decide ((digits n).length > 1) && (digits n).head? == some '0') = false := by
    by_cases long : 1 < (digits n).length
    · simp [digits_ne_nil, head?_digits long]
    · simp [digits_ne_nil, long]
  rw [readUnsigned, taken]
  simp only [numeral, Bool.false_eq_true, if_false]
  split
  · exact absurd rfl (ends.2 _)
  · simp [readExponent_of_stops stops, ofDigits_digits, whole]

/-- The text of a whole number. -/
def wholeChars (n : Int) : List Char :=
  if n < 0 then '-' :: digits n.natAbs else digits n.natAbs

theorem toList_toString (n : Int) : (toString n).toList = wholeChars n := by
  obtain n | n := n
  · have number : toString (Int.ofNat n) = String.ofList (digits n) :=
      Nat.toString_eq_ofList_toDigits
    have positive : ¬ Int.ofNat n < 0 := by simp
    rw [number, String.toList_ofList, wholeChars, if_neg positive]
    rfl
  · have number : toString (n + 1) = String.ofList (digits (n + 1)) :=
      Nat.toString_eq_ofList_toDigits
    have sign : toString (Int.negSucc n) = "-" ++ toString (n + 1) := rfl
    rw [sign, number]
    simp [wholeChars, Int.negSucc_lt_zero]

/-- A whole number that one of the two kinds of words has room for. -/
def Fits (n : Int) : Prop :=
  -(Number.signedLimit : Int) ≤ n ∧ n < (Number.wordLimit : Int)

/-- **A whole number is read back** up to what does not go on with it. -/
theorem readNumber_wholeChars {n : Int} (fits : Fits n)
    (stops : Stops continuesNumber rest) :
    readNumber (wholeChars n ++ rest) = some (.whole n, rest) := by
  obtain ⟨above, below⟩ := fits
  unfold wholeChars
  by_cases negative : n < 0
  · have whole : whole? true n.natAbs = some (.whole n) := by
      have filled : 0 < n.natAbs := by omega
      have fits : n.natAbs ≤ Number.signedLimit := by omega
      have same : -(n.natAbs : Int) = n := by omega
      simp only [whole?, filled, fits, same, decide_true, Bool.and_self, if_true]
    rw [if_pos negative, List.cons_append, readNumber]
    exact readUnsigned_digits whole stops
  · have whole : whole? false n.natAbs = some (.whole n) := by
      have fits : n.natAbs ≤ JsonNumber.largestWhole := by
        unfold JsonNumber.largestWhole
        omega
      have same : (n.natAbs : Int) = n := by omega
      simp only [whole?, fits, same, Bool.false_eq_true, if_false, if_true]
    rw [if_neg negative]
    have unsigned : readNumber (digits n.natAbs ++ rest) =
        readUnsigned false (digits n.natAbs ++ rest) := by
      obtain ⟨c, ds, written, all⟩ := exists_digits n.natAbs
      rw [written, List.cons_append, readNumber]
      rintro ds same
      obtain ⟨rfl, -⟩ := List.cons.inj same
      exact absurd (all '-' List.mem_cons_self) (by decide)
    rw [unsigned]
    exact readUnsigned_digits whole stops

/-! ### Texts -/

/-- Blanks between the parts of a text. -/
def IsGap (cs : List Char) : Prop :=
  ∀ c ∈ cs, isSpace c = true

theorem isGap_nil : IsGap [] := by
  simp [IsGap]

/-- What is read in one go: a value, the items of an array up to its closing bracket, or the
members of an object up to its closing brace. -/
inductive Piece where
  | value (value : Json)
  | items (items : List Json)
  | members (members : List (String × Json))

/-- A text of a piece, with no more than so many arrays and objects inside each other.

Blanks may stand between all parts, and the members of an object in any order. Strings and whole
numbers are as they are written, and there are no other numbers. -/
inductive IsText : Nat → Piece → List Char → Prop where
  | blank {depth : Nat} {piece : Piece} {c : Char} {cs : List Char} :
      isSpace c = true → IsText depth piece cs → IsText depth piece (c :: cs)
  | null {depth : Nat} : IsText depth (.value null) "null".toList
  | bool {depth : Nat} (b : Bool) :
      IsText depth (.value (bool b)) (if b then "true" else "false").toList
  | string {depth : Nat} (s : String) : IsText depth (.value (string s)) (quote s).toList
  | whole {depth : Nat} {n : Int} :
      Fits n → IsText depth (.value (number (.whole n))) (wholeChars n)
  | noItems {depth : Nat} {gap : List Char} :
      IsGap gap → IsText (depth + 1) (.value (array [])) ('[' :: (gap ++ [']']))
  | array {depth : Nat} {items : List Json} {cs : List Char} :
      IsText depth (.items items) cs → IsText (depth + 1) (.value (array items)) ('[' :: cs)
  | noMembers {depth : Nat} {gap : List Char} :
      IsGap gap → IsText (depth + 1) (.value (object [])) ('\x7b' :: (gap ++ ['\x7d']))
  | object {depth : Nat} {entries : List (String × Json)} {cs : List Char} :
      (entries.map (·.1)).Nodup → IsText depth (.members entries) cs →
      IsText (depth + 1) (.value (ofEntries entries)) ('\x7b' :: cs)
  | lastItem {depth : Nat} {item : Json} {cs gap : List Char} :
      IsText depth (.value item) cs → IsGap gap →
      IsText depth (.items [item]) (cs ++ (gap ++ [']']))
  | nextItem {depth : Nat} {item : Json} {items : List Json} {cs gap ds : List Char} :
      IsText depth (.value item) cs → IsGap gap → IsText depth (.items items) ds →
      IsText depth (.items (item :: items)) (cs ++ (gap ++ ',' :: ds))
  | lastMember {depth : Nat} {key : String} {value : Json} {before cs after : List Char} :
      IsGap before → IsText depth (.value value) cs → IsGap after →
      IsText depth (.members [(key, value)])
        ((quote key).toList ++ (before ++ ':' :: (cs ++ (after ++ ['\x7d']))))
  | nextMember {depth : Nat} {key : String} {value : Json} {members : List (String × Json)}
      {before cs after ds : List Char} :
      IsGap before → IsText depth (.value value) cs → IsGap after →
      IsText depth (.members members) ds →
      IsText depth (.members ((key, value) :: members))
        ((quote key).toList ++ (before ++ ':' :: (cs ++ (after ++ ',' :: ds))))

/-! ### Reading a text -/

/-- The reader finds a piece in front of a rest. -/
def Piece.IsReadFrom (depth fuel : Nat) (cs rest : List Char) : Piece → Prop
  | .value own => readValue fuel depth (cs ++ rest) = some (own, rest)
  | .items own => readItems fuel depth (cs ++ rest) = some (own, rest)
  | .members own => readMembers fuel depth (cs ++ rest) = some (own, rest)

theorem skipSpace_cons (space : isSpace c = true) (cs : List Char) :
    skipSpace (c :: cs) = skipSpace cs :=
  List.dropWhile_cons_of_pos space

theorem skipSpace_of_visible (visible : isSpace c = false) (cs : List Char) :
    skipSpace (c :: cs) = c :: cs :=
  List.dropWhile_cons_of_neg (by simp [visible])

theorem skipSpace_gap {gap : List Char} (spaces : IsGap gap) (visible : isSpace c = false)
    (cs : List Char) : skipSpace (gap ++ c :: cs) = c :: cs := by
  rw [skipSpace, List.dropWhile_append_of_pos spaces]
  exact skipSpace_of_visible visible cs

theorem skipSpace_skipSpace (cs : List Char) : skipSpace (skipSpace cs) = skipSpace cs :=
  List.dropWhile_idempotent isSpace cs

theorem readValue_skipSpace (fuel depth : Nat) (cs : List Char) :
    readValue fuel depth (skipSpace cs) = readValue fuel depth cs := by
  cases fuel with
  | zero => simp only [readValue]
  | succ fuel => simp only [readValue, skipSpace_skipSpace]

theorem readItems_skipSpace (fuel depth : Nat) (cs : List Char) :
    readItems fuel depth (skipSpace cs) = readItems fuel depth cs := by
  cases fuel with
  | zero => simp only [readItems]
  | succ fuel => simp only [readItems, readValue_skipSpace]

theorem readMembers_skipSpace (fuel depth : Nat) (cs : List Char) :
    readMembers fuel depth (skipSpace cs) = readMembers fuel depth cs := by
  cases fuel with
  | zero => simp only [readMembers]
  | succ fuel => simp only [readMembers, skipSpace_skipSpace]

theorem Piece.isReadFrom_blank {piece : Piece} {fuel depth : Nat} (space : isSpace c = true) :
    piece.IsReadFrom depth fuel (c :: cs) rest ↔ piece.IsReadFrom depth fuel cs rest := by
  cases piece with
  | value =>
    rw [IsReadFrom, IsReadFrom, List.cons_append, ← readValue_skipSpace, skipSpace_cons space,
      readValue_skipSpace]
  | items =>
    rw [IsReadFrom, IsReadFrom, List.cons_append, ← readItems_skipSpace, skipSpace_cons space,
      readItems_skipSpace]
  | members =>
    rw [IsReadFrom, IsReadFrom, List.cons_append, ← readMembers_skipSpace, skipSpace_cons space,
      readMembers_skipSpace]

/-! A closing bracket or brace begins no item and no member, so where one can be read the reader has
not found an empty array or object. -/

theorem readItems_bracket (fuel depth : Nat) (cs : List Char) :
    readItems fuel depth (']' :: cs) = none := by
  cases fuel with
  | zero => rfl
  | succ fuel =>
    cases fuel with
    | zero => rfl
    | succ fuel =>
      have nothing : readNumber (']' :: cs) = none := rfl
      simp [readItems, readValue, skipSpace, isSpace, nothing]

theorem readMembers_brace (fuel depth : Nat) (cs : List Char) :
    readMembers fuel depth ('\x7d' :: cs) = none := by
  cases fuel with
  | zero => rfl
  | succ fuel => simp [readMembers, skipSpace, isSpace]

theorem readValue_array {fuel depth : Nat} {items : List Json}
    (read : readItems fuel depth cs = some (items, rest)) :
    readValue (fuel + 1) (depth + 1) ('[' :: cs) = some (array items, rest) := by
  have visible : isSpace '[' = false := by decide
  rw [← readItems_skipSpace] at read
  simp only [readValue, skipSpace_of_visible visible]
  split
  · rename_i opens
    rw [opens, readItems_bracket] at read
    exact absurd read (by simp)
  · simp [read]

theorem readValue_object {fuel depth : Nat} {entries : List (String × Json)}
    (read : readMembers fuel depth cs = some (entries, rest)) :
    readValue (fuel + 1) (depth + 1) ('\x7b' :: cs) = some (ofEntries entries, rest) := by
  have visible : isSpace '\x7b' = false := by decide
  rw [← readMembers_skipSpace] at read
  simp only [readValue, skipSpace_of_visible visible]
  split
  · rename_i opens
    rw [opens, readMembers_brace] at read
    exact absurd read (by simp)
  · simp [read]

theorem readValue_number {fuel depth : Nat} {own : JsonNumber}
    (start : c = '-' ∨ isDigit c = true)
    (read : readNumber (c :: cs) = some (own, rest)) :
    readValue (fuel + 1) depth (c :: cs) = some (number own, rest) := by
  have other : c ∉ [' ', '\n', '\t', '\x0d', 'n', 't', 'f', '"', '[', '\x7b'] := by
    intro mem
    rcases start with rfl | digit
    · exact absurd mem (by decide)
    · have none : [' ', '\n', '\t', '\x0d', 'n', 't', 'f', '"', '[', '\x7b'].all
          (!isDigit ·) = true := by decide
      have other := List.all_eq_true.mp none c mem
      simp [digit] at other
  simp only [List.mem_cons, not_or] at other
  have visible : isSpace c = false := by simp [isSpace, other]
  rw [readValue, skipSpace_of_visible visible]
  split <;> simp_all

/-- The first character of a whole number is a sign or a digit. -/
theorem exists_wholeChars (n : Int) :
    ∃ c cs, wholeChars n = c :: cs ∧ (c = '-' ∨ isDigit c = true) := by
  unfold wholeChars
  split
  · exact ⟨'-', digits n.natAbs, rfl, .inl rfl⟩
  · obtain ⟨c, cs, written, all⟩ := exists_digits n.natAbs
    exact ⟨c, cs, written, .inr (all c List.mem_cons_self)⟩

theorem toList_quote_append (s : String) (rest : List Char) :
    (quote s).toList ++ rest = '"' :: (s.toList.flatMap escapeChar ++ '"' :: rest) := by
  simp [quote]

theorem readValue_quote (fuel depth : Nat) (s : String) (rest : List Char) :
    readValue (fuel + 1) depth ((quote s).toList ++ rest) = some (string s, rest) := by
  have visible : isSpace '"' = false := by decide
  rw [toList_quote_append]
  simp [readValue, skipSpace_of_visible visible, readString_flatMap]

theorem continuesNumber_of_gap {gap : List Char} (spaces : IsGap gap)
    (stops : Stops continuesNumber rest) : Stops continuesNumber (gap ++ rest) := by
  cases gap with
  | nil => exact stops
  | cons d gap =>
    have space := spaces d List.mem_cons_self
    simp only [isSpace, Bool.or_eq_true, beq_iff_eq] at space
    rw [List.cons_append, stops_cons]
    rcases space with ((rfl | rfl) | rfl) | rfl
    all_goals decide

theorem readItems_last {fuel depth : Nat} {item : Json} {gap : List Char}
    (read : readValue fuel depth cs = some (item, gap ++ ']' :: rest)) (spaces : IsGap gap) :
    readItems (fuel + 1) depth cs = some ([item], rest) := by
  have visible : isSpace ']' = false := by decide
  simp [readItems, read, skipSpace_gap spaces visible]

theorem readItems_next {fuel depth : Nat} {item : Json} {items : List Json} {gap ds : List Char}
    (read : readValue fuel depth cs = some (item, gap ++ ',' :: ds)) (spaces : IsGap gap)
    (next : readItems fuel depth ds = some (items, rest)) :
    readItems (fuel + 1) depth cs = some (item :: items, rest) := by
  have visible : isSpace ',' = false := by decide
  simp [readItems, read, skipSpace_gap spaces visible, next]

section Members

variable {fuel depth : Nat} {key : String} {value : Json} {before after ds : List Char}

theorem readMembers_last (colon : IsGap before)
    (read : readValue fuel depth ds = some (value, after ++ '\x7d' :: rest))
    (spaces : IsGap after) :
    readMembers (fuel + 1) depth ((quote key).toList ++ (before ++ ':' :: ds)) =
      some ([(key, value)], rest) := by
  have opens : isSpace '"' = false := by decide
  have visible : isSpace ':' = false := by decide
  have closes : isSpace '\x7d' = false := by decide
  rw [toList_quote_append]
  simp [readMembers, skipSpace_of_visible opens, readString_flatMap, skipSpace_gap colon visible,
    read, skipSpace_gap spaces closes]

theorem readMembers_next {members : List (String × Json)} {es : List Char} (colon : IsGap before)
    (read : readValue fuel depth ds = some (value, after ++ ',' :: es)) (spaces : IsGap after)
    (next : readMembers fuel depth es = some (members, rest)) :
    readMembers (fuel + 1) depth ((quote key).toList ++ (before ++ ':' :: ds)) =
      some ((key, value) :: members, rest) := by
  have opens : isSpace '"' = false := by decide
  have visible : isSpace ':' = false := by decide
  have goes : isSpace ',' = false := by decide
  rw [toList_quote_append]
  simp [readMembers, skipSpace_of_visible opens, readString_flatMap, skipSpace_gap colon visible,
    read, skipSpace_gap spaces goes, next]

end Members

/-- **A text is read as what it is a text of**, in front of whatever does not go on with a number.

Each step of the reader is one of two that a character pays for. -/
theorem IsText.isReadFrom {depth : Nat} {piece : Piece} (text : IsText depth piece cs) {fuel : Nat}
    (enough : 2 * cs.length ≤ fuel) (stops : Stops continuesNumber rest) :
    piece.IsReadFrom depth fuel cs rest := by
  induction text generalizing fuel rest with
  | @blank depth piece c cs space own ih =>
    rw [List.length_cons] at enough
    exact (Piece.isReadFrom_blank space).mpr (ih (by omega) stops)
  | null =>
    obtain ⟨fuel, rfl⟩ : ∃ n, fuel = n + 1 := ⟨fuel - 1, by simp at enough; omega⟩
    simp [Piece.IsReadFrom, readValue, skipSpace, isSpace]
  | bool b =>
    obtain ⟨fuel, rfl⟩ : ∃ n, fuel = n + 1 := ⟨fuel - 1, by cases b <;> simp at enough <;> omega⟩
    cases b <;> simp [Piece.IsReadFrom, readValue, skipSpace, isSpace]
  | string s =>
    obtain ⟨fuel, rfl⟩ : ∃ n, fuel = n + 1 := ⟨fuel - 1, by simp [quote] at enough; omega⟩
    exact readValue_quote fuel _ s rest
  | @whole depth n fits =>
    obtain ⟨c, cs, written, start⟩ := exists_wholeChars n
    rw [written, List.length_cons] at enough
    obtain ⟨fuel, rfl⟩ : ∃ n, fuel = n + 1 := ⟨fuel - 1, by omega⟩
    have read := readNumber_wholeChars fits stops
    rw [written] at read ⊢
    exact readValue_number start read
  | @noItems depth gap spaces =>
    rw [List.length_cons] at enough
    obtain ⟨fuel, rfl⟩ : ∃ n, fuel = n + 1 := ⟨fuel - 1, by omega⟩
    have opens : isSpace '[' = false := by decide
    have closes : isSpace ']' = false := by decide
    simp [Piece.IsReadFrom, readValue, skipSpace_of_visible opens, skipSpace_gap spaces closes]
  | @noMembers depth gap spaces =>
    rw [List.length_cons] at enough
    obtain ⟨fuel, rfl⟩ : ∃ n, fuel = n + 1 := ⟨fuel - 1, by omega⟩
    have opens : isSpace '\x7b' = false := by decide
    have closes : isSpace '\x7d' = false := by decide
    simp [Piece.IsReadFrom, readValue, skipSpace_of_visible opens, skipSpace_gap spaces closes]
  | @array depth items cs own ih =>
    rw [List.length_cons] at enough
    obtain ⟨fuel, rfl⟩ : ∃ n, fuel = n + 1 := ⟨fuel - 1, by omega⟩
    have read : readItems fuel depth (cs ++ rest) = some (items, rest) := ih (by omega) stops
    exact readValue_array read
  | @object depth entries cs distinct own ih =>
    rw [List.length_cons] at enough
    obtain ⟨fuel, rfl⟩ : ∃ n, fuel = n + 1 := ⟨fuel - 1, by omega⟩
    have read : readMembers fuel depth (cs ++ rest) = some (entries, rest) := ih (by omega) stops
    exact readValue_object read
  | @lastItem depth item cs gap own spaces ih =>
    simp only [List.length_append, List.length_cons] at enough
    obtain ⟨fuel, rfl⟩ : ∃ n, fuel = n + 1 := ⟨fuel - 1, by omega⟩
    have ends : Stops continuesNumber (gap ++ ']' :: rest) :=
      continuesNumber_of_gap spaces (stops_cons.mpr (by decide))
    have read : readValue fuel depth (cs ++ (gap ++ ']' :: rest)) =
        some (item, gap ++ ']' :: rest) := ih (by omega) ends
    rw [Piece.IsReadFrom]
    simpa using readItems_last read spaces
  | @nextItem depth item items cs gap ds own spaces later ih ih' =>
    simp only [List.length_append, List.length_cons] at enough
    obtain ⟨fuel, rfl⟩ : ∃ n, fuel = n + 1 := ⟨fuel - 1, by omega⟩
    have ends : Stops continuesNumber (gap ++ ',' :: (ds ++ rest)) :=
      continuesNumber_of_gap spaces (stops_cons.mpr (by decide))
    have read : readValue fuel depth (cs ++ (gap ++ ',' :: (ds ++ rest))) =
        some (item, gap ++ ',' :: (ds ++ rest)) := ih (by omega) ends
    have next : readItems fuel depth (ds ++ rest) = some (items, rest) := ih' (by omega) stops
    rw [Piece.IsReadFrom]
    simpa using readItems_next read spaces next
  | @lastMember depth key value before cs after colon own spaces ih =>
    simp only [List.length_append, List.length_cons] at enough
    obtain ⟨fuel, rfl⟩ : ∃ n, fuel = n + 1 := ⟨fuel - 1, by omega⟩
    have ends : Stops continuesNumber (after ++ '\x7d' :: rest) :=
      continuesNumber_of_gap spaces (stops_cons.mpr (by decide))
    have read : readValue fuel depth (cs ++ (after ++ '\x7d' :: rest)) =
        some (value, after ++ '\x7d' :: rest) := ih (by omega) ends
    rw [Piece.IsReadFrom]
    simpa using readMembers_last colon read spaces
  | @nextMember depth key value members before cs after ds colon own spaces later ih ih' =>
    simp only [List.length_append, List.length_cons] at enough
    obtain ⟨fuel, rfl⟩ : ∃ n, fuel = n + 1 := ⟨fuel - 1, by omega⟩
    have ends : Stops continuesNumber (after ++ ',' :: (ds ++ rest)) :=
      continuesNumber_of_gap spaces (stops_cons.mpr (by decide))
    have read : readValue fuel depth (cs ++ (after ++ ',' :: (ds ++ rest))) =
        some (value, after ++ ',' :: (ds ++ rest)) := ih (by omega) ends
    have next : readMembers fuel depth (ds ++ rest) = some (members, rest) :=
      ih' (by omega) stops
    rw [Piece.IsReadFrom]
    simpa using readMembers_next colon read spaces next

/-- **A text of a value** is read as this value, also with blanks behind it. -/
theorem parse?_append {value : Json} {text gap : String}
    (own : IsText deepest (.value value) text.toList) (spaces : IsGap gap.toList) :
    parse? (text ++ gap) = some value := by
  have enough : 2 * text.toList.length ≤ 2 * (text.toList ++ gap.toList).length + 2 := by
    rw [List.length_append]
    omega
  have stops : Stops continuesNumber gap.toList := by
    simpa using continuesNumber_of_gap spaces (stops_nil _)
  have read : readValue (2 * (text.toList ++ gap.toList).length + 2) deepest
      (text.toList ++ gap.toList) = some (value, gap.toList) := own.isReadFrom enough stops
  have nothing : skipSpace gap.toList = [] := List.dropWhile_eq_nil_iff.mpr spaces
  rw [parse?, String.toList_append, parseChars?, read]
  simp [nothing]

theorem parse?_of_isText {value : Json} {text : String}
    (own : IsText deepest (.value value) text.toList) : parse? text = some value := by
  have read : parse? (text ++ "") = some value := parse?_append own isGap_nil
  rwa [String.append_empty] at read

/-! ### Written values -/

/-- A value that its texts hold in full: there are no doubles, whole numbers fit a word, the members
of objects are in the order of their keys, and no more than so many arrays and objects stand inside
each other. -/
inductive IsExact : Nat → Json → Prop where
  | null {depth : Nat} : IsExact depth null
  | bool {depth : Nat} (b : Bool) : IsExact depth (bool b)
  | string {depth : Nat} (s : String) : IsExact depth (string s)
  | whole {depth : Nat} {n : Int} : Fits n → IsExact depth (number (.whole n))
  | array {depth : Nat} {items : List Json} :
      (∀ item ∈ items, IsExact depth item) → IsExact (depth + 1) (array items)
  | object {depth : Nat} {members : List (String × Json)} :
      Members.IsOrdered members → (∀ member ∈ members, IsExact depth member.2) →
      IsExact (depth + 1) (object members)

/-- An object is as deep as what its entries hold, and one more. -/
theorem isExact_ofEntries {depth : Nat} {entries : List (String × Json)}
    (all : ∀ entry ∈ entries, IsExact depth entry.2) : IsExact (depth + 1) (ofEntries entries) := by
  refine .object (settles_ofList entries).2 fun member mem => ?_
  rcases Members.mem_of_mem_insertAll mem with own | nothing
  · exact all member own
  · exact absurd nothing List.not_mem_nil

/-- The value with the members of its objects in the order of their keys. -/
def inOrder : Json → Json
  | array items => array (items.map inOrder)
  | object members => ofEntries (members.map fun member => (member.1, inOrder member.2))
  | value => value
decreasing_by
  all_goals simp_wf
  · have smaller := List.sizeOf_lt_of_mem ‹_ ∈ items›
    omega
  · have smaller := List.sizeOf_lt_of_mem ‹_ ∈ members›
    have inside : sizeOf member.2 < sizeOf member := by
      cases member
      simp only [Prod.mk.sizeOf_spec]
      omega
    omega

/-- A value of which a text loses nothing but the order of members: there are no doubles, whole
numbers fit a word, the members of an object have different keys, and no more than so many arrays
and objects stand inside each other. -/
inductive IsLossless : Nat → Json → Prop where
  | null {depth : Nat} : IsLossless depth null
  | bool {depth : Nat} (b : Bool) : IsLossless depth (bool b)
  | string {depth : Nat} (s : String) : IsLossless depth (string s)
  | whole {depth : Nat} {n : Int} : Fits n → IsLossless depth (number (.whole n))
  | array {depth : Nat} {items : List Json} :
      (∀ item ∈ items, IsLossless depth item) → IsLossless (depth + 1) (array items)
  | object {depth : Nat} {members : List (String × Json)} :
      (members.map (·.1)).Nodup → (∀ member ∈ members, IsLossless depth member.2) →
      IsLossless (depth + 1) (object members)

theorem IsExact.isLossless {depth : Nat} {value : Json} (exact : IsExact depth value) :
    IsLossless depth value := by
  induction exact with
  | null => exact .null
  | bool b => exact .bool b
  | string s => exact .string s
  | whole fits => exact .whole fits
  | array _ ih => exact .array ih
  | object ordered _ ih => exact .object ordered.nodup ih

@[simp] theorem inOrder_null : null.inOrder = null := by
  rw [inOrder] <;> simp

@[simp] theorem inOrder_bool (b : Bool) : (bool b).inOrder = bool b := by
  rw [inOrder] <;> simp

@[simp] theorem inOrder_string (s : String) : (string s).inOrder = string s := by
  rw [inOrder] <;> simp

@[simp] theorem inOrder_number (number : JsonNumber) :
    (Json.number number).inOrder = .number number := by
  rw [inOrder] <;> simp

@[simp] theorem inOrder_array (items : List Json) :
    (array items).inOrder = array (items.map inOrder) := by
  rw [inOrder]

@[simp] theorem inOrder_object (members : List (String × Json)) :
    (object members).inOrder =
      ofEntries (members.map fun member => (member.1, member.2.inOrder)) := by
  rw [inOrder]

theorem map_fst_inOrder (members : List (String × Json)) :
    (members.map fun member => (member.1, member.2.inOrder)).map (·.1) = members.map (·.1) := by
  simp [Function.comp_def]

theorem IsExact.inOrder_eq {depth : Nat} {value : Json} (exact : IsExact depth value) :
    value.inOrder = value := by
  induction exact with
  | null => exact inOrder_null
  | bool b => exact inOrder_bool b
  | string s => exact inOrder_string s
  | whole => exact inOrder_number _
  | array _ ih => rw [inOrder_array, List.map_congr_left ih, List.map_id']
  | @object depth members ordered _ ih =>
    have same : members.map (fun member => (member.1, inOrder member.2)) = members := by
      refine (List.map_congr_left fun member mem => ?_).trans (List.map_id _)
      rw [ih member mem]
      rfl
    rw [inOrder_object, same, ofEntries, ofList_of_isOrdered ordered]

section Layout

variable {depth : Nat} {space closing colon gap : List Char}

theorem IsText.behind_gap {piece : Piece} (spaces : IsGap gap) (own : IsText depth piece cs) :
    IsText depth piece (gap ++ cs) := by
  induction gap with
  | nil => exact own
  | cons c gap ih =>
    obtain ⟨first, others⟩ := List.forall_mem_cons.mp spaces
    exact .blank first (ih others)

/-- Items with the same blanks behind each comma are a text of all of them. -/
theorem isText_items (shown : Json → List Char) (spaces : IsGap space) (ends : IsGap closing)
    {first : Json} {others : List Json}
    (texts : ∀ item ∈ first :: others, IsText depth (.value item.inOrder) (shown item)) :
    IsText depth (.items ((first :: others).map inOrder)) (space ++
      ((',' :: space).intercalate ((first :: others).map shown) ++ (closing ++ [']']))) := by
  induction others generalizing first with
  | nil =>
    have own := texts first List.mem_cons_self
    simpa using IsText.behind_gap spaces (.lastItem own ends)
  | cons next others ih =>
    obtain ⟨own, later⟩ := List.forall_mem_cons.mp texts
    have both := IsText.nextItem own isGap_nil (ih later)
    simpa [List.intercalate_cons_cons] using IsText.behind_gap spaces both

theorem isText_members (shown : Json → List Char) (spaces : IsGap space) (ends : IsGap closing)
    (blanks : IsGap colon) {first : String × Json} {others : List (String × Json)}
    (texts : ∀ member ∈ first :: others, IsText depth (.value member.2.inOrder) (shown member.2)) :
    IsText depth (.members ((first :: others).map fun member => (member.1, member.2.inOrder)))
      (space ++ ((',' :: space).intercalate ((first :: others).map fun member =>
        (quote member.1).toList ++ ':' :: (colon ++ shown member.2)) ++
          (closing ++ ['\x7d']))) := by
  induction others generalizing first with
  | nil =>
    have own := IsText.behind_gap blanks (texts first List.mem_cons_self)
    have last : IsText depth (.members [(first.1, first.2.inOrder)]) _ :=
      .lastMember isGap_nil own ends
    simpa using IsText.behind_gap spaces last
  | cons next others ih =>
    obtain ⟨own, later⟩ := List.forall_mem_cons.mp texts
    have behind := IsText.behind_gap blanks own
    have both : IsText depth (.members ((first.1, first.2.inOrder) ::
        (next :: others).map fun member => (member.1, member.2.inOrder))) _ :=
      .nextMember isGap_nil behind isGap_nil (ih later)
    simpa [List.intercalate_cons_cons] using IsText.behind_gap spaces both

end Layout

theorem renderItems_eq (items : List Json) : renderItems items = items.map render := by
  induction items with
  | nil => rfl
  | cons item items ih => rw [renderItems, ih, List.map_cons]

theorem renderMembers_eq (members : List (String × Json)) :
    renderMembers members = members.map fun member => quote member.1 ++ ":" ++ render member.2 := by
  induction members with
  | nil => rfl
  | cons member members ih => rw [renderMembers, ih, List.map_cons]

theorem prettyItems_eq (depth : Nat) (items : List Json) :
    prettyItems depth items = items.map (prettyAt depth) := by
  induction items with
  | nil => rfl
  | cons item items ih => rw [prettyItems, ih, List.map_cons]

theorem prettyMembers_eq (depth : Nat) (members : List (String × Json)) :
    prettyMembers depth members =
      members.map fun member => quote member.1 ++ ": " ++ prettyAt depth member.2 := by
  induction members with
  | nil => rfl
  | cons member members ih => rw [prettyMembers, ih, List.map_cons]

theorem toList_render_array (items : List Json) :
    (render (array items)).toList =
      '[' :: ([','].intercalate (items.map (·.render.toList)) ++ [']']) := by
  rw [render, renderItems_eq]
  simp [Function.comp_def]

theorem toList_render_object (members : List (String × Json)) :
    (render (object members)).toList =
      '\x7b' :: ([','].intercalate (members.map fun member =>
        (quote member.1).toList ++ ':' :: member.2.render.toList) ++ ['\x7d']) := by
  rw [render, renderMembers_eq]
  simp [Function.comp_def]

/-- **The text on one line** is a text of the value with its members in order. -/
theorem isText_render {depth : Nat} {value : Json} (lossless : IsLossless depth value) :
    IsText depth (.value value.inOrder) (render value).toList := by
  induction lossless with
  | null =>
    rw [inOrder_null]
    exact .null
  | bool b =>
    rw [inOrder_bool]
    exact .bool b
  | string s =>
    rw [inOrder_string]
    exact .string s
  | @whole depth n fits =>
    rw [inOrder_number, render, JsonNumber.text, toList_toString]
    exact .whole fits
  | @array depth items own ih =>
    rw [inOrder_array, toList_render_array]
    cases items with
    | nil => exact .noItems isGap_nil
    | cons first others =>
      have texts := isText_items (·.render.toList) isGap_nil isGap_nil ih
      exact .array texts
  | @object depth members distinct own ih =>
    rw [inOrder_object, toList_render_object]
    cases members with
    | nil => exact .noMembers isGap_nil
    | cons first others =>
      have texts := isText_members (·.render.toList) isGap_nil isGap_nil isGap_nil ih
      exact .object (map_fst_inOrder (first :: others) ▸ distinct) texts

theorem toList_prettyAt_array (indent : Nat) {items : List Json} (filled : items ≠ []) :
    (prettyAt indent (array items)).toList =
      '[' :: ((newline (indent + 1)).toList ++
        ((',' :: (newline (indent + 1)).toList).intercalate
          (items.map fun item => (prettyAt (indent + 1) item).toList) ++
        ((newline indent).toList ++ [']']))) := by
  rw [prettyAt, prettyItems_eq]
  · simp [Function.comp_def]
  · exact filled

theorem toList_prettyAt_object (indent : Nat) {members : List (String × Json)}
    (filled : members ≠ []) :
    (prettyAt indent (object members)).toList =
      '\x7b' :: ((newline (indent + 1)).toList ++
        ((',' :: (newline (indent + 1)).toList).intercalate (members.map fun member =>
          (quote member.1).toList ++ ':' :: ' ' :: (prettyAt (indent + 1) member.2).toList) ++
        ((newline indent).toList ++ ['\x7d']))) := by
  rw [prettyAt, prettyMembers_eq]
  · simp [Function.comp_def]
  · exact filled

theorem isGap_newline (depth : Nat) : IsGap (newline depth).toList := by
  simp [newline, IsGap, isSpace]

/-- **The text over several lines** is a text of the value with its members in order. -/
theorem isText_prettyAt {depth : Nat} {value : Json} (lossless : IsLossless depth value)
    (indent : Nat) : IsText depth (.value value.inOrder) (prettyAt indent value).toList := by
  have one : IsGap [' '] := by simp [IsGap, isSpace]
  induction lossless generalizing indent with
  | null =>
    rw [inOrder_null]
    exact .null
  | bool b =>
    rw [inOrder_bool]
    exact .bool b
  | string s =>
    rw [inOrder_string]
    exact .string s
  | @whole depth n fits =>
    rw [inOrder_number, prettyAt, JsonNumber.text, toList_toString]
    exact .whole fits
  | @array depth items own ih =>
    rw [inOrder_array]
    cases items with
    | nil =>
      rw [prettyAt]
      exact .noItems isGap_nil
    | cons first others =>
      have texts := isText_items (fun item => (prettyAt (indent + 1) item).toList)
        (isGap_newline (indent + 1)) (isGap_newline indent) fun item mem => ih item mem (indent + 1)
      rw [toList_prettyAt_array indent (List.cons_ne_nil first others)]
      exact .array texts
  | @object depth members distinct own ih =>
    rw [inOrder_object]
    cases members with
    | nil =>
      rw [prettyAt]
      exact .noMembers isGap_nil
    | cons first others =>
      have texts := isText_members (fun value => (prettyAt (indent + 1) value).toList)
        (isGap_newline (indent + 1)) (isGap_newline indent) one
        fun member mem => ih member mem (indent + 1)
      rw [toList_prettyAt_object indent (List.cons_ne_nil first others)]
      exact .object (map_fst_inOrder (first :: others) ▸ distinct) texts

/-- **A value is read back** from the texts that are written of it but for the order of members. -/
theorem parse?_of_isLossless {value : Json} (lossless : IsLossless deepest value) :
    parse? value.render = some value.inOrder ∧ parse? value.pretty = some value.inOrder :=
  ⟨parse?_of_isText (isText_render lossless), parse?_of_isText (isText_prettyAt lossless 0)⟩

/-- **A value is read back from each of its texts**, if they hold it in full. -/
theorem parse?_texts {value : Json} (exact : IsExact deepest value) :
    parse? value.render = some value ∧ parse? value.pretty = some value ∧
      ∀ text : String, IsText deepest (.value value) text.toList → parse? text = some value := by
  obtain ⟨line, lines⟩ := parse?_of_isLossless exact.isLossless
  rw [exact.inOrder_eq] at line lines
  exact ⟨line, lines, fun _ own => parse?_of_isText own⟩

end CatalogFeeds.Json
