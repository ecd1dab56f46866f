import CatalogFeeds.Proofs.Time.Internet
import Mathlib.Data.List.DropRight
import Mathlib.Data.List.Nodup
/-!
Instants in the form of mail headers.

* `zone_reads` — zones by their names and offsets.
* `afterComment?_append`, `afterComment?_sound` — comments in parentheses, which may be nested.
* `mail?_eq_ok_iff` — a text is read in this form exactly if it is written in it.
* `parse?_eq_some_iff` — a text of a catalogue is read in one of the two forms, and there is none
  that both would read.
-/

namespace CatalogFeeds.Time

open CatalogFeeds.Text

variable {cs ds rest word : List Char} {n : Nat} {names : List String}

/-! ### Names -/

/-- A word is a name of a list but for the case of its letters. -/
def IsName (names : List String) (word : List Char) (i : Nat) : Prop :=
  ∃ name, names[i]? = some name ∧ word.map lower = name.toList.map lower

/-- Names of three letters that differ in more than case. -/
structure AreShortNames (names : List String) : Prop where
  three : ∀ name ∈ names, name.toList.length = 3
  letters : ∀ name ∈ names, ∀ c ∈ name.toList, isLetter (lower c) = true
  distinct : (names.map (·.toList.map lower)).Nodup

theorem areShortNames_of_all (distinct : (names.map (·.toList.map lower)).Nodup)
    (all : names.all (fun name => name.toList.length == 3 &&
      name.toList.all fun c => isLetter (lower c)) = true) : AreShortNames names := by
  simp only [List.all_eq_true, Bool.and_eq_true, beq_iff_eq] at all
  exact ⟨fun name mem => (all name mem).1, fun name mem => (all name mem).2, distinct⟩

theorem areShortNames_months : AreShortNames monthNames :=
  areShortNames_of_all (by decide) (by decide)

theorem areShortNames_weekdays : AreShortNames weekdayNames :=
  areShortNames_of_all (by decide) (by decide)

theorem isLetter_of_lower {c : Char} (letter : isLetter (lower c) = true) : isLetter c = true := by
  by_contra other
  have same : lower c = c := by
    unfold lower
    rw [if_neg]
    intro capital
    simp [isLetter, capital] at other
  rw [same] at letter
  exact other letter

theorem IsName.isLetter (short : AreShortNames names) (h : IsName names word n) :
    ∀ c ∈ word, isLetter c = true := by
  obtain ⟨name, named, same⟩ := h
  intro c mem
  have lowered : lower c ∈ name.toList.map lower := same ▸ List.mem_map_of_mem mem
  obtain ⟨d, inside, same⟩ := List.mem_map.mp lowered
  apply isLetter_of_lower
  rw [← same]
  exact short.letters name (List.mem_of_getElem? named) d inside

theorem IsName.length (short : AreShortNames names) (h : IsName names word n) :
    word.length = 3 := by
  obtain ⟨name, named, same⟩ := h
  have lengths := congrArg List.length same
  rw [List.length_map, List.length_map, short.three name (List.mem_of_getElem? named)] at lengths
  exact lengths

theorem findIdx?_name_iff (short : AreShortNames names) :
    names.findIdx? (fun name => name.toList.map lower == word.map lower) = some n ↔
      IsName names word n := by
  rw [List.findIdx?_eq_some_iff_getElem]
  constructor
  · rintro ⟨inside, same, -⟩
    exact ⟨names[n], List.getElem?_eq_getElem inside, (beq_iff_eq.mp same).symm⟩
  · rintro ⟨name, named, same⟩
    obtain ⟨inside, rfl⟩ := List.getElem?_eq_some_iff.mp named
    refine ⟨inside, beq_iff_eq.mpr same.symm, ?_⟩
    intro i before again
    have before' : i < (names.map (·.toList.map lower)).length := by
      rw [List.length_map]
      exact before.trans inside
    have inside' : n < (names.map (·.toList.map lower)).length := by rwa [List.length_map]
    have equal : (names.map (·.toList.map lower))[i] = (names.map (·.toList.map lower))[n] := by
      rw [List.getElem_map, List.getElem_map, ← same]
      exact beq_iff_eq.mp again
    exact absurd ((List.Nodup.getElem_inj_iff short.distinct).mp equal) before.ne

/-- **A name is read** whatever the case of its letters. -/
theorem shortName?_eq_some_iff (short : AreShortNames names) :
    shortName? names cs = some (n, rest) ↔ ∃ word, cs = word ++ rest ∧ IsName names word n := by
  constructor
  · intro h
    unfold shortName? at h
    split at h
    · rename_i a b c left
      obtain ⟨i, found, same⟩ := Option.map_eq_some_iff.mp h
      obtain ⟨rfl, rfl⟩ := Prod.mk.inj same
      exact ⟨[a, b, c], rfl, (findIdx?_name_iff short).mp found⟩
    · cases h
  · rintro ⟨word, rfl, named⟩
    obtain ⟨a, b, c, rfl⟩ := List.length_eq_three.mp (named.length short)
    have found := (findIdx?_name_iff short).mpr named
    simp only [List.cons_append, List.nil_append, shortName?, found, Option.map_some]

theorem IsName.stops_isBlank (short : AreShortNames names) (named : IsName names word n)
    (rest : List Char) : Stops isBlank (word ++ rest) := by
  have length := named.length short
  refine stops_append ?_ (fun c mem => not_isBlank_of_isLetter (named.isLetter short c mem)) rest
  rintro rfl
  simp at length

/-- A name does not begin with anything but a letter. -/
theorem shortName?_eq_none (short : AreShortNames names) (stops : Stops isLetter cs) :
    shortName? names cs = none := by
  by_contra found
  obtain ⟨⟨i, rest⟩, found⟩ := Option.ne_none_iff_exists'.mp found
  obtain ⟨word, rfl, named⟩ := (shortName?_eq_some_iff short).mp found
  obtain ⟨a, b, c, rfl⟩ := List.length_eq_three.mp (named.length short)
  have letter := named.isLetter short a (by simp)
  simp [letter] at stops

theorem monthPart_reads : monthPart.Reads
    (fun word month => ∃ i, IsName monthNames word i ∧ month = i + 1) fun _ => True where
  sound := by
    intro cs rest month h
    unfold monthPart at h
    split at h
    · rename_i found
      obtain ⟨rfl, rfl⟩ := Prod.mk.inj (Except.ok.inj h)
      obtain ⟨word, whole, named⟩ := (shortName?_eq_some_iff areShortNames_months).mp found
      exact ⟨word, whole, _, named, rfl⟩
    · cases h
  complete := by
    rintro word rest month ⟨i, named, rfl⟩ -
    have found : shortName? monthNames (word ++ rest) = some (i, rest) :=
      (shortName?_eq_some_iff areShortNames_months).mpr ⟨word, rfl, named⟩
    unfold monthPart
    rw [found]

/-- A weekday with a comma and perhaps blanks behind it, if there is one. -/
inductive IsWeekday : List Char → Option Nat → Prop
  | none : IsWeekday [] none
  | named {word gap : List Char} {day : Nat} (own : IsName weekdayNames word day)
    (blank : IsGap gap) : IsWeekday (word ++ ',' :: gap) (some day)

variable {weekday : Option Nat} {gap front : List Char}

theorem weekdayPart_sound (h : weekdayPart (skipBlanks cs) = .ok (weekday, rest)) :
    ∃ gap front, cs = gap ++ (front ++ skipBlanks rest) ∧ IsGap gap ∧ IsWeekday front weekday := by
  obtain ⟨gap, whole, blank⟩ := exists_skipBlanks cs
  unfold weekdayPart at h
  split at h
  · rename_i day left found
    obtain ⟨rfl, rfl⟩ := Prod.mk.inj (Except.ok.inj h)
    obtain ⟨word, start, named⟩ := (shortName?_eq_some_iff areShortNames_weekdays).mp found
    obtain ⟨inner, later, blank'⟩ := exists_skipBlanks left
    refine ⟨gap, word ++ ',' :: inner, ?_, blank, .named named blank'⟩
    rw [whole, start]
    simp [← later]
  · cases h
  · obtain ⟨rfl, rfl⟩ := Prod.mk.inj (Except.ok.inj h)
    refine ⟨gap, [], ?_, blank, .none⟩
    rw [skipBlanks, skipBlanks, List.dropWhile_idempotent]
    exact whole

theorem weekdayPart_complete (blank : IsGap gap) (own : IsWeekday front weekday)
    (visible : Stops isBlank rest) (stops : Stops isLetter rest) :
    ∃ left, weekdayPart (skipBlanks (gap ++ (front ++ rest))) = .ok (weekday, left) ∧
      skipBlanks left = rest := by
  cases own with
  | none =>
    refine ⟨rest, ?_, dropWhile_of_stops visible⟩
    rw [List.nil_append, skipBlanks_append blank visible, weekdayPart,
      shortName?_eq_none areShortNames_weekdays stops]
  | @named word inner day own blank' =>
    refine ⟨inner ++ rest, ?_, skipBlanks_append blank' visible⟩
    have found : shortName? weekdayNames (word ++ ',' :: (inner ++ rest)) =
        some (day, ',' :: (inner ++ rest)) :=
      (shortName?_eq_some_iff areShortNames_weekdays).mpr ⟨word, rfl, own⟩
    rw [List.append_assoc, List.cons_append,
      skipBlanks_append blank (own.stops_isBlank areShortNames_weekdays _), weekdayPart, found]
    rfl

/-! ### Years and seconds -/

/-- The year that a number of so many digits stands for. Two digits are meant for the years 1950 to
2049, and three count from 1900. -/
def fullYear (digits n : Nat) : Nat :=
  match digits with
  | 2 => if n < 50 then n + 2000 else n + 1900
  | 3 => n + 1900
  | _ => n

/-- A year of two or more digits. -/
def IsMailYear (ds : List Char) (year : Int) : Prop :=
  ∃ n, IsNumber 2 none ds n ∧ year = fullYear ds.length n

theorem IsMailYear.stops_isBlank {year : Int} (own : IsMailYear ds year) (rest : List Char) :
    Stops isBlank (ds ++ rest) := by
  obtain ⟨n, own, -⟩ := own
  exact own.stops (by decide) (fun _ => not_isBlank_of_isDigit) rest

theorem le_fullYear (digits n : Nat) : n ≤ fullYear digits n := by
  unfold fullYear
  split <;> try split
  all_goals omega

theorem mailYear_reads : mailYear.Reads
    (fun ds year => IsMailYear ds year ∧ year < (Number.twoTo 31 : Nat)) (Stops isDigit) where
  sound := by
    intro cs rest year h
    obtain ⟨⟨n, left⟩, read, h₁⟩ := bind_eq_ok_iff.mp h
    obtain ⟨small, same⟩ := guard_eq_ok_iff.mp h₁
    obtain ⟨rfl, rfl⟩ := Prod.mk.inj (Except.ok.inj same)
    obtain ⟨ds, rfl, own, -⟩ := (number_reads _ _).sound read
    rw [List.length_append, Nat.add_sub_cancel] at small ⊢
    exact ⟨ds, rfl, ⟨n, own, rfl⟩, Int.ofNat_lt.mpr (Nat.not_le.mp small)⟩
  complete := by
    rintro ds rest year ⟨⟨n, own, rfl⟩, small⟩ stops
    have bound : fullYear ds.length n < Number.twoTo 31 := Int.ofNat_lt.mp small
    have fits : n < Number.signedLimit :=
      ((le_fullYear ds.length n).trans_lt bound).trans (by decide)
    have read : number 2 none (ds ++ rest) = .ok (n, rest) :=
      (number_reads _ _).complete ⟨own, fits⟩ (.inr stops)
    simp only [mailYear, read, bind, Except.bind, List.length_append, Nat.add_sub_cancel]
    exact guard_eq_ok_iff.mpr ⟨Nat.not_le.mpr bound, rfl⟩

/-- Seconds behind a colon, if there are any. -/
inductive IsSecond : List Char → Nat → Prop
  | none : IsSecond [] 0
  | digits {gap ss : List Char} {n : Nat} (blank : IsGap gap) (own : IsNumber 2 (some 2) ss n)
    (latest : n ≤ 60) : IsSecond (gap ++ ':' :: ss) n

theorem IsSecond.le (h : IsSecond cs n) : n ≤ 60 := by
  cases h with
  | none => decide
  | digits blank own latest => exact latest

theorem optionalSecond_sound (h : optionalSecond cs = .ok (n, rest)) :
    ∃ front, cs = front ++ rest ∧ IsSecond front n := by
  unfold optionalSecond at h
  split at h
  · rename_i left skipped
    obtain ⟨gap, whole, blank⟩ := exists_skipBlanks cs
    obtain ⟨ss, rfl, own, -, latest⟩ := (numberWithin_reads _ _ _ (by decide)).sound h
    exact ⟨gap ++ ':' :: ss, by rw [whole, skipped]; simp, .digits blank own latest⟩
  · obtain ⟨rfl, rfl⟩ := Prod.mk.inj (Except.ok.inj h)
    exact ⟨[], rfl, .none⟩

theorem optionalSecond_complete {front : List Char} (own : IsSecond front n)
    (stops : Stops (· == ':') (skipBlanks rest)) :
    optionalSecond (front ++ rest) = .ok (n, rest) := by
  unfold optionalSecond
  cases own with
  | none =>
    split
    · rename_i left skipped
      rw [List.nil_append] at skipped
      simp [skipped] at stops
    · rfl
  | digits blank own latest =>
    rw [List.append_assoc, skipBlanks_append blank (by simp; decide), List.cons_append]
    exact field_complete own (Nat.zero_le _) latest (by decide) rest

/-! ### Zones -/

/-- A zone: the name of one, or hours and minutes. -/
inductive IsMailZone : List Char → Int → Prop
  | named {name : List Char} {hours : Int} (filled : name ≠ [])
    (letters : ∀ c ∈ name, isLetter c = true)
    (known : zoneHours? (String.ofList (name.map lower)) = some hours) :
    IsMailZone name (hours * 3600)
  | numeric {cs : List Char} {shift : Int} (own : IsOffset (westSigns false) [] cs shift) :
    IsMailZone cs shift

variable {shift : Int}

theorem IsMailZone.minutes (h : IsMailZone cs shift) : shift % 60 = 0 := by
  cases h with
  | named => omega
  | numeric own => exact own.minutes

/-- A zone begins with a letter or a sign. -/
theorem IsMailZone.stops (h : IsMailZone cs shift) (rest : List Char) :
    Stops isBlank (cs ++ rest) ∧ Stops (· == ':') (cs ++ rest) := by
  cases h with
  | named filled letters =>
    refine ⟨stops_append filled (fun c mem => not_isBlank_of_isLetter (letters c mem)) rest,
      stops_append filled (fun c mem => ?_) rest⟩
    rw [beq_eq_false_iff_ne]
    rintro rfl
    exact absurd (letters _ mem) (by decide)
  | numeric own =>
    obtain ⟨c, tail, rfl, sign⟩ := own.exists_sign
    have marks : ('+' :: westSigns false).all (fun c => !isBlank c && c != ':') = true := by decide
    simpa using List.all_eq_true.mp marks c sign

theorem zone_reads : zone.Reads IsMailZone (Stops isLetter) where
  sound := by
    intro cs rest shift h
    unfold zone at h
    simp only at h
    split at h
    · have skips : ∀ {cs rest : List Char}, (Except.ok cs : Except TimeError _) = .ok rest →
          cs = [] ++ rest := Except.ok.inj
      obtain ⟨front, whole, own⟩ := numericOffset_sound skips h
      exact ⟨front, whole, .numeric own⟩
    · rename_i filled
      split at h
      · rename_i hours known
        obtain ⟨rfl, rfl⟩ := Prod.mk.inj (Except.ok.inj h)
        refine ⟨cs.takeWhile isLetter, ?_, .named (by simpa using filled) ?_ known⟩
        · have front : cs.takeWhile isLetter <+: cs := List.takeWhile_prefix isLetter
          exact (List.prefix_iff_eq_append.mp front).symm
        · exact fun c mem => List.mem_takeWhile_imp mem
      · cases h
  complete := by
    intro front rest shift own stops
    unfold zone
    cases own with
    | named filled letters known =>
      have name : (front ++ rest).takeWhile isLetter = front := by
        rw [List.takeWhile_append_of_pos letters, takeWhile_of_stops stops, List.append_nil]
      simp [name, filled, known]
    | numeric own =>
      obtain ⟨c, tail, rfl, sign⟩ := own.exists_sign
      have marks : ('+' :: westSigns false).all (fun c => !isLetter c) = true := by decide
      have name : (c :: tail ++ rest).takeWhile isLetter = [] :=
        takeWhile_of_stops (by simpa using List.all_eq_true.mp marks c sign)
      simp only [name, List.isEmpty_nil, if_true]
      exact numericOffset_complete (fun _ => rfl) own

/-! ### Comments -/

/-- What stands in the parentheses of a comment: characters, of which some are quoted by a
backslash, and further comments. -/
inductive IsCommentText : List Char → Prop
  | nil : IsCommentText []
  | plain {c : Char} {rest : List Char} (own : c ≠ '\\' ∧ c ≠ '(' ∧ c ≠ ')')
    (later : IsCommentText rest) : IsCommentText (c :: rest)
  | quoted {c : Char} {rest : List Char} (later : IsCommentText rest) :
    IsCommentText ('\\' :: c :: rest)
  | nested {inner rest : List Char} (own : IsCommentText inner) (later : IsCommentText rest) :
    IsCommentText ('(' :: (inner ++ ')' :: rest))

/-- Comments with blanks in front of them. -/
inductive AreComments : List Char → Prop
  | nil : AreComments []
  | cons {gap inner rest : List Char} (blank : IsGap gap) (own : IsCommentText inner)
    (later : AreComments rest) : AreComments (gap ++ '(' :: (inner ++ ')' :: rest))

/-- What is left when a comment of some depth has ended. -/
def leave (depth : Nat) (rest : List Char) : Option (List Char) :=
  match depth with
  | 0 => some rest
  | depth + 1 => afterComment? (depth + 1) rest

theorem afterComment?_plain {c : Char} (own : c ≠ '\\' ∧ c ≠ '(' ∧ c ≠ ')') (depth : Nat)
    (rest : List Char) :
    afterComment? (depth + 1) (c :: rest) = afterComment? (depth + 1) rest := by
  obtain ⟨quote, opening, closing⟩ := own
  rw [afterComment?]
  all_goals simp_all

theorem afterComment?_quoted (c : Char) (depth : Nat) (rest : List Char) :
    afterComment? (depth + 1) ('\\' :: c :: rest) = afterComment? (depth + 1) rest := by
  rw [afterComment?]

theorem afterComment?_open (depth : Nat) (rest : List Char) :
    afterComment? (depth + 1) ('(' :: rest) = afterComment? (depth + 2) rest := by
  rw [afterComment?]

theorem afterComment?_close (depth : Nat) (rest : List Char) :
    afterComment? (depth + 1) (')' :: rest) = leave depth rest := by
  cases depth with
  | zero => rw [afterComment?, leave]
  | succ depth => rw [afterComment?, leave]; simp

theorem afterComment?_append {inner : List Char} (own : IsCommentText inner) (depth : Nat)
    (rest : List Char) : afterComment? (depth + 1) (inner ++ ')' :: rest) = leave depth rest := by
  induction own generalizing depth rest with
  | nil => exact afterComment?_close depth rest
  | plain own later ih => rw [List.cons_append, afterComment?_plain own, ih]
  | quoted later ih => rw [List.cons_append, List.cons_append, afterComment?_quoted, ih]
  | nested own later ih ih' =>
    rw [List.cons_append, afterComment?_open, List.append_assoc, List.cons_append, ih, leave, ih']

theorem afterComment?_sound {depth : Nat} (h : afterComment? (depth + 1) cs = some rest) :
    ∃ inner tail, cs = inner ++ ')' :: tail ∧ IsCommentText inner ∧
      leave depth tail = some rest := by
  -- Behind a nested comment the text goes on, so the induction is on its length.
  induction size : cs.length using Nat.strongRecOn generalizing cs depth with
  | _ bound ih =>
  cases cs with
  | nil => simp [afterComment?] at h
  | cons c cs =>
    have shorter : cs.length < bound := size ▸ Nat.lt_succ_self cs.length
    by_cases closing : c = ')'
    · subst closing
      rw [afterComment?_close] at h
      exact ⟨[], cs, rfl, .nil, h⟩
    by_cases opening : c = '('
    · subst opening
      rw [afterComment?_open] at h
      obtain ⟨inner, tail, rfl, own, left⟩ := ih cs.length shorter h rfl
      rw [List.length_append, List.length_cons] at shorter
      obtain ⟨inner', tail', rfl, later, left'⟩ := ih tail.length (by omega) left rfl
      exact ⟨'(' :: (inner ++ ')' :: inner'), tail', by simp, .nested own later, left'⟩
    by_cases quote : c = '\\'
    · subst quote
      cases cs with
      | nil => simp [afterComment?] at h
      | cons d cs =>
        rw [afterComment?_quoted] at h
        rw [List.length_cons] at shorter
        obtain ⟨inner, tail, rfl, later, left⟩ := ih cs.length (by omega) h rfl
        exact ⟨'\\' :: d :: inner, tail, rfl, .quoted later, left⟩
    · rw [afterComment?_plain ⟨quote, opening, closing⟩] at h
      obtain ⟨inner, tail, rfl, later, left⟩ := ih cs.length shorter h rfl
      exact ⟨c :: inner, tail, rfl, .plain ⟨quote, opening, closing⟩ later, left⟩

theorem skipComments_sound {bound : Nat} (h : skipComments bound cs = []) : AreComments cs := by
  induction bound generalizing cs with
  | zero =>
    obtain rfl : cs = [] := h
    exact .nil
  | succ bound ih =>
    rw [skipComments] at h
    split at h
    · rename_i left skipped
      obtain ⟨gap, whole, blank⟩ := exists_skipBlanks cs
      split at h
      · rename_i later closed
        obtain ⟨inner, tail, rfl, own, same⟩ := afterComment?_sound closed
        obtain rfl : tail = later := Option.some.inj same
        rw [whole, skipped]
        exact .cons blank own (ih h)
      · rw [h] at skipped
        cases skipped
    · rw [h]
      exact .nil

theorem skipComments_complete {bound : Nat} (own : AreComments cs) (enough : cs.length ≤ bound) :
    skipComments bound cs = [] := by
  induction own generalizing bound with
  | nil => cases bound <;> rfl
  | @cons gap inner rest blank own later ih =>
    cases bound with
    | zero => simp at enough
    | succ bound =>
      have fits : rest.length ≤ bound := by
        simp at enough
        omega
      have closed : afterComment? 1 (inner ++ ')' :: rest) = some rest :=
        afterComment?_append own 0 rest
      rw [skipComments, skipBlanks_append blank (by simp; decide)]
      simp only [closed]
      exact ih fits

/-- **Comments are skipped** up to the end of a text that has nothing but comments. -/
theorem skipComments_eq_nil_iff : skipComments cs.length cs = [] ↔ AreComments cs :=
  ⟨skipComments_sound, fun own => skipComments_complete own le_rfl⟩

/-- Comments end a zone. -/
theorem AreComments.stops (h : AreComments cs) : Stops isLetter cs := by
  cases h with
  | nil => rfl
  | @cons gap inner rest blank own later =>
    cases gap with
    | nil => rfl
    | cons c gap =>
      have first := blank c List.mem_cons_self
      cases letter : isLetter c with
      | false => simpa using letter
      | true => simp [not_isBlank_of_isLetter letter] at first

/-! ### The form of mail headers -/

/-- A text in the form of mail headers: perhaps a weekday, then a day, the name of a month and a
year, the time of day, and a zone, with blanks between them and perhaps comments in the end. -/
inductive IsMailTime : List Char → Instant → Prop
  | intro {gap₁ gap₂ gap₃ gap₄ gap₅ gap₆ gap₇ wd dd mon yyyy hh mi ss zone comments : List Char}
    {weekday : Option Nat} {day month hour minute second : Nat} {year shift : Int} {t : Instant}
    (start : IsGap gap₁)
    (weekdays : IsWeekday wd weekday)
    (days : IsNumber 1 (some 2) dd day)
    (afterDay : IsSpace gap₂)
    (months : IsName monthNames mon month)
    (afterMonth : IsSpace gap₃)
    (years : IsMailYear yyyy year)
    (afterYear : IsSpace gap₄)
    (hours : IsNumber 2 (some 2) hh hour)
    (beforeColon : IsGap gap₅)
    (afterColon : IsGap gap₆)
    (minutes : IsNumber 2 (some 2) mi minute)
    (seconds : IsSecond ss second)
    (beforeZone : IsSpace gap₇)
    (zones : IsMailZone zone shift)
    (rest : AreComments comments)
    (denotes : Fields.Denotes ⟨year, month + 1, day, hour, minute, second, 0, shift, weekday⟩ t) :
    IsMailTime (gap₁ ++ (wd ++ (dd ++ (gap₂ ++ (mon ++ (gap₃ ++ (yyyy ++ (gap₄ ++ (hh ++
      (gap₅ ++ ':' :: (gap₆ ++ (mi ++ (ss ++ (gap₇ ++ (zone ++ comments))))))))))))))) t

variable {t : Instant}

theorem mail?_sound (h : Instant.mail? cs = .ok t) : IsMailTime cs t := by
  obtain ⟨⟨weekday, cs₁⟩, weekdayRead, h₁⟩ := bind_eq_ok_iff.mp h
  obtain ⟨⟨day, cs₂⟩, dayRead, h₂⟩ := bind_eq_ok_iff.mp h₁
  obtain ⟨cs₃, afterDay, h₃⟩ := bind_eq_ok_iff.mp h₂
  obtain ⟨⟨month, cs₄⟩, monthRead, h₄⟩ := bind_eq_ok_iff.mp h₃
  obtain ⟨cs₅, afterMonth, h₅⟩ := bind_eq_ok_iff.mp h₄
  obtain ⟨⟨year, cs₆⟩, yearRead, h₆⟩ := bind_eq_ok_iff.mp h₅
  obtain ⟨cs₇, afterYear, h₇⟩ := bind_eq_ok_iff.mp h₆
  obtain ⟨⟨hour, cs₈⟩, hourRead, h₈⟩ := bind_eq_ok_iff.mp h₇
  obtain ⟨cs₉, colon, h₉⟩ := bind_eq_ok_iff.mp h₈
  obtain ⟨⟨minute, cs₁₀⟩, minuteRead, h₁₀⟩ := bind_eq_ok_iff.mp h₉
  obtain ⟨⟨second, cs₁₁⟩, secondRead, h₁₁⟩ := bind_eq_ok_iff.mp h₁₀
  obtain ⟨cs₁₂, beforeZone, h₁₂⟩ := bind_eq_ok_iff.mp h₁₁
  obtain ⟨⟨shift, cs₁₃⟩, zoneRead, h₁₃⟩ := bind_eq_ok_iff.mp h₁₂
  obtain ⟨ends, read⟩ := guard_eq_ok_iff.mp h₁₃
  -- A reader says what it took in front of what it left: the text is put together from its end.
  have comments : AreComments cs₁₃ := skipComments_eq_nil_iff.mp (by simpa using ends)
  obtain ⟨zone, rfl, zones⟩ := zone_reads.sound zoneRead
  obtain ⟨gap₇, rfl, space₇⟩ := blanks_sound beforeZone
  obtain ⟨ss, rfl, seconds⟩ := optionalSecond_sound secondRead
  obtain ⟨gap₆, mi, rfl, blank₆, minutes, -, lastMinute⟩ :=
    (numberWithin_reads _ _ _ (by decide)).sound_loose minuteRead
  obtain ⟨gap₅, rfl, blank₅⟩ := looseCharacter_sound colon
  obtain ⟨hh, rfl, hours, -, lastHour⟩ := (numberWithin_reads _ _ _ (by decide)).sound hourRead
  obtain ⟨gap₄, rfl, space₄⟩ := blanks_sound afterYear
  obtain ⟨yyyy, rfl, years, -⟩ := mailYear_reads.sound yearRead
  obtain ⟨gap₃, rfl, space₃⟩ := blanks_sound afterMonth
  obtain ⟨mon, rfl, index, months, rfl⟩ := monthPart_reads.sound monthRead
  obtain ⟨gap₂, rfl, space₂⟩ := blanks_sound afterDay
  obtain ⟨dd, afterWeekday, days, -⟩ := (numberWithin_reads _ _ _ (by decide)).sound dayRead
  obtain ⟨gap₁, wd, whole, blank₁, weekdays⟩ := weekdayPart_sound weekdayRead
  rw [whole, afterWeekday]
  have latest := seconds.le
  have denotes := (Fields.instant_eq_ok_iff ⟨lastHour, lastMinute, latest⟩).mp read
  exact .intro blank₁ weekdays days space₂ months space₃ years space₄ hours blank₅ blank₆ minutes
    seconds space₇ zones comments denotes

theorem mail?_complete (h : IsMailTime cs t) : Instant.mail? cs = .ok t := by
  obtain ⟨start, weekdays, days, afterDay, months, afterMonth, years, afterYear, hours,
    beforeColon, afterColon, minutes, seconds, beforeZone, zones, comments, denotes⟩ := h
  obtain ⟨-, firstDate, lastDate⟩ := denotes.date
  obtain ⟨lastHour, lastMinute, latest⟩ := denotes.clock
  have blankless : ∀ d, isDigit d = true → isBlank d = false := fun _ => not_isBlank_of_isDigit
  have unlettered : ∀ d, isDigit d = true → isLetter d = false := fun _ => not_isLetter_of_isDigit
  have small : lastYear < (Number.twoTo 31 : Nat) := by decide
  obtain ⟨left, weekdayRead, behind⟩ := weekdayPart_complete start weekdays
    (days.stops (by decide) blankless _) (days.stops (by decide) unlettered _)
  refine bind_eq_ok_iff.mpr ⟨_, weekdayRead, ?_⟩
  simp only [behind]
  refine bind_eq_ok_iff.mpr ⟨_, (numberWithin_reads _ _ _ (by decide)).complete
    ⟨days, firstDate, lastDate⟩ (.inr (afterDay.stops_isDigit _)), ?_⟩
  refine bind_eq_ok_iff.mpr
    ⟨_, blanks_complete afterDay (months.stops_isBlank areShortNames_months _), ?_⟩
  refine bind_eq_ok_iff.mpr ⟨_, monthPart_reads.complete ⟨_, months, rfl⟩ trivial, ?_⟩
  refine bind_eq_ok_iff.mpr ⟨_, blanks_complete afterMonth (years.stops_isBlank _), ?_⟩
  refine bind_eq_ok_iff.mpr ⟨_, mailYear_reads.complete ⟨years, denotes.years.2.trans_lt small⟩
    (afterYear.stops_isDigit _), ?_⟩
  refine bind_eq_ok_iff.mpr ⟨_, blanks_complete afterYear (hours.stops (by decide) blankless _), ?_⟩
  refine bind_eq_ok_iff.mpr
    ⟨_, field_complete hours (Nat.zero_le _) lastHour (by decide) _, ?_⟩
  refine bind_eq_ok_iff.mpr ⟨_, looseCharacter_complete beforeColon (by decide) _, ?_⟩
  simp only [skipBlanks_append afterColon (minutes.stops (by decide) blankless _)]
  refine bind_eq_ok_iff.mpr
    ⟨_, field_complete minutes (Nat.zero_le _) lastMinute (by decide) _, ?_⟩
  refine bind_eq_ok_iff.mpr ⟨_, optionalSecond_complete seconds ?_, ?_⟩
  · rw [skipBlanks_append beforeZone.1 (zones.stops _).1]
    exact (zones.stops _).2
  refine bind_eq_ok_iff.mpr ⟨_, blanks_complete beforeZone (zones.stops _).1, ?_⟩
  refine bind_eq_ok_iff.mpr ⟨_, zone_reads.complete zones comments.stops, ?_⟩
  simp only [skipComments_eq_nil_iff.mpr comments]
  exact (Fields.instant_eq_ok_iff denotes.clock).mpr denotes

/-- **A text is read in the form of mail headers** exactly if it is written in it. -/
theorem mail?_eq_ok_iff : Instant.mail? cs = .ok t ↔ IsMailTime cs t :=
  ⟨mail?_sound, mail?_complete⟩

/-! ### Both forms -/

theorem isDigit_of_internet {c : Char} (h : IsInternetTime cs t) (mem : c ∈ cs.take 3) :
    isDigit c = true := by
  obtain ⟨years⟩ := h
  refine years.digits c ?_
  have long := years.least
  rw [List.take_append_of_le_length (by omega)] at mem
  exact List.mem_of_mem_take mem

/-- A text in the form of mail headers begins with a blank, a letter or a day of two digits at
most. -/
theorem exists_of_start {gap space wd dd : List Char} {weekday : Option Nat} {day : Nat}
    (start : IsGap gap) (weekdays : IsWeekday wd weekday) (days : IsNumber 1 (some 2) dd day)
    (afterDay : IsSpace space) (rest : List Char) :
    ∃ c ∈ (gap ++ (wd ++ (dd ++ (space ++ rest)))).take 3, isDigit c = false := by
  cases gap with
  | cons c gap => exact ⟨c, by simp, not_isDigit_of_isBlank (start c List.mem_cons_self)⟩
  | nil =>
    cases weekdays with
    | @named word gap day own blank =>
      obtain ⟨a, b, c, rfl⟩ := List.length_eq_three.mp (own.length areShortNames_weekdays)
      have letter := own.isLetter areShortNames_weekdays a (by simp)
      refine ⟨a, by simp, ?_⟩
      by_contra digit
      simp [not_isLetter_of_isDigit (by simpa using digit)] at letter
    | none =>
      obtain ⟨blank, filled⟩ := afterDay
      obtain ⟨c, space, rfl⟩ := List.exists_cons_of_ne_nil filled
      refine ⟨c, ?_, not_isDigit_of_isBlank (blank c List.mem_cons_self)⟩
      have short := days.most 2 rfl
      rw [List.nil_append, List.nil_append, List.take_append, List.mem_append]
      right
      obtain ⟨more, count⟩ : ∃ more, 3 - dd.length = more + 1 := ⟨2 - dd.length, by omega⟩
      rw [count]
      simp

theorem exists_of_mail (h : IsMailTime cs t) : ∃ c ∈ cs.take 3, isDigit c = false := by
  obtain ⟨start, weekdays, days, afterDay⟩ := h
  exact exists_of_start start weekdays days afterDay _

/-- No text is written in both forms. -/
theorem not_both {u : Instant} (h : IsInternetTime cs t) : ¬ IsMailTime cs u := by
  intro h'
  obtain ⟨c, mem, other⟩ := exists_of_mail h'
  rw [isDigit_of_internet h mem] at other
  cases other

/-- **Which texts a catalogue may write an instant in**: those of the two forms, with blanks around
them. -/
theorem parse?_eq_some_iff {text : String} : Instant.parse? text = some t ↔
    IsInternetTime (trim text.toList) t ∨ IsMailTime (trim text.toList) t := by
  unfold Instant.parse?
  rw [← internet?_eq_ok_iff, ← mail?_eq_ok_iff]
  cases read : Instant.internet? (trim text.toList) with
  | ok u =>
    have strict := internet?_eq_ok_iff.mp read
    have other : Instant.mail? (trim text.toList) ≠ .ok t :=
      fun mail => not_both strict (mail?_eq_ok_iff.mp mail)
    simp [read, other]
  | error error => simp [read, toOption_eq_some_iff]

end CatalogFeeds.Time
