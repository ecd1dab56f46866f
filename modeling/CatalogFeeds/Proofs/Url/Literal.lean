import CatalogFeeds.Proofs.Url.Query
/-!
Texts that stand for themselves in a form.

A text that is put into a form as it is need not be read back. It is, exactly if it holds no
ampersand, no plus sign and no percent sign in front of a byte (`formPairs_eq_single_iff`): every
such percent sign makes what is read shorter than what is written, since no byte is read as more
than one character (`length_characters_cons`).
-/

namespace CatalogFeeds.Text

variable {cs : List Char} {b : UInt8} {u : Unfinished}

/-! ### Lengths -/

/-- Whether the bytes that are missing are none with which a character begins. -/
def Unfinished.GoesOn (u : Unfinished) : Prop :=
  ∀ range ∈ u.ranges, 0x80 ≤ range.1.toNat ∧ range.2.toNat ≤ 0xBF

theorem goesOn_of_firstByte (h : firstByte b = .leads u) : u.GoesOn := by
  simp only [firstByte] at h
  repeat' split at h
  all_goals first
    | contradiction
    | obtain rfl := FirstByte.leads.inj h
      simp [Unfinished.GoesOn, continuation]

theorem firstByte_of_continuation (low : 0x80 ≤ b.toNat) (high : b.toNat ≤ 0xBF) :
    firstByte b = .illFormed := by
  rw [firstByte, if_neg (by omega), if_pos (by omega)]

theorem characters_cons (b : UInt8) (bytes : List UInt8) :
    characters (b :: bytes) = charactersAfter.afresh b (characters bytes)
      fun u => charactersAfter (some u) bytes := by
  rw [characters, charactersAfter]
  · rfl
  · simp

/-- A character that has begun is worth at most one more. -/
theorem length_charactersAfter_some (goesOn : u.GoesOn) (bytes : List UInt8) :
    (charactersAfter (some u) bytes).length ≤ (characters bytes).length + 1 := by
  induction bytes generalizing u with
  | nil => simp [charactersAfter]
  | cons b bytes ih =>
    obtain ⟨bits, ranges⟩ := u
    cases ranges with
    | nil =>
      rw [charactersAfter, ← characters, ← characters_cons]
      · omega
      · simp
    | cons range ranges =>
      obtain ⟨low, high⟩ := range
      rw [charactersAfter]
      split
      · rename_i inside
        simp only [Bool.and_eq_true, decide_eq_true_eq, UInt8.le_iff_toNat_le] at inside
        obtain ⟨lower, upper⟩ := goesOn _ List.mem_cons_self
        have same : characters (b :: bytes) = none :: characters bytes := by
          rw [characters_cons, charactersAfter.afresh, firstByte_of_continuation]
          · exact Nat.le_trans lower inside.1
          · exact Nat.le_trans inside.2 upper
        rw [same]
        split
        · simp [characters]
        · have later := ih (u := ⟨bits * 64 + b.toNat % 64, ranges⟩) fun other mem =>
            goesOn other (List.mem_cons_of_mem _ mem)
          simp only [List.length_cons]
          omega
      · rw [← characters, ← characters_cons]
        exact Nat.le_refl _

/-- No byte is read as more than one character. -/
theorem length_characters_cons (b : UInt8) (bytes : List UInt8) :
    (characters (b :: bytes)).length ≤ (characters bytes).length + 1 := by
  rw [characters_cons, charactersAfter.afresh]
  split
  · simp
  · rename_i leads
    exact length_charactersAfter_some (goesOn_of_firstByte leads) bytes
  · simp

/-! ### Percent signs in front of bytes -/

/-- Whether a percent sign stands in front of a byte. -/
def hasEscape : List Char → Bool
  | [] => false
  | '%' :: a :: b :: rest =>
    ((hexValue? a).isSome && (hexValue? b).isSome) || hasEscape (a :: b :: rest)
  | _ :: rest => hasEscape rest

theorem percentDecode_of_no_byte {a c : Char} {rest : List Char}
    (other : ∀ high low, hexValue? a = some high → hexValue? c = some low → False) :
    percentDecode ('%' :: a :: c :: rest) = utf8Bytes '%' ++ percentDecode (a :: c :: rest) := by
  rw [percentDecode]
  split
  · rename_i high low first second
    exact (other high low first second).elim
  · rfl

theorem hasEscape_of_no_byte {a c : Char} {rest : List Char}
    (other : ∀ high low, hexValue? a = some high → hexValue? c = some low → False) :
    hasEscape ('%' :: a :: c :: rest) = hasEscape (a :: c :: rest) := by
  have none : ((hexValue? a).isSome && (hexValue? c).isSome) = false := by
    refine Bool.eq_false_iff.mpr fun both => ?_
    obtain ⟨first, second⟩ := Bool.and_eq_true_iff.mp both
    obtain ⟨high, first⟩ := Option.isSome_iff_exists.mp first
    obtain ⟨low, second⟩ := Option.isSome_iff_exists.mp second
    exact other high low first second
  rw [hasEscape, none, Bool.false_or]

theorem percentDecode_of_not_hasEscape (none : hasEscape cs = false) :
    percentDecode cs = utf8 cs := by
  induction cs using percentDecode.induct with
  | case1 => rfl
  | case2 a b rest high low first second ih => simp [hasEscape, first, second] at none
  | case3 a b rest other ih =>
    rw [hasEscape_of_no_byte other] at none
    rw [percentDecode_of_no_byte other, ih none]
    rfl
  | case4 c rest other ih =>
    rw [hasEscape] at none
    · rw [percentDecode, ih none]
      · rfl
      · exact other
    · exact other

/-- What is read has no more characters than the text, and fewer if there is an escape. -/
theorem length_characters_percentDecode (cs : List Char) :
    (characters (percentDecode cs)).length + (hasEscape cs).toNat ≤ cs.length := by
  induction cs using percentDecode.induct with
  | case1 => simp [percentDecode, hasEscape, characters, charactersAfter]
  | case2 a b rest high low first second ih =>
    have one := length_characters_cons (.ofNat (16 * high + low)) (percentDecode rest)
    have bit := Bool.toNat_le (hasEscape ('%' :: a :: b :: rest))
    simp only [percentDecode, first, second, List.length_cons] at one ⊢
    omega
  | case3 a b rest other ih =>
    rw [hasEscape_of_no_byte other, percentDecode_of_no_byte other, characters_utf8Bytes]
    simp only [List.length_cons] at ih ⊢
    omega
  | case4 c rest other ih =>
    rw [hasEscape, percentDecode, characters_utf8Bytes]
    · simp only [List.length_cons]
      omega
    · exact other
    · exact other

/-! ### Names and values -/

theorem length_formDecode (cs : List Char) :
    (formDecode cs).toList.length + (hasEscape (spaced cs)).toNat ≤ cs.length := by
  have bound := length_characters_percentDecode (spaced cs)
  have same : (spaced cs).length = cs.length := List.length_map _
  rw [formDecode_eq, String.toList_ofList, decodeLossy, List.length_map]
  omega

/-- A value stands for itself exactly if it has no plus sign and no escape. -/
theorem formDecode_eq_self_iff (cs : List Char) :
    formDecode cs = String.ofList cs ↔ '+' ∉ cs ∧ hasEscape cs = false := by
  constructor
  · intro same
    have bound := length_formDecode cs
    rw [same, String.toList_ofList] at bound
    have plain : hasEscape (spaced cs) = false := by
      cases escape : hasEscape (spaced cs) with
      | false => rfl
      | true =>
        rw [escape, Bool.toNat_true] at bound
        omega
    have kept : spaced cs = cs := by
      rw [formDecode_eq, percentDecode_of_not_hasEscape plain, decodeLossy_utf8] at same
      exact String.ofList_inj.mp same
    have none : '+' ∉ spaced cs := by
      intro mem
      obtain ⟨c, -, same⟩ := List.mem_map.mp mem
      split at same <;> simp_all
    exact ⟨kept ▸ none, kept ▸ plain⟩
  · rintro ⟨none, plain⟩
    rw [formDecode_eq, spaced_of_notMem none, percentDecode_of_not_hasEscape plain,
      decodeLossy_utf8]

/-! ### Pairs -/

/-- Whether a text that is put into a form as a value stands there for itself. -/
def IsLiteral (text : String) : Prop :=
  '&' ∉ text.toList ∧ '+' ∉ text.toList ∧ hasEscape text.toList = false

instance (text : String) : Decidable (IsLiteral text) :=
  inferInstanceAs (Decidable (_ ∧ _ ∧ _))

theorem splitAll_append_of_notMem {sep : Char} {front first : List Char}
    {rest : List (List Char)} (none : sep ∉ front) (split : splitAll sep cs = first :: rest) :
    splitAll sep (front ++ cs) = (front ++ first) :: rest := by
  induction front with
  | nil => exact split
  | cons c front ih =>
    rw [List.mem_cons, not_or] at none
    have other : (c == sep) = false := beq_false_of_ne (Ne.symm none.1)
    simp [splitAll, other, ih none.2]

theorem hasEscape_of_notMem (none : '%' ∉ cs) : hasEscape cs = false := by
  induction cs with
  | nil => rfl
  | cons c cs ih =>
    rw [List.mem_cons, not_or] at none
    rw [hasEscape, ih none.2]
    exact fun _ _ _ same _ => none.1 same.symm

/-- The pairs of a form that begins with a name. -/
theorem formPairs_named {name text : String} (safe : name.toList.all isFormSafe)
    {first : List Char} {rest : List (List Char)}
    (split : splitAll '&' text.toList = first :: rest) :
    formPairs (name ++ "=" ++ text) =
      (name, formDecode first) :: (rest.filter (!·.isEmpty)).map formPair := by
  have absent (c : Char) (foreign : isFormSafe c = false) : c ∉ name.toList := fun mem => by
    simp [List.all_eq_true.mp safe c mem] at foreign
  have ampersand : '&' ∉ name.toList ++ ['='] := by simp [absent '&' (by decide)]
  have own : formDecode name.toList = name := by
    rw [(formDecode_eq_self_iff _).mpr ⟨absent '+' (by decide),
      hasEscape_of_notMem (absent '%' (by decide))⟩, String.ofList_toList]
  have pair : formPair (name.toList ++ '=' :: first) = (name, formDecode first) := by
    rw [formPair, splitOnce_append (absent '=' (by decide))]
    dsimp only
    rw [own]
  have chars : (name ++ "=" ++ text).toList = (name.toList ++ ['=']) ++ text.toList := by simp
  rw [formPairs, chars, splitAll_append_of_notMem ampersand split]
  simp [pair]

/-- **A text stands for itself** behind a name exactly if it is literal. -/
theorem formPairs_eq_single_iff {name : String} (safe : name.toList.all isFormSafe)
    (text : String) : formPairs (name ++ "=" ++ text) = [(name, text)] ↔ IsLiteral text := by
  obtain ⟨first, rest, split⟩ := List.exists_cons_of_ne_nil (splitAll_ne_nil '&' text.toList)
  have whole : text.toList = first ++ ledBy '&' rest := by
    have led : ledBy '&' (splitAll '&' text.toList) = '&' :: text.toList :=
      ledBy_splitAll text.toList
    rw [split, ledBy_cons, List.cons.injEq] at led
    exact led.2.symm
  rw [formPairs_named safe split, List.cons.injEq, Prod.mk.injEq]
  constructor
  · rintro ⟨⟨-, same⟩, -⟩
    have bound := length_formDecode first
    rw [same, whole, List.length_append] at bound
    have none : rest = [] := by
      cases rest with
      | nil => rfl
      | cons other rest =>
        rw [ledBy_cons, List.length_cons] at bound
        omega
    rw [none, ledBy_nil, List.append_nil] at whole
    have ampersand : '&' ∉ first := notMem_of_mem_splitAll (split ▸ List.mem_cons_self)
    rw [IsLiteral, whole]
    refine ⟨ampersand, (formDecode_eq_self_iff first).mp ?_⟩
    rw [same, ← whole, String.ofList_toList]
  · rintro ⟨ampersand, plain⟩
    rw [splitAll_of_notMem ampersand] at split
    obtain ⟨rfl, rfl⟩ := List.cons.inj split
    exact ⟨⟨rfl, ((formDecode_eq_self_iff _).mpr plain).trans String.ofList_toList⟩, rfl⟩

end CatalogFeeds.Text
