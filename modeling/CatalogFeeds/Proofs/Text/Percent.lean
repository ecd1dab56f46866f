import CatalogFeeds.Proofs.Text.Split
import CatalogFeeds.Text.Percent
/-!
Reading back what percent signs stand in front of.

* `percentDecode_percentChar` — a character written by its bytes is read as its bytes.
* `percentDecode_of_notMem` — a text without percent signs is read as its own bytes.
* `percentDecode_percentEncode` — and so is a text in which percent signs are written by their
  bytes, whatever else is.
-/

namespace CatalogFeeds.Text

variable {c : Char}

theorem hexValue?_upperHexDigit {n : Nat} (small : n < 16) :
    hexValue? (upperHexDigit n) = some n := by
  have all : ∀ n < 16, hexValue? (upperHexDigit n) = some n := by decide
  exact all n small

theorem isAlphanumeric_upperHexDigit {n : Nat} (small : n < 16) :
    isAlphanumeric (upperHexDigit n) = true := by
  have all : ∀ n < 16, isAlphanumeric (upperHexDigit n) = true := by decide
  exact all n small

theorem percentDecode_percentByte (b : UInt8) (rest : List Char) :
    percentDecode (percentByte b ++ rest) = b :: percentDecode rest := by
  have small := b.toNat_lt
  have whole : UInt8.ofNat (16 * (b.toNat / 16) + b.toNat % 16) = b := by
    rw [Nat.div_add_mod, UInt8.ofNat_toNat]
  simp only [percentByte, List.cons_append, List.nil_append, percentDecode,
    hexValue?_upperHexDigit (show b.toNat / 16 < 16 by omega),
    hexValue?_upperHexDigit (show b.toNat % 16 < 16 by omega), whole]

theorem percentDecode_flatMap (bytes : List UInt8) (rest : List Char) :
    percentDecode (bytes.flatMap percentByte ++ rest) = bytes ++ percentDecode rest := by
  induction bytes with
  | nil => rfl
  | cons b bytes ih =>
    rw [List.flatMap_cons, List.append_assoc, percentDecode_percentByte, ih, List.cons_append]

theorem percentDecode_percentChar (c : Char) (rest : List Char) :
    percentDecode (percentChar c ++ rest) = utf8Bytes c ++ percentDecode rest :=
  percentDecode_flatMap (utf8Bytes c) rest

theorem percentDecode_cons (plain : c ≠ '%') (rest : List Char) :
    percentDecode (c :: rest) = utf8Bytes c ++ percentDecode rest := by
  rw [percentDecode]
  exact fun _ _ _ same _ => plain same

/-- Without a percent sign every character stands for itself. -/
theorem percentDecode_of_notMem {cs : List Char} (none : '%' ∉ cs) :
    percentDecode cs = utf8 cs := by
  induction cs with
  | nil => rfl
  | cons c cs ih =>
    have plain : c ≠ '%' := fun same => none (same ▸ List.mem_cons_self)
    rw [percentDecode_cons plain, ih fun mem => none (List.mem_cons_of_mem c mem)]
    rfl

theorem mem_percentChar {d : Char} (h : d ∈ percentChar c) :
    d = '%' ∨ isAlphanumeric d = true := by
  obtain ⟨b, -, mem⟩ := List.mem_flatMap.mp h
  have small := b.toNat_lt
  simp only [percentByte, List.mem_cons, List.not_mem_nil, or_false] at mem
  rcases mem with sign | rfl | rfl
  · exact .inl sign
  · exact .inr (isAlphanumeric_upperHexDigit (by omega))
  · exact .inr (isAlphanumeric_upperHexDigit (by omega))

theorem head?_percentChar (c : Char) : (percentChar c).head? = some '%' := by
  obtain ⟨b, bytes, first⟩ := List.exists_cons_of_ne_nil (String.utf8EncodeChar_ne_nil (c := c))
  rw [percentChar, utf8Bytes, first]
  rfl

/-! ### Some characters by their bytes -/

variable {cs : List Char} {mustEncode : Char → Bool}

theorem percentEncode_cons (c : Char) (cs : List Char) :
    percentEncode mustEncode (c :: cs) =
      (if mustEncode c then percentChar c else [c]) ++ percentEncode mustEncode cs :=
  rfl

theorem percentEncode_of_forall (kept : ∀ c ∈ cs, mustEncode c = false) :
    percentEncode mustEncode cs = cs := by
  induction cs with
  | nil => rfl
  | cons c cs ih =>
    rw [percentEncode_cons, kept c List.mem_cons_self,
      ih fun d mem => kept d (List.mem_cons_of_mem c mem)]
    rfl

theorem mem_percentEncode (mem : c ∈ percentEncode mustEncode cs) :
    c = '%' ∨ isAlphanumeric c = true ∨ c ∈ cs ∧ mustEncode c = false := by
  obtain ⟨d, inside, mem⟩ := List.mem_flatMap.mp mem
  split at mem
  · exact (mem_percentChar mem).imp_right .inl
  · rename_i plain
    obtain rfl := List.mem_singleton.mp mem
    exact .inr (.inr ⟨inside, by simpa using plain⟩)

theorem notMem_percentEncode (sign : c ≠ '%') (other : isAlphanumeric c = false)
    (none : mustEncode c = true ∨ c ∉ cs) : c ∉ percentEncode mustEncode cs := by
  intro mem
  rcases mem_percentEncode mem with same | letter | ⟨inside, kept⟩
  · exact sign same
  · simp [letter] at other
  · rcases none with encoded | outside
    · simp [encoded] at kept
    · exact outside inside

/-- Percent signs keep out what they stand for. -/
theorem disjoint_percentEncode {signs : List Char} {mustEncode : Char → Bool}
    (plain : (signs.all fun c => c != '%' && !isAlphanumeric c) = true)
    (none : ∀ c ∈ signs, mustEncode c = true ∨ c ∉ cs) :
    List.Disjoint signs (percentEncode mustEncode cs) := by
  intro c sign
  have own := List.all_eq_true.mp plain c sign
  simp only [Bool.and_eq_true, bne_iff_ne, Bool.not_eq_true'] at own
  exact notMem_percentEncode own.1 own.2 (none c sign)

/-- **A text is read back** as its bytes if its percent signs are not left as they are. -/
theorem percentDecode_percentEncode (sign : mustEncode '%' = true) (cs : List Char) :
    percentDecode (percentEncode mustEncode cs) = utf8 cs := by
  induction cs with
  | nil => rfl
  | cons c cs ih =>
    rw [percentEncode_cons]
    split
    · rw [percentDecode_percentChar, ih]
      rfl
    · rename_i plain
      have other : c ≠ '%' := fun same => plain (same ▸ sign)
      rw [List.singleton_append, percentDecode_cons other, ih]
      rfl

end CatalogFeeds.Text
