import CatalogFeeds.Text.Utf8
import Mathlib.Data.List.Forall2
/-!
Reading back what has been written in UTF-8.

A character is written as a first byte and up to three more, each of which carries six bits. The
first byte tells how many there are, and the range of the second keeps out longer writings than
needed, surrogates and what lies beyond the last character.

* `charactersAfter_continue` — bytes within their ranges complete a character.
* `characters_utf8Bytes` — so a character is read back from its bytes, whatever follows them.
* `decodeLossy_utf8` — and a text from its own.
-/

namespace CatalogFeeds.Text

/-- A byte that lies in a range. -/
def InRange (range : UInt8 × UInt8) (b : UInt8) : Prop :=
  range.1 ≤ b ∧ b ≤ range.2

/-- The bits of a character after more bytes have been read. -/
def bitsAfter (bits : Nat) (bytes : List UInt8) : Nat :=
  bytes.foldl (fun bits b => bits * 64 + b.toNat % 64) bits

/-- Bytes within their ranges complete the character that has begun. -/
theorem charactersAfter_continue {ranges : List (UInt8 × UInt8)} {bytes : List UInt8}
    (within : List.Forall₂ InRange ranges bytes) (begun : ranges ≠ []) (bits : Nat)
    (rest : List UInt8) :
    charactersAfter (some ⟨bits, ranges⟩) (bytes ++ rest) =
      some (Char.ofNat (bitsAfter bits bytes)) :: charactersAfter none rest := by
  induction within generalizing bits with
  | nil => exact absurd rfl begun
  | @cons range b ranges bytes own others ih =>
    obtain ⟨low, high⟩ := range
    have accepted : (low ≤ b && b ≤ high) = true := by simpa [InRange] using own
    rw [List.cons_append, charactersAfter, accepted]
    cases others with
    | nil => simp [bitsAfter]
    | cons next later =>
      simpa [bitsAfter] using ih (List.cons_ne_nil _ _) (bits * 64 + b.toNat % 64)

theorem charactersAfter_leads {b : UInt8} {u : Unfinished} (h : firstByte b = .leads u)
    (rest : List UInt8) : charactersAfter none (b :: rest) = charactersAfter (some u) rest := by
  rw [charactersAfter, charactersAfter.afresh, h]
  simp

theorem charactersAfter_whole {b : UInt8} {c : Char} (h : firstByte b = .whole c)
    (rest : List UInt8) :
    charactersAfter none (b :: rest) = some c :: charactersAfter none rest := by
  rw [charactersAfter, charactersAfter.afresh, h]
  simp

/-! ### The bytes of a character -/

theorem inRange_ofNat {low high n : Nat} (lower : low ≤ n) (upper : n ≤ high)
    (small : high < 256) : InRange (.ofNat low, .ofNat high) (.ofNat n) := by
  simp only [InRange, UInt8.le_iff_toNat_le, UInt8.toNat_ofNat']
  omega

theorem inRange_continuation (n : Nat) : InRange continuation (.ofNat (n % 64 + 128)) :=
  inRange_ofNat (by omega : 0x80 ≤ n % 64 + 128) (by omega : n % 64 + 128 ≤ 0xBF) (by decide)

theorem firstByte_one {n : Nat} (short : n ≤ 0x7F) :
    firstByte (.ofNat n) = .whole (Char.ofNat n) := by
  have value : (UInt8.ofNat n).toNat = n := by
    rw [UInt8.toNat_ofNat']
    omega
  rw [firstByte, value, if_pos (by omega)]

theorem firstByte_two {n : Nat} (long : 0x7F < n) (short : n ≤ 0x7FF) :
    firstByte (.ofNat (n / 64 % 32 + 192)) = .leads ⟨n / 64, [continuation]⟩ := by
  have value : (UInt8.ofNat (n / 64 % 32 + 192)).toNat = n / 64 + 192 := by
    rw [UInt8.toNat_ofNat']
    omega
  rw [firstByte, value, if_neg (by omega), if_neg (by omega), if_pos (by omega)]
  simp

/-- Of three bytes the second is at least `A0` where the first has no bits, and at most `9F` where
a surrogate would follow otherwise. -/
theorem firstByte_three {n : Nat} (long : 0x7FF < n) (short : n ≤ 0xFFFF)
    (valid : n < 0xD800 ∨ 0xDFFF < n) :
    ∃ second, firstByte (.ofNat (n / 4096 % 16 + 224)) =
        .leads ⟨n / 4096, [second, continuation]⟩ ∧
      InRange second (.ofNat (n / 64 % 64 + 128)) := by
  have value : (UInt8.ofNat (n / 4096 % 16 + 224)).toNat = n / 4096 + 224 := by
    rw [UInt8.toNat_ofNat']
    omega
  refine ⟨if n / 4096 + 224 == 0xE0 then (0xA0, 0xBF)
    else if n / 4096 + 224 == 0xED then (0x80, 0x9F) else continuation, ?_, ?_⟩
  · rw [firstByte, value, if_neg (by omega), if_neg (by omega), if_neg (by omega),
      if_pos (by omega), Nat.add_sub_cancel]
  · split
    · rename_i first
      have first := beq_iff_eq.mp first
      exact inRange_ofNat (by omega : 0xA0 ≤ _) (by omega : _ ≤ 0xBF) (by decide)
    · split
      · rename_i first
        have first := beq_iff_eq.mp first
        exact inRange_ofNat (by omega : 0x80 ≤ _) (by omega : _ ≤ 0x9F) (by decide)
      · exact inRange_continuation (n / 64)

/-- Of four bytes the second is at least `90` where the first has no bits, and at most `8F` where
the last character would be passed otherwise. -/
theorem firstByte_four {n : Nat} (long : 0xFFFF < n) (short : n < 0x110000) :
    ∃ second, firstByte (.ofNat (n / 262144 % 8 + 240)) =
        .leads ⟨n / 262144, [second, continuation, continuation]⟩ ∧
      InRange second (.ofNat (n / 4096 % 64 + 128)) := by
  have value : (UInt8.ofNat (n / 262144 % 8 + 240)).toNat = n / 262144 + 240 := by
    rw [UInt8.toNat_ofNat']
    omega
  refine ⟨if n / 262144 + 240 == 0xF0 then (0x90, 0xBF)
    else if n / 262144 + 240 == 0xF4 then (0x80, 0x8F) else continuation, ?_, ?_⟩
  · rw [firstByte, value, if_neg (by omega), if_neg (by omega), if_neg (by omega),
      if_neg (by omega), if_pos (by omega), Nat.add_sub_cancel]
  · split
    · rename_i first
      have first := beq_iff_eq.mp first
      exact inRange_ofNat (by omega : 0x90 ≤ _) (by omega : _ ≤ 0xBF) (by decide)
    · split
      · rename_i first
        have first := beq_iff_eq.mp first
        exact inRange_ofNat (by omega : 0x80 ≤ _) (by omega : _ ≤ 0x8F) (by decide)
      · exact inRange_continuation (n / 4096)

/-- **A character is read back** from its bytes, whatever follows them. -/
theorem characters_utf8Bytes (c : Char) (rest : List UInt8) :
    characters (utf8Bytes c ++ rest) = some c :: characters rest := by
  have whole : Char.ofNat c.toNat = c := Char.ofNat_toNat c
  have valid : c.toNat < 0xD800 ∨ 0xDFFF < c.toNat ∧ c.toNat < 0x110000 := c.valid
  have point : c.val.toNat = c.toNat := rfl
  have last := inRange_continuation c.toNat
  have middle := inRange_continuation (c.toNat / 64)
  have rest6 (n : Nat) : (UInt8.ofNat (n % 64 + 128)).toNat % 64 = n % 64 := by
    rw [UInt8.toNat_ofNat']
    omega
  unfold characters
  rw [utf8Bytes, String.utf8EncodeChar, point]
  generalize c.toNat = n at *
  split
  · rename_i short
    rw [List.singleton_append, charactersAfter_whole (firstByte_one short), whole]
  · split
    · rename_i long short
      rw [List.cons_append, charactersAfter_leads (firstByte_two (by omega) short),
        charactersAfter_continue (.cons last .nil) (List.cons_ne_nil _ _)]
      have bits : bitsAfter (n / 64) [.ofNat (n % 64 + 128)] = n := by
        simp only [bitsAfter, List.foldl_cons, List.foldl_nil, rest6]
        omega
      rw [bits, whole]
    · split
      · rename_i long short
        obtain ⟨second, first, inside⟩ := firstByte_three (by omega) short (by omega)
        rw [List.cons_append, charactersAfter_leads first,
          charactersAfter_continue (.cons inside (.cons last .nil)) (List.cons_ne_nil _ _)]
        have bits : bitsAfter (n / 4096) [.ofNat (n / 64 % 64 + 128), .ofNat (n % 64 + 128)] =
            n := by
          simp only [bitsAfter, List.foldl_cons, List.foldl_nil, rest6]
          omega
        rw [bits, whole]
      · rename_i long
        obtain ⟨second, first, inside⟩ := firstByte_four (show 0xFFFF < n by omega) (by omega)
        rw [List.cons_append, charactersAfter_leads first,
          charactersAfter_continue (.cons inside (.cons middle (.cons last .nil)))
            (List.cons_ne_nil _ _)]
        have bits : bitsAfter (n / 262144) [.ofNat (n / 4096 % 64 + 128),
            .ofNat (n / 64 % 64 + 128), .ofNat (n % 64 + 128)] = n := by
          simp only [bitsAfter, List.foldl_cons, List.foldl_nil, rest6]
          omega
        rw [bits, whole]

theorem characters_utf8 (cs : List Char) : characters (utf8 cs) = cs.map some := by
  induction cs with
  | nil => rfl
  | cons c cs ih =>
    rw [utf8, List.flatMap_cons, characters_utf8Bytes, ← utf8, ih, List.map_cons]

/-- **A text is read back** from its bytes. -/
theorem decodeLossy_utf8 (cs : List Char) : decodeLossy (utf8 cs) = cs := by
  simp [decodeLossy, characters_utf8, Function.comp_def]

end CatalogFeeds.Text
