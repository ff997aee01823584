import Provision.Text.Utf8

namespace Provision.Text

namespace Utf8

private theorem toNat_byte {n : Nat} (small : n < 256) : (UInt8.ofNat n).toNat = n := by
  simp [UInt8.toNat_ofNat', Nat.mod_eq_of_lt small]

/-- A byte with six bits of a character is a continuation that carries them. -/
private theorem continuation (n : Nat) :
    isContinuation (UInt8.ofNat (n % 64 + 128)) = true ∧
      tail (UInt8.ofNat (n % 64 + 128)) = n % 64 := by
  have same := toNat_byte (n := n % 64 + 128) (by omega)
  simp only [isContinuation, tail, UInt8.le_iff_toNat_le, same, UInt8.reduceToNat, Bool.and_eq_true,
    decide_eq_true_eq]
  omega

theorem encode_of_lt {c : Char} (ascii : c.toNat < 0x80) :
    String.utf8EncodeChar c = [UInt8.ofNat c.toNat] := by
  have value : c.val.toNat = c.toNat := rfl
  have small : c.toNat ≤ 127 := by omega
  simp only [String.utf8EncodeChar, value, small, if_true]

theorem ge_of_mem_encode {c : Char} (other : ¬ c.toNat < 0x80) {b : UInt8}
    (member : b ∈ String.utf8EncodeChar c) : 0x80 ≤ b.toNat := by
  have value : c.val.toNat = c.toNat := rfl
  have large : ¬ c.toNat ≤ 127 := by omega
  unfold String.utf8EncodeChar at member
  simp only [value, large, if_false] at member
  have high {n : Nat} (low : 0x80 ≤ n) (small : n < 256) : 0x80 ≤ (UInt8.ofNat n).toNat := by
    rwa [toNat_byte small]
  split at member
  · simp only [List.mem_cons, List.not_mem_nil, or_false] at member
    rcases member with rfl | rfl <;> exact high (by omega) (by omega)
  split at member
  · simp only [List.mem_cons, List.not_mem_nil, or_false] at member
    rcases member with rfl | rfl | rfl <;> exact high (by omega) (by omega)
  · simp only [List.mem_cons, List.not_mem_nil, or_false] at member
    rcases member with rfl | rfl | rfl | rfl <;> exact high (by omega) (by omega)

section Widths

variable {n : Nat} (rest : List UInt8)

private theorem decode_one (low : n < 0x80) :
    decode (UInt8.ofNat n :: rest) = some (Char.ofNat n) :: decode rest := by
  have a := toNat_byte (n := n) (by omega)
  have one : UInt8.ofNat n < 0x80 := by
    simp only [UInt8.lt_iff_toNat_lt, a, UInt8.reduceToNat]
    omega
  rw [decode.eq_def]
  simp only [one, if_true, a]

private theorem decode_two (high : 0x80 ≤ n) (low : n < 0x800) :
    decode (UInt8.ofNat (n / 64 % 32 + 192) :: UInt8.ofNat (n % 64 + 128) :: rest) =
      some (Char.ofNat n) :: decode rest := by
  have a := toNat_byte (n := n / 64 % 32 + 192) (by omega)
  obtain ⟨b, bits⟩ := continuation n
  have two : ¬ UInt8.ofNat (n / 64 % 32 + 192) < 0x80 ∧
      (0xC2 ≤ UInt8.ofNat (n / 64 % 32 + 192) && UInt8.ofNat (n / 64 % 32 + 192) ≤ 0xDF) =
        true := by
    simp only [UInt8.lt_iff_toNat_lt, UInt8.le_iff_toNat_le, a, UInt8.reduceToNat,
      Bool.and_eq_true, decide_eq_true_eq]
    omega
  have whole : (n / 64 % 32 + 192) % 32 * 64 + n % 64 = n := by omega
  rw [decode.eq_def]
  simp only [two, b, if_true, if_false, a, bits, whole]

private theorem decode_three (high : 0x800 ≤ n) (low : n < 0x10000)
    (valid : n < 0xD800 ∨ 0xDFFF < n) :
    decode (UInt8.ofNat (n / 4096 % 16 + 224) :: UInt8.ofNat (n / 64 % 64 + 128) ::
      UInt8.ofNat (n % 64 + 128) :: rest) = some (Char.ofNat n) :: decode rest := by
  have a := toNat_byte (n := n / 4096 % 16 + 224) (by omega)
  have b' := toNat_byte (n := n / 64 % 64 + 128) (by omega)
  obtain ⟨b, middle⟩ := continuation (n / 64)
  obtain ⟨d, bits⟩ := continuation n
  have three : ¬ UInt8.ofNat (n / 4096 % 16 + 224) < 0x80 ∧
      (0xC2 ≤ UInt8.ofNat (n / 4096 % 16 + 224) && UInt8.ofNat (n / 4096 % 16 + 224) ≤ 0xDF) =
        false ∧
      (0xE0 ≤ UInt8.ofNat (n / 4096 % 16 + 224) && UInt8.ofNat (n / 4096 % 16 + 224) ≤ 0xEF) =
        true := by
    simp only [UInt8.lt_iff_toNat_lt, UInt8.le_iff_toNat_le, a, UInt8.reduceToNat,
      Bool.and_eq_true, Bool.and_eq_false_iff, decide_eq_true_eq, decide_eq_false_iff_not]
    omega
  have second : isSecondOfThree (UInt8.ofNat (n / 4096 % 16 + 224))
      (UInt8.ofNat (n / 64 % 64 + 128)) = true := by
    simp only [isSecondOfThree, b, ← UInt8.toNat_inj, UInt8.le_iff_toNat_le, a, b',
      UInt8.reduceToNat]
    split
    · simp only [Bool.and_eq_true, decide_eq_true_eq]
      omega
    split
    · simp only [Bool.and_eq_true, decide_eq_true_eq]
      omega
    · rfl
  have whole : ((n / 4096 % 16 + 224) % 16 * 64 + n / 64 % 64) * 64 + n % 64 = n := by omega
  rw [decode.eq_def]
  simp only [three, second, d, if_true, if_false, Bool.false_eq_true, a, middle, bits, whole]

private theorem decode_four (high : 0x10000 ≤ n) (low : n < 0x110000) :
    decode (UInt8.ofNat (n / 262144 % 8 + 240) :: UInt8.ofNat (n / 4096 % 64 + 128) ::
      UInt8.ofNat (n / 64 % 64 + 128) :: UInt8.ofNat (n % 64 + 128) :: rest) =
      some (Char.ofNat n) :: decode rest := by
  have a := toNat_byte (n := n / 262144 % 8 + 240) (by omega)
  have b' := toNat_byte (n := n / 4096 % 64 + 128) (by omega)
  obtain ⟨b, upper⟩ := continuation (n / 4096)
  obtain ⟨d, middle⟩ := continuation (n / 64)
  obtain ⟨e, bits⟩ := continuation n
  have four : ¬ UInt8.ofNat (n / 262144 % 8 + 240) < 0x80 ∧
      (0xC2 ≤ UInt8.ofNat (n / 262144 % 8 + 240) &&
        UInt8.ofNat (n / 262144 % 8 + 240) ≤ 0xDF) = false ∧
      (0xE0 ≤ UInt8.ofNat (n / 262144 % 8 + 240) &&
        UInt8.ofNat (n / 262144 % 8 + 240) ≤ 0xEF) = false ∧
      (0xF0 ≤ UInt8.ofNat (n / 262144 % 8 + 240) &&
        UInt8.ofNat (n / 262144 % 8 + 240) ≤ 0xF4) = true := by
    simp only [UInt8.lt_iff_toNat_lt, UInt8.le_iff_toNat_le, a, UInt8.reduceToNat,
      Bool.and_eq_true, Bool.and_eq_false_iff, decide_eq_true_eq, decide_eq_false_iff_not]
    omega
  have second : isSecondOfFour (UInt8.ofNat (n / 262144 % 8 + 240))
      (UInt8.ofNat (n / 4096 % 64 + 128)) = true := by
    simp only [isSecondOfFour, b, ← UInt8.toNat_inj, UInt8.le_iff_toNat_le, a, b',
      UInt8.reduceToNat]
    split
    · simp only [Bool.and_eq_true, decide_eq_true_eq]
      omega
    split
    · simp only [Bool.and_eq_true, decide_eq_true_eq]
      omega
    · rfl
  have whole : (((n / 262144 % 8 + 240) % 8 * 64 + n / 4096 % 64) * 64 + n / 64 % 64) * 64 +
      n % 64 = n := by omega
  rw [decode.eq_def]
  simp only [four, second, d, e, if_true, if_false, Bool.false_eq_true, a, upper, middle, bits,
    whole]

end Widths

theorem decode_encode (c : Char) (rest : List UInt8) :
    decode (String.utf8EncodeChar c ++ rest) = some c :: decode rest := by
  have valid : c.toNat < 0xD800 ∨ 0xDFFF < c.toNat ∧ c.toNat < 0x110000 := c.valid
  have value : c.val.toNat = c.toNat := rfl
  unfold String.utf8EncodeChar
  simp only [value]
  split
  · rw [List.singleton_append, decode_one (n := c.toNat) rest (by omega), Char.ofNat_toNat]
  split
  · rw [List.cons_append, List.singleton_append,
      decode_two (n := c.toNat) rest (by omega) (by omega), Char.ofNat_toNat]
  split
  · rw [List.cons_append, List.cons_append, List.singleton_append,
      decode_three (n := c.toNat) rest (by omega) (by omega) (by omega), Char.ofNat_toNat]
  · rw [List.cons_append, List.cons_append, List.cons_append, List.singleton_append,
      decode_four (n := c.toNat) rest (by omega) (by omega), Char.ofNat_toNat]

theorem decode_encodeAll (chars : List Char) :
    decode (chars.flatMap String.utf8EncodeChar) = chars.map some := by
  induction chars with
  | nil => rfl
  | cons c chars ih => rw [List.flatMap_cons, decode_encode, ih, List.map_cons]

private theorem mapM_some (chars : List Char) : (chars.map some).mapM id = some chars := by
  induction chars with
  | nil => rfl
  | cons c chars ih => simp [ih]

theorem text?_encodeAll (chars : List Char) :
    text? (chars.flatMap String.utf8EncodeChar) = some (String.ofList chars) := by
  rw [text?, decode_encodeAll, mapM_some]
  rfl

end Utf8

end Provision.Text
