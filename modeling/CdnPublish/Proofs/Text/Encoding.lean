import CdnPublish.Proofs.Text.Utf8

/-!
# The bytes of a text

A text is encoded character by character, and a character of ASCII is one byte. So a text in ASCII
is read back from its bytes. The letters and digits of ASCII are known by their codes.
-/

namespace CdnPublish.Text

variable {text rest : List Char} {character : Char}

theorem loop_eq_append_drop (bytes : ByteArray) (index : Nat) (read : Bytes) :
    ByteArray.toList.loop bytes index read = read.reverse ++ bytes.data.toList.drop index := by
  fun_induction ByteArray.toList.loop bytes index read with
  | case1 index read inside induction_hypothesis =>
      have bound : index < bytes.data.toList.length := by simpa using inside
      have found : bytes.get! index = bytes.data.toList[index] := by
        simp [ByteArray.get!, getElem!_pos, inside]
      rw [induction_hypothesis, List.drop_eq_getElem_cons bound, found, List.reverse_cons,
        List.append_assoc, List.singleton_append]
  | case2 index read outside =>
      have beyond : bytes.data.toList.length ≤ index := by simpa using outside
      rw [List.drop_eq_nil_of_le beyond, List.append_nil]

theorem encode_eq_flatMap (text : List Char) :
    encode text = text.flatMap String.utf8EncodeChar := by
  unfold encode ByteArray.toList
  rw [loop_eq_append_drop, List.reverse_nil, List.nil_append, List.drop_zero]
  simp [String.toUTF8, List.utf8Encode]

@[simp]
theorem encode_nil : encode [] = [] := by
  simp [encode_eq_flatMap]

theorem encode_cons (character : Char) (rest : List Char) :
    encode (character :: rest) = encode [character] ++ encode rest := by
  simp [encode_eq_flatMap]

/-- The byte of a character of ASCII. -/
def asciiByte (character : Char) : UInt8 :=
  UInt8.ofNat character.toNat

theorem toNat_asciiByte (isAscii : character.toNat < 0x80) :
    (asciiByte character).toNat = character.toNat := by
  rw [asciiByte, UInt8.toNat_ofNat', Nat.mod_eq_of_lt (by omega)]

theorem ofNat_asciiByte (isAscii : character.toNat < 0x80) :
    Char.ofNat (asciiByte character).toNat = character := by
  rw [toNat_asciiByte isAscii, Char.ofNat_toNat]

theorem encode_singleton (isAscii : character.toNat < 0x80) :
    encode [character] = [asciiByte character] := by
  have byte : (asciiByte character).toNat < 0x80 := by
    rw [toNat_asciiByte isAscii]
    exact isAscii
  have encoded := encode_ascii byte
  rw [ofNat_asciiByte isAscii] at encoded
  simp [encode_eq_flatMap, encoded]

/-- A text in ASCII is read back from its bytes. -/
theorem receive_encode (isAscii : ∀ character ∈ text, character.toNat < 0x80) :
    receive (encode text) = text.map some := by
  induction text with
  | nil => simp
  | cons character rest induction_hypothesis =>
      rcases List.forall_mem_cons.mp isAscii with ⟨here, later⟩
      have byte : (asciiByte character).toNat < 0x80 := by
        rw [toNat_asciiByte here]
        exact here
      rw [encode_cons, encode_singleton here, List.singleton_append, receive_cons,
        firstCharacter_of_ascii byte, ofNat_asciiByte here, induction_hypothesis later,
        List.map_cons]

theorem decode?_encode (isAscii : ∀ character ∈ text, character.toNat < 0x80) :
    decode? (encode text) = some text :=
  decode?_eq_some_iff.mpr (receive_encode isAscii)

theorem toNat_of_isDigit (digit : character.isDigit = true) :
    48 ≤ character.toNat ∧ character.toNat ≤ 57 := by
  simpa [Char.isDigit, UInt32.le_iff_toNat_le] using digit

theorem toNat_of_isLower (letter : character.isLower = true) :
    97 ≤ character.toNat ∧ character.toNat ≤ 122 := by
  simpa [Char.isLower, UInt32.le_iff_toNat_le] using letter

/-- Letters and digits by their codes. -/
theorem isAlphanum_iff_toNat : character.isAlphanum = true ↔
    (48 ≤ character.toNat ∧ character.toNat ≤ 57) ∨
      (65 ≤ character.toNat ∧ character.toNat ≤ 90) ∨
      (97 ≤ character.toNat ∧ character.toNat ≤ 122) := by
  simp only [Char.isAlphanum, Char.isAlpha, Char.isUpper, Char.isLower, Char.isDigit,
    Bool.or_eq_true, Bool.and_eq_true, decide_eq_true_eq, ge_iff_le, UInt32.le_iff_toNat_le]
  change ((65 ≤ character.toNat ∧ character.toNat ≤ 90 ∨
    97 ≤ character.toNat ∧ character.toNat ≤ 122) ∨
      48 ≤ character.toNat ∧ character.toNat ≤ 57) ↔ _
  omega

/-- What digits stand for, read from the first one on. -/
theorem foldl_digits (digits : List Char) :
    digits.foldl (fun number digit => number * 10 + (digit.toNat - 48)) 0 =
      Nat.ofDigitChars 10 digits 0 := by
  rw [Nat.ofDigitChars_eq_foldl]
  congr 1
  funext number digit
  rw [Nat.mul_comm]
  rfl

end CdnPublish.Text
