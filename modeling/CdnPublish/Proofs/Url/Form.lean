import CdnPublish.Proofs.Text.Cut
import CdnPublish.Proofs.Text.Encoding
import CdnPublish.Proofs.Text.Split
import CdnPublish.Url.Basic

/-!
# Pairs in a query

Whoever receives a URL finds in its query pairs of a name and a value, and decodes both. A pair that
is put into a query is found there as it was given, behind all the pairs that were there before.
-/

namespace CdnPublish.Url

/-- A plus sign stands for a blank. -/
def blankForPlus (character : Char) : Char :=
  if character = '+' then ' ' else character

/-- The bytes that a form value stands for. -/
def formDecode (text : List Char) : Bytes :=
  percentDecode (text.map blankForPlus)

/-- The name and the value of a pair, still encoded; without an equals sign there is no value. -/
def cutPair (pair : List Char) : List Char × List Char :=
  (Text.cut '=' pair).getD (pair, [])

/-- The values that a query has under a name, in order. -/
def valuesIn (name query : List Char) : List Bytes :=
  let named := (Text.pieces '&' query).filter fun pair =>
    pair ≠ [] && formDecode (cutPair pair).1 = Text.encode name
  named.map fun pair => formDecode (cutPair pair).2

/-- The values that a URL has under a name. -/
def values (url : Url) (name : List Char) : List Bytes :=
  url.query.elim [] (valuesIn name)

/-- One byte of a form value. -/
def formByte (byte : UInt8) : List Char :=
  if isFormSafe byte then [Char.ofNat byte.toNat]
  else if byte = 0x20 then ['+']
  else encodedByte byte

section Bytes

variable {byte : UInt8} {character : Char} {value : Nat} {rest text : List Char}

theorem percentDecode_nil : percentDecode [] = [] := by
  unfold percentDecode
  rfl

theorem percentDecode_cons_of_ne (plain : character ≠ '%') :
    percentDecode (character :: rest) = Text.encode [character] ++ percentDecode rest := by
  rw [percentDecode]
  intro high low later same
  exact absurd same plain

theorem digits_of_byte (byte : UInt8) : byte.toNat / 16 < 16 ∧ byte.toNat % 16 < 16 := by
  have range := byte.toNat_lt
  omega

theorem hexDigitValue?_upperHexDigit (small : value < 16) :
    hexDigitValue? (upperHexDigit value) = some value := by
  interval_cases value <;> rfl

theorem isAlphanum_upperHexDigit (small : value < 16) :
    (upperHexDigit value).isAlphanum = true := by
  interval_cases value <;> rfl

theorem percentDecode_encodedByte (byte : UInt8) (rest : List Char) :
    percentDecode (encodedByte byte ++ rest) = byte :: percentDecode rest := by
  rcases digits_of_byte byte with ⟨highDigit, lowDigit⟩
  have high := hexDigitValue?_upperHexDigit highDigit
  have low := hexDigitValue?_upperHexDigit lowDigit
  have whole : byte.toNat / 16 * 16 + byte.toNat % 16 = byte.toNat := by omega
  unfold encodedByte
  simp only [List.cons_append, List.nil_append]
  rw [percentDecode]
  simp only [high, low, whole, UInt8.ofNat_toNat]

/-- The characters that mean something in a form value or between form values. -/
def isFormMark (character : Char) : Bool :=
  ['%', '+', '&', '='].contains character

theorem isFormMark_of_isAlphanum (plain : character.isAlphanum = true) :
    isFormMark character = false := by
  apply Bool.eq_false_of_not_eq_true
  intro mark
  have isMark : character = '%' ∨ character = '+' ∨ character = '&' ∨ character = '=' := by
    simpa [isFormMark] using mark
  rcases isMark with rfl | rfl | rfl | rfl <;> cases plain

theorem ne_of_not_isFormMark {mark : Char} (plain : isFormMark character = false)
    (marks : isFormMark mark = true) : character ≠ mark := by
  rintro rfl
  rw [plain] at marks
  cases marks

theorem plain_of_isFormSafe (safe : isFormSafe byte = true) :
    byte.toNat < 0x80 ∧ isFormMark (Char.ofNat byte.toNat) = false := by
  have code : (Char.ofNat byte.toNat).toNat = byte.toNat :=
    Text.toNat_ofNat_of_valid byte.toNat (Or.inl (by have range := byte.toNat_lt; omega))
  simp only [isFormSafe, Bool.or_eq_true, decide_eq_true_eq] at safe
  rcases safe with (((alphanumeric | rfl) | rfl) | rfl) | rfl
  · refine ⟨?_, isFormMark_of_isAlphanum alphanumeric⟩
    rw [Text.isAlphanum_iff_toNat, code] at alphanumeric
    omega
  all_goals decide

/-- Each byte of a form value is read back, whatever follows it. -/
theorem percentDecode_formByte (byte : UInt8) (rest : List Char) :
    percentDecode ((formByte byte).map blankForPlus ++ rest) = byte :: percentDecode rest := by
  have kept : ∀ character, isFormMark character = false → blankForPlus character = character :=
    fun _ plain => if_neg (ne_of_not_isFormMark plain rfl)
  unfold formByte
  split
  · rename_i safe
    rcases plain_of_isFormSafe safe with ⟨isAscii, plain⟩
    rw [List.map_singleton, kept _ plain, List.singleton_append,
      percentDecode_cons_of_ne (ne_of_not_isFormMark plain rfl), Text.encode_eq_flatMap,
      List.flatMap_singleton, Text.encode_ascii isAscii, List.singleton_append]
  · split
    · rename_i blank
      rw [blank]
      change percentDecode (' ' :: rest) = _
      rw [percentDecode_cons_of_ne (by decide), Text.encode_singleton (by decide)]
      rfl
    · rcases digits_of_byte byte with ⟨highDigit, lowDigit⟩
      have same : (encodedByte byte).map blankForPlus = encodedByte byte := by
        simp only [encodedByte, List.map_cons, List.map_nil]
        rw [kept _ (isFormMark_of_isAlphanum (isAlphanum_upperHexDigit highDigit)),
          kept _ (isFormMark_of_isAlphanum (isAlphanum_upperHexDigit lowDigit))]
        rfl
      rw [same, percentDecode_encodedByte]

theorem not_mem_formByte {mark : Char} (separates : mark = '&' ∨ mark = '=') :
    mark ∉ formByte byte := by
  have marks : isFormMark mark = true ∧ mark ≠ '+' ∧ mark ≠ '%' := by
    rcases separates with rfl | rfl <;> decide
  have apart : ∀ character, isFormMark character = false → mark ≠ character :=
    fun _ plain => (ne_of_not_isFormMark plain marks.1).symm
  unfold formByte
  split
  · rename_i safe
    simpa using apart _ (plain_of_isFormSafe safe).2
  · split
    · simpa using marks.2.1
    · rcases digits_of_byte byte with ⟨highDigit, lowDigit⟩
      have high := isAlphanum_upperHexDigit highDigit
      have low := isAlphanum_upperHexDigit lowDigit
      simp [encodedByte, marks.2.2, apart _ (isFormMark_of_isAlphanum high),
        apart _ (isFormMark_of_isAlphanum low)]

end Bytes

section Values

variable {name text before : List Char}

theorem formEncode_eq_flatMap (text : List Char) :
    formEncode text = (Text.encode text).flatMap formByte :=
  rfl

/-- A form value stands for the bytes of the text that it has been made of. -/
theorem formDecode_formEncode (text : List Char) :
    formDecode (formEncode text) = Text.encode text := by
  rw [formEncode_eq_flatMap]
  generalize Text.encode text = bytes
  induction bytes with
  | nil => exact percentDecode_nil
  | cons byte bytes induction_hypothesis =>
      rw [formDecode, List.flatMap_cons, List.map_append, percentDecode_formByte]
      exact congrArg (byte :: ·) induction_hypothesis

theorem not_mem_formEncode {mark : Char} (separates : mark = '&' ∨ mark = '=') :
    mark ∉ formEncode text := by
  intro mem
  rcases List.mem_flatMap.mp mem with ⟨byte, -, inByte⟩
  exact not_mem_formByte separates inByte

/-- A pair as it stands in a query. -/
def pairText (name value : List Char) : List Char :=
  formEncode name ++ '=' :: formEncode value

theorem cutPair_pairText (name value : List Char) :
    cutPair (pairText name value) = (formEncode name, formEncode value) := by
  have whole : '=' ∉ formEncode name := not_mem_formEncode (Or.inr rfl)
  have found := Text.cut_attach whole (some (formEncode value))
  change Text.cut '=' (pairText name value) = _ at found
  rw [cutPair, found]
  rfl

theorem pieces_pairText (name value : List Char) :
    Text.pieces '&' (pairText name value) = [pairText name value] := by
  apply Text.pieces_of_not_mem
  simp [pairText, not_mem_formEncode]

theorem valuesIn_pairText (name value : List Char) :
    valuesIn name (pairText name value) = [Text.encode value] := by
  have proper : pairText name value ≠ [] := by simp [pairText]
  simp [valuesIn, pieces_pairText, cutPair_pairText, formDecode_formEncode, proper]

theorem valuesIn_append (name before after : List Char) :
    valuesIn name (before ++ '&' :: after) = valuesIn name before ++ valuesIn name after := by
  simp [valuesIn, Text.pieces_append]

theorem valuesIn_nil (name : List Char) : valuesIn name [] = [] := by
  simp [valuesIn, Text.pieces]

/-- A pair is found in the query that it is put into, behind all others. -/
theorem values_withQueryPair (url : Url) (name value : List Char) :
    (url.withQueryPair name value).values name = url.values name ++ [Text.encode value] := by
  unfold withQueryPair
  cases asked : url.query with
  | none =>
      change valuesIn name (pairText name value) = _
      rw [valuesIn_pairText, values, asked]
      rfl
  | some query =>
      cases query with
      | nil =>
          change valuesIn name (pairText name value) = _
          rw [valuesIn_pairText, values, asked, Option.elim_some, valuesIn_nil, List.nil_append]
      | cons first rest =>
          change valuesIn name (first :: rest ++ '&' :: pairText name value) = _
          rw [valuesIn_append, valuesIn_pairText, values, asked]
          rfl

end Values

end CdnPublish.Url
