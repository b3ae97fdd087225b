import CdnPublish.Deadline
import CdnPublish.Proofs.Text.Encoding
import CdnPublish.Proofs.Text.Leading

/-!
# The spellings of a deadline

A deadline is spelled by six numbers with fixed characters between them. Each number may stand
behind blanks and have fewer digits than usual, and a year may have a sign and then any number of
digits. Reading accepts exactly these spellings, and a text has no two of them.
-/

namespace CdnPublish.Deadline

/-- A sign before a number. -/
inductive Sign where
  | plus
  | minus
  deriving DecidableEq, Repr

/-- The character of a sign. -/
def Sign.character : Sign → Char
  | .plus => '+'
  | .minus => '-'

/-- What a sign makes of a number. -/
def Sign.apply : Option Sign → Nat → Int
  | some .minus, number => -number
  | _, number => number

/-- A number as it may be written: blanks, perhaps a sign, and digits. -/
@[ext]
structure Numeral where
  blanks : List Char
  sign : Option Sign
  digits : List Char
  isBlank_blanks : ∀ character ∈ blanks, Text.isBlank character = true
  isDigit_digits : ∀ character ∈ digits, character.isDigit = true
  digits_ne_nil : digits ≠ []

namespace Numeral

/-- The sign and the digits. -/
def body (numeral : Numeral) : List Char :=
  (numeral.sign.map Sign.character).toList ++ numeral.digits

/-- The number as it is written. -/
def text (numeral : Numeral) : List Char :=
  numeral.blanks ++ numeral.body

/-- The number without its sign. -/
def magnitude (numeral : Numeral) : Nat :=
  Nat.ofDigitChars 10 numeral.digits 0

/-- The number that is meant. -/
def value (numeral : Numeral) : Int :=
  Sign.apply numeral.sign numeral.magnitude

/-- Without a sign, a year has at most four digits. -/
def IsYear (numeral : Numeral) : Prop :=
  numeral.sign = none → numeral.digits.length ≤ 4

/-- Any other number has no sign and at most two digits. -/
def IsShort (numeral : Numeral) : Prop :=
  numeral.sign = none ∧ numeral.digits.length ≤ 2

/-- The number has neither blanks nor a sign, and exactly so many digits. -/
def IsPlain (width : Nat) (numeral : Numeral) : Prop :=
  numeral.blanks = [] ∧ numeral.sign = none ∧ numeral.digits.length = width

end Numeral

/-- A deadline as it may be written. -/
@[ext]
structure Spelling where
  year : Numeral
  month : Numeral
  day : Numeral
  hour : Numeral
  minute : Numeral
  second : Numeral
  isYear_year : year.IsYear
  isShort_month : month.IsShort
  isShort_day : day.IsShort
  isShort_hour : hour.IsShort
  isShort_minute : minute.IsShort
  isShort_second : second.IsShort
  hour_le : hour.magnitude ≤ 23
  minute_le : minute.magnitude ≤ 59
  second_le : second.magnitude ≤ 60
  hasDate : Moment.hasDate ⟨year.value, month.magnitude, day.magnitude, hour.magnitude,
    minute.magnitude, second.magnitude⟩ = true

namespace Spelling

/-- The deadline as it is written. -/
def text (spelling : Spelling) : List Char :=
  spelling.year.text ++ '-' :: (spelling.month.text ++ '-' :: (spelling.day.text ++ 'T' ::
    (spelling.hour.text ++ ':' :: (spelling.minute.text ++ ':' ::
      (spelling.second.text ++ ['Z'])))))

/-- The date and the time of day that are meant. -/
def moment (spelling : Spelling) : Moment :=
  ⟨spelling.year.value, spelling.month.magnitude, spelling.day.magnitude, spelling.hour.magnitude,
    spelling.minute.magnitude, spelling.second.magnitude⟩

end Spelling

section Characters

theorem not_isBlank_of_isDigit {character : Char} (digit : character.isDigit = true) :
    Text.isBlank character = false := by
  have range := Text.toNat_of_isDigit digit
  simp only [Text.isBlank, Bool.or_eq_false_iff, Bool.and_eq_false_iff, decide_eq_false_iff_not,
    beq_eq_false_iff_ne]
  omega

@[simp]
theorem Sign.not_isBlank (sign : Sign) : Text.isBlank sign.character = false := by
  cases sign <;> decide

@[simp]
theorem Sign.not_isDigit (sign : Sign) : sign.character.isDigit = false := by
  cases sign <;> decide

theorem Sign.character_inj {sign other : Sign} (same : sign.character = other.character) :
    sign = other := by
  cases sign <;> cases other <;> first | rfl | cases same

end Characters

namespace Numeral

variable {numeral other : Numeral} {rest otherRest : List Char} {least greatest : Nat}

theorem exists_digit (numeral : Numeral) :
    ∃ first later, numeral.digits = first :: later ∧ first.isDigit = true := by
  rcases List.exists_cons_of_ne_nil numeral.digits_ne_nil with ⟨first, later, shape⟩
  exact ⟨first, later, shape, numeral.isDigit_digits first (by simp [shape])⟩

/-- No number starts with a further blank. -/
theorem stops_body (numeral : Numeral) (rest : List Char) :
    Text.Stops Text.isBlank (numeral.body ++ rest) := by
  rcases numeral.exists_digit with ⟨first, later, shape, digit⟩
  cases signed : numeral.sign with
  | none => simp [body, signed, shape, not_isBlank_of_isDigit digit]
  | some sign => simp [body, signed]

/-- Digits do not start with a sign. -/
theorem digits_append_ne (numeral : Numeral) (sign : Sign) (later : List Char) :
    numeral.digits ++ rest ≠ sign.character :: later := by
  intro same
  rcases numeral.exists_digit with ⟨first, others, shape, digit⟩
  rw [shape, List.cons_append] at same
  rw [(List.cons.inj same).1, sign.not_isDigit] at digit
  cases digit

theorem body_inj (same : numeral.body ++ rest = other.body ++ otherRest)
    (stops : Text.Stops Char.isDigit rest) (otherStops : Text.Stops Char.isDigit otherRest) :
    numeral.sign = other.sign ∧ numeral.digits = other.digits ∧ rest = otherRest := by
  have digits : numeral.digits ++ rest = other.digits ++ otherRest →
      numeral.digits = other.digits ∧ rest = otherRest := fun joined =>
    Text.eq_of_append_eq joined numeral.isDigit_digits other.isDigit_digits stops otherStops
  cases signed : numeral.sign with
  | none =>
      cases otherSigned : other.sign with
      | none =>
          simp only [body, signed, otherSigned, Option.map_none, Option.toList_none,
            List.nil_append] at same
          exact ⟨rfl, digits same⟩
      | some sign =>
          simp only [body, signed, otherSigned, Option.map_none, Option.map_some,
            Option.toList_none, Option.toList_some, List.nil_append, List.cons_append] at same
          exact absurd same (numeral.digits_append_ne sign _)
  | some sign =>
      cases otherSigned : other.sign with
      | none =>
          simp only [body, signed, otherSigned, Option.map_none, Option.map_some,
            Option.toList_none, Option.toList_some, List.nil_append, List.cons_append] at same
          exact absurd same.symm (other.digits_append_ne sign _)
      | some otherSign =>
          simp only [body, signed, otherSigned, Option.map_some, Option.toList_some,
            List.cons_append, List.nil_append, List.cons.injEq] at same
          exact ⟨congrArg some (Sign.character_inj same.1), digits same.2⟩

/-- A number is known from a text that goes on behind it with something else than a digit. -/
theorem text_inj (same : numeral.text ++ rest = other.text ++ otherRest)
    (stops : Text.Stops Char.isDigit rest) (otherStops : Text.Stops Char.isDigit otherRest) :
    numeral = other ∧ rest = otherRest := by
  simp only [text, List.append_assoc] at same
  rcases Text.eq_of_append_eq same numeral.isBlank_blanks other.isBlank_blanks
    (numeral.stops_body rest) (other.stops_body otherRest) with ⟨sameBlanks, sameBodies⟩
  rcases body_inj sameBodies stops otherStops with ⟨sameSign, sameDigits, sameRest⟩
  exact ⟨Numeral.ext sameBlanks sameSign sameDigits, sameRest⟩

end Numeral

/-- A text is spelled in one way only. -/
theorem Spelling.text_inj {spelling other : Spelling} (same : spelling.text = other.text) :
    spelling = other := by
  have stops : ∀ (separator : Char) (rest : List Char), separator.isDigit = false →
      Text.Stops Char.isDigit (separator :: rest) := fun _ _ fails => Text.stops_cons_iff.mpr fails
  unfold Spelling.text at same
  rcases Numeral.text_inj same (stops _ _ rfl) (stops _ _ rfl) with ⟨sameYear, same⟩
  rcases Numeral.text_inj (List.cons.inj same).2 (stops _ _ rfl) (stops _ _ rfl) with
    ⟨sameMonth, same⟩
  rcases Numeral.text_inj (List.cons.inj same).2 (stops _ _ rfl) (stops _ _ rfl) with
    ⟨sameDay, same⟩
  rcases Numeral.text_inj (List.cons.inj same).2 (stops _ _ rfl) (stops _ _ rfl) with
    ⟨sameHour, same⟩
  rcases Numeral.text_inj (List.cons.inj same).2 (stops _ _ rfl) (stops _ _ rfl) with
    ⟨sameMinute, same⟩
  rcases Numeral.text_inj (List.cons.inj same).2 (stops _ _ rfl) (stops _ _ rfl) with
    ⟨sameSecond, -⟩
  exact Spelling.ext sameYear sameMonth sameDay sameHour sameMinute sameSecond

end CdnPublish.Deadline
