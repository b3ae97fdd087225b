import CdnPublish.Proofs.Deadline.Reading

/-!
# Timestamps

A timestamp has the fixed form `YYYY-MM-DDTHH:MM:SSZ`: it is how a date and a time of day are
written when every number is filled up with zeros to its full width. Timestamps are those spellings
of deadlines that use none of the freedom that a spelling has.
-/

namespace CdnPublish

namespace Deadline

/-- A number in so many digits. -/
def padded : Nat → Nat → List Char
  | 0, _ => []
  | width + 1, number => padded width (number / 10) ++ [Nat.digitChar (number % 10)]

end Deadline

namespace Moment

/-- A date in a year of four digits and a time of day. -/
structure IsCivil (moment : Moment) : Prop where
  year_nonneg : 0 ≤ moment.year
  year_le : moment.year ≤ 9999
  hasDate : moment.hasDate = true
  hour_lt : moment.hour < 24
  minute_lt : moment.minute < 60
  second_lt : moment.second < 60

/-- The moment in the form `YYYY-MM-DDTHH:MM:SSZ`. -/
def text (moment : Moment) : List Char :=
  Deadline.padded 4 moment.year.toNat ++ '-' :: (Deadline.padded 2 moment.month ++ '-' ::
    (Deadline.padded 2 moment.day ++ 'T' :: (Deadline.padded 2 moment.hour ++ ':' ::
      (Deadline.padded 2 moment.minute ++ ':' :: (Deadline.padded 2 moment.second ++ ['Z'])))))

end Moment

namespace Deadline

/-- The text names a date and a time of day in the form `YYYY-MM-DDTHH:MM:SSZ`. -/
def IsTimestamp (text : List Char) : Prop :=
  ∃ moment : Moment, moment.IsCivil ∧ moment.text = text

/-- All numbers have their full width, and nothing else. -/
structure Spelling.IsPlain (spelling : Spelling) : Prop where
  year : spelling.year.IsPlain 4
  month : spelling.month.IsPlain 2
  day : spelling.day.IsPlain 2
  hour : spelling.hour.IsPlain 2
  minute : spelling.minute.IsPlain 2
  second : spelling.second.IsPlain 2

section Padding

variable {width number : Nat} {digits : List Char} {character : Char}

@[simp]
theorem length_padded (width number : Nat) : (padded width number).length = width := by
  induction width generalizing number with
  | zero => rfl
  | succ width induction_hypothesis => simp [padded, induction_hypothesis]

theorem isDigit_of_mem_padded (mem : character ∈ padded width number) :
    character.isDigit = true := by
  induction width generalizing number with
  | zero => cases mem
  | succ width induction_hypothesis =>
      rcases List.mem_append.mp mem with earlier | last
      · exact induction_hypothesis earlier
      · rw [List.mem_singleton.mp last, Nat.isDigit_digitChar, decide_eq_true_eq]
        exact Nat.mod_lt number (by omega)

theorem ofDigitChars_padded (fits : number < 10 ^ width) :
    Nat.ofDigitChars 10 (padded width number) 0 = number := by
  induction width generalizing number with
  | zero =>
      have zero : number = 0 := by simpa using fits
      rw [zero]
      rfl
  | succ width induction_hypothesis =>
      have shorter : number / 10 < 10 ^ width := by
        rw [Nat.pow_succ] at fits
        omega
      rw [padded, Nat.ofDigitChars_append, induction_hypothesis shorter,
        Nat.ofDigitChars_cons_digitChar_of_lt_ten (Nat.mod_lt _ (by omega)), Nat.ofDigitChars_nil]
      omega

theorem exists_digitChar (digit : character.isDigit = true) :
    ∃ value < 10, Nat.digitChar value = character := by
  have range := Text.toNat_of_isDigit digit
  refine ⟨character.toNat - 48, by omega, ?_⟩
  apply Char.toNat_inj.mp
  rw [Nat.toNat_digitChar_of_lt_ten (by omega)]
  omega

theorem ofDigitChars_concat {value : Nat} (small : value < 10) :
    Nat.ofDigitChars 10 (digits ++ [Nat.digitChar value]) 0 =
      10 * Nat.ofDigitChars 10 digits 0 + value := by
  rw [Nat.ofDigitChars_append, Nat.ofDigitChars_cons_digitChar_of_lt_ten small,
    Nat.ofDigitChars_nil]

/-- So many digits are the padded form of the number that they stand for. -/
theorem padded_ofDigitChars (isDigit : ∀ character ∈ digits, character.isDigit = true) :
    Nat.ofDigitChars 10 digits 0 < 10 ^ digits.length ∧
      padded digits.length (Nat.ofDigitChars 10 digits 0) = digits := by
  induction digits using List.reverseRecOn with
  | nil => simp [padded]
  | append_singleton digits last induction_hypothesis =>
      rcases exists_digitChar (isDigit last (by simp)) with ⟨value, small, rfl⟩
      rcases induction_hypothesis fun character mem => isDigit character (by simp [mem]) with
        ⟨fits, padded_eq⟩
      rw [List.length_append, List.length_singleton, ofDigitChars_concat small]
      constructor
      · rw [Nat.pow_succ]
        omega
      · have quotient : (10 * Nat.ofDigitChars 10 digits 0 + value) / 10 =
            Nat.ofDigitChars 10 digits 0 := by omega
        have remainder : (10 * Nat.ofDigitChars 10 digits 0 + value) % 10 = value := by omega
        rw [padded, quotient, remainder, padded_eq]

end Padding

namespace Numeral

variable {numeral : Numeral} {width number : Nat}

/-- The number in so many digits. -/
def plain (width number : Nat) [NeZero width] : Numeral where
  blanks := []
  sign := none
  digits := padded width number
  isBlank_blanks := by simp
  isDigit_digits := fun _ => isDigit_of_mem_padded
  digits_ne_nil := List.ne_nil_of_length_pos (by simpa using NeZero.pos width)

theorem isPlain_plain [NeZero width] : (plain width number).IsPlain width :=
  ⟨rfl, rfl, length_padded width number⟩

theorem isShort_plain (number : Nat) : (plain 2 number).IsShort :=
  ⟨rfl, (length_padded 2 number).le⟩

theorem magnitude_plain (small : number ≤ 60) :
    (plain 2 number).magnitude = number :=
  ofDigitChars_padded (by omega)

theorem IsPlain.magnitude_lt (plain : numeral.IsPlain width) : numeral.magnitude < 10 ^ width := by
  rw [← plain.2.2]
  exact (padded_ofDigitChars numeral.isDigit_digits).1

theorem IsPlain.text_eq (plain : numeral.IsPlain width) :
    numeral.text = padded width numeral.magnitude := by
  have digits := (padded_ofDigitChars numeral.isDigit_digits).2
  rw [plain.2.2] at digits
  rw [text, body, plain.1, plain.2.1, magnitude, digits]
  rfl

theorem IsPlain.value_eq (plain : numeral.IsPlain width) : numeral.value = numeral.magnitude := by
  rw [value, plain.2.1]
  rfl

end Numeral

theorem value_plain_year {moment : Moment} (civil : moment.IsCivil) :
    (Numeral.plain 4 moment.year.toNat).value = moment.year := by
  have nonneg := civil.year_nonneg
  have atMost := civil.year_le
  rw [Numeral.isPlain_plain.value_eq, Numeral.magnitude, Numeral.plain,
    ofDigitChars_padded (by omega)]
  omega

/-- A civil moment, spelled in full. -/
def Spelling.ofMoment (moment : Moment) (civil : moment.IsCivil) : Spelling where
  year := .plain 4 moment.year.toNat
  month := .plain 2 moment.month
  day := .plain 2 moment.day
  hour := .plain 2 moment.hour
  minute := .plain 2 moment.minute
  second := .plain 2 moment.second
  isYear_year := fun _ => (length_padded 4 _).le
  isShort_month := Numeral.isShort_plain _
  isShort_day := Numeral.isShort_plain _
  isShort_hour := Numeral.isShort_plain _
  isShort_minute := Numeral.isShort_plain _
  isShort_second := Numeral.isShort_plain _
  hour_le := by
    have early := civil.hour_lt
    rw [Numeral.magnitude_plain (by omega)]
    omega
  minute_le := by
    have early := civil.minute_lt
    rw [Numeral.magnitude_plain (by omega)]
    omega
  second_le := by
    have early := civil.second_lt
    rw [Numeral.magnitude_plain (by omega)]
    omega
  hasDate := by
    have bounds := bounds_of_hasDate civil.hasDate
    have dated := civil.hasDate
    unfold Moment.hasDate at dated ⊢
    have month : (Numeral.plain 2 moment.month).magnitude = moment.month :=
      Numeral.magnitude_plain (by omega)
    have day : (Numeral.plain 2 moment.day).magnitude = moment.day :=
      Numeral.magnitude_plain (by omega)
    rw [value_plain_year civil, month, day]
    exact dated

theorem Spelling.isPlain_ofMoment {moment : Moment} (civil : moment.IsCivil) :
    (ofMoment moment civil).IsPlain :=
  ⟨Numeral.isPlain_plain, Numeral.isPlain_plain, Numeral.isPlain_plain, Numeral.isPlain_plain,
    Numeral.isPlain_plain, Numeral.isPlain_plain⟩

theorem Spelling.IsPlain.text_moment {spelling : Spelling} (plain : spelling.IsPlain) :
    spelling.moment.text = spelling.text := by
  unfold Moment.text Spelling.moment Spelling.text
  rw [plain.year.text_eq, plain.month.text_eq, plain.day.text_eq, plain.hour.text_eq,
    plain.minute.text_eq, plain.second.text_eq, plain.year.value_eq, Int.toNat_natCast]

/-- A plain spelling means a civil moment, unless it is in a leap second. -/
theorem Spelling.IsPlain.isCivil {spelling : Spelling} (plain : spelling.IsPlain)
    (regular : spelling.second.magnitude ≠ 60) : spelling.moment.IsCivil := by
  have year : spelling.moment.year = spelling.year.magnitude := plain.year.value_eq
  have fits := plain.year.magnitude_lt
  have seconds := spelling.second_le
  exact ⟨by omega, by omega, spelling.hasDate, Nat.lt_succ_of_le spelling.hour_le,
    Nat.lt_succ_of_le spelling.minute_le, Nat.lt_of_le_of_ne seconds regular⟩

/-- The timestamps among the spellings of deadlines. -/
theorem isTimestamp_text_iff (spelling : Spelling) :
    IsTimestamp spelling.text ↔ spelling.IsPlain ∧ spelling.second.magnitude ≠ 60 := by
  constructor
  · rintro ⟨moment, civil, same⟩
    have spelled : Spelling.ofMoment moment civil = spelling := Spelling.text_inj same
    subst spelled
    refine ⟨Spelling.isPlain_ofMoment civil, ?_⟩
    have early := civil.second_lt
    change (Numeral.plain 2 moment.second).magnitude ≠ 60
    rw [Numeral.magnitude_plain (by omega)]
    omega
  · rintro ⟨plain, regular⟩
    exact ⟨spelling.moment, plain.isCivil regular, plain.text_moment⟩

theorem IsTimestamp.exists_spelling {text : List Char} (timestamp : IsTimestamp text) :
    ∃ spelling : Spelling, spelling.text = text := by
  rcases timestamp with ⟨moment, civil, same⟩
  exact ⟨Spelling.ofMoment moment civil, same⟩

theorem IsTimestamp.length_eq {text : List Char} (timestamp : IsTimestamp text) :
    text.length = 20 := by
  rcases timestamp with ⟨moment, -, rfl⟩
  simp [Moment.text]

end Deadline

end CdnPublish
