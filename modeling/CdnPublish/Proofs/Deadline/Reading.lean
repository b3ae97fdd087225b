import CdnPublish.Proofs.Deadline.Spelling
import CdnPublish.Proofs.Narrated.Sequences

/-!
# Deadlines are read as they are spelled

Each reader takes the longest start of the text that it can. Behind every number of a deadline
stands something that is no digit, and up to there the number is read as it is spelled.
-/

namespace CdnPublish.Deadline

variable {Result Other : Type} {text rest : List Char} {separator : Char}

theorem run_bind_eq_ok_iff {first : Reader Other} {next : Other → Reader Result}
    {result : Result × List Char} :
    (first >>= next).run text = .ok result ↔
      ∃ value rest, first.run text = .ok (value, rest) ∧ (next value).run rest = .ok result := by
  rw [StateT.run_bind, bind_eq_ok_iff, Prod.exists]

theorem exactly_eq_ok_iff {taken : Unit} :
    (exactly separator).run text = .ok (taken, rest) ↔ text = separator :: rest := by
  cases text with
  | nil =>
      constructor
      · intro never
        cases never
      · intro never
        cases never
  | cons next later =>
      change StateT.run (if next = separator then set later else throw Fault.unexpected) _ = _ ↔ _
      by_cases same : next = separator
      · rw [if_pos same]
        change Except.ok ((), later) = _ ↔ _
        simp [same]
      · rw [if_neg same]
        change Except.error _ = _ ↔ _
        simp [same]

section Digits

variable {most : Option Nat} {number : Nat}

/-- The digits that are taken from a text. -/
def taken (most : Option Nat) (text : List Char) : List Char :=
  let all := text.takeWhile Char.isDigit
  (most.map all.take).getD all

theorem taken_isPrefix (most : Option Nat) (text : List Char) : taken most text <+: text := by
  cases most with
  | none => exact List.takeWhile_prefix _
  | some limit => exact (List.take_prefix _ _).trans (List.takeWhile_prefix _)

theorem isDigit_of_mem_taken {character : Char} (mem : character ∈ taken most text) :
    character.isDigit = true := by
  have inAll : character ∈ text.takeWhile Char.isDigit := by
    cases most with
    | none => exact mem
    | some limit => exact List.mem_of_mem_take mem
  exact List.mem_takeWhile_imp inAll

theorem length_taken_le (limit : Nat) (text : List Char) :
    (taken (some limit) text).length ≤ limit :=
  List.length_take_le _ _

theorem digits_eq_ok_iff :
    (digits most).run text = .ok (number, rest) ↔
      taken most text ≠ [] ∧ number = Nat.ofDigitChars 10 (taken most text) 0 ∧
        rest = text.drop (taken most text).length := by
  change StateT.run (if text = [] then throw Fault.premature else if taken most text = [] then
    throw Fault.unexpected else _) text = _ ↔ _
  split
  · rename_i empty
    have nothing : taken most text = [] := by
      rw [empty]
      exact List.prefix_nil.mp (taken_isPrefix most [])
    constructor
    · intro never
      cases never
    · intro read
      exact absurd nothing read.1
  · split
    · rename_i nothing
      constructor
      · intro never
        cases never
      · intro read
        exact absurd nothing read.1
    · rename_i something
      change Except.ok (List.foldl _ 0 (taken most text),
        text.drop (taken most text).length) = _ ↔ _
      rw [Text.foldl_digits]
      simp [something, eq_comm]

theorem taken_append (isDigit : ∀ character ∈ text, character.isDigit = true)
    (stops : Text.Stops Char.isDigit rest) (fits : ∀ limit ∈ most, text.length ≤ limit) :
    taken most (text ++ rest) = text := by
  unfold taken
  rw [Text.takeWhile_append_of_stops isDigit stops]
  cases most with
  | none => rfl
  | some limit => exact List.take_of_length_le (fits limit rfl)

/-- Digits are read up to something that is no digit. -/
theorem digits_eq_ok_of_stops (stops : Text.Stops Char.isDigit rest) :
    (digits most).run text = .ok (number, rest) ↔
      ∃ read, read ≠ [] ∧ (∀ character ∈ read, character.isDigit = true) ∧
        (∀ limit ∈ most, read.length ≤ limit) ∧ number = Nat.ofDigitChars 10 read 0 ∧
        text = read ++ rest := by
  rw [digits_eq_ok_iff]
  constructor
  · rintro ⟨something, rfl, rfl⟩
    refine ⟨taken most text, something, fun _ => isDigit_of_mem_taken, ?_, rfl, ?_⟩
    · rintro limit ⟨⟩
      exact length_taken_le limit text
    · exact (List.prefix_iff_eq_append.mp (taken_isPrefix most text)).symm
  · rintro ⟨read, something, isDigit, fits, rfl, rfl⟩
    rw [taken_append isDigit stops fits]
    exact ⟨something, rfl, List.drop_left.symm⟩

end Digits

section Numbers

variable {least greatest number : Nat}

theorem dropWhile_isBlank_text (numeral : Numeral) (rest : List Char) :
    (numeral.text ++ rest).dropWhile Text.isBlank = numeral.body ++ rest := by
  rw [Numeral.text, List.append_assoc]
  exact Text.dropWhile_append_of_stops numeral.isBlank_blanks (numeral.stops_body rest)

/-- The number with the blanks that a text starts with. -/
def Numeral.behind (text : List Char) (numeral : Numeral) : Numeral where
  blanks := text.takeWhile Text.isBlank
  sign := numeral.sign
  digits := numeral.digits
  isBlank_blanks := fun _ mem => List.mem_takeWhile_imp mem
  isDigit_digits := numeral.isDigit_digits
  digits_ne_nil := numeral.digits_ne_nil

theorem text_behind {numeral : Numeral}
    (follows : text.dropWhile Text.isBlank = numeral.body ++ rest) :
    text = (numeral.behind text).text ++ rest := by
  have whole := List.takeWhile_append_dropWhile (p := Text.isBlank) (l := text)
  rw [follows, ← List.append_assoc] at whole
  exact whole.symm

theorem run_skipBlanks_bind {next : Unit → Reader Result} :
    (skipBlanks >>= next).run text = (next ()).run (text.dropWhile Text.isBlank) := rfl

theorem checked_eq_ok_iff {condition : Prop} [Decidable condition] {value result : Result}
    {fault : Fault} :
    (if condition then pure value else throw fault : Reader Result).run text = .ok (result, rest) ↔
      condition ∧ value = result ∧ text = rest := by
  by_cases holds : condition
  · rw [if_pos holds]
    change Except.ok (value, text) = _ ↔ _
    simp [holds]
  · rw [if_neg holds]
    change Except.error fault = _ ↔ _
    simp [holds]

/-- A number between bounds is read up to something that is no digit. -/
theorem field_eq_ok_of_stops (stops : Text.Stops Char.isDigit rest) :
    (field least greatest).run text = .ok (number, rest) ↔
      ∃ numeral : Numeral, numeral.IsShort ∧ number = numeral.magnitude ∧
        (least ≤ number ∧ number ≤ greatest) ∧ text = numeral.text ++ rest := by
  unfold field
  rw [run_skipBlanks_bind, run_bind_eq_ok_iff]
  simp only [Bool.and_eq_true, decide_eq_true_eq, checked_eq_ok_iff]
  constructor
  · rintro ⟨_, _, ran, bounds, rfl, rfl⟩
    rcases (digits_eq_ok_of_stops stops).mp ran with ⟨read, something, isDigit, fits, rfl, follows⟩
    let numeral : Numeral := ⟨[], none, read, by simp, isDigit, something⟩
    exact ⟨numeral.behind text, ⟨rfl, fits 2 rfl⟩, rfl, bounds, text_behind follows⟩
  · rintro ⟨numeral, ⟨unsigned, short⟩, rfl, bounds, rfl⟩
    refine ⟨_, _, (digits_eq_ok_of_stops stops).mpr ?_, bounds, rfl, rfl⟩
    refine ⟨numeral.digits, numeral.digits_ne_nil, numeral.isDigit_digits, ?_, rfl, ?_⟩
    · rintro _ ⟨⟩
      exact short
    · rw [dropWhile_isBlank_text, Numeral.body, unsigned]
      rfl

theorem run_signedNumber_sign (sign : Sign) (text : List Char) :
    signedNumber.run (sign.character :: text) =
      (digits none).run text >>= fun read => .ok (Sign.apply (some sign) read.1, read.2) := by
  cases sign with
  | plus => rfl
  | minus => rfl

theorem run_signedNumber_unsigned (unsigned : ∀ sign : Sign, text.head? ≠ some sign.character) :
    signedNumber.run text =
      (digits (some 4)).run text >>= fun read => .ok (Sign.apply none read.1, read.2) := by
  rw [signedNumber, StateT.run_bind, StateT.run_get, pure_bind]
  dsimp only
  split
  · exact absurd rfl (unsigned .minus)
  · exact absurd rfl (unsigned .plus)
  · rfl

theorem signed_digits_eq_ok_iff {most : Option Nat} {sign : Option Sign} {signed : Int}
    (stops : Text.Stops Char.isDigit rest) :
    ((digits most).run text >>= fun read => .ok (Sign.apply sign read.1, read.2)) =
        Except.ok (signed, rest) ↔
      ∃ read, read ≠ [] ∧ (∀ character ∈ read, character.isDigit = true) ∧
        (∀ limit ∈ most, read.length ≤ limit) ∧
        signed = Sign.apply sign (Nat.ofDigitChars 10 read 0) ∧ text = read ++ rest := by
  rw [bind_eq_ok_iff]
  constructor
  · rintro ⟨⟨number, left⟩, ran, ⟨⟩⟩
    rcases (digits_eq_ok_of_stops stops).mp ran with ⟨read, something, isDigit, fits, rfl, rfl⟩
    exact ⟨read, something, isDigit, fits, rfl, rfl⟩
  · rintro ⟨read, something, isDigit, fits, rfl, rfl⟩
    refine ⟨(_, rest), (digits_eq_ok_of_stops stops).mpr ?_, rfl⟩
    exact ⟨read, something, isDigit, fits, rfl, rfl⟩

/-- A number with its sign is read up to something that is no digit. -/
theorem signedNumber_eq_ok_of_stops {signed : Int} (stops : Text.Stops Char.isDigit rest) :
    signedNumber.run text = .ok (signed, rest) ↔
      ∃ numeral : Numeral, numeral.IsYear ∧ signed = numeral.value ∧
        text = numeral.body ++ rest := by
  constructor
  · intro ran
    by_cases isSigned : ∃ sign : Sign, text.head? = some sign.character
    · rcases isSigned with ⟨sign, starts⟩
      rcases List.head?_eq_some_iff.mp starts with ⟨later, rfl⟩
      rw [run_signedNumber_sign] at ran
      rcases (signed_digits_eq_ok_iff stops).mp ran with ⟨read, something, isDigit, -, rfl, rfl⟩
      let numeral : Numeral := ⟨[], some sign, read, by simp, isDigit, something⟩
      exact ⟨numeral, by rintro ⟨⟩, rfl, rfl⟩
    · rw [run_signedNumber_unsigned (not_exists.mp isSigned)] at ran
      rcases (signed_digits_eq_ok_iff stops).mp ran with ⟨read, something, isDigit, fits, rfl, rfl⟩
      let numeral : Numeral := ⟨[], none, read, by simp, isDigit, something⟩
      exact ⟨numeral, fun _ => fits 4 rfl, rfl, rfl⟩
  · rintro ⟨numeral, isYear, rfl, rfl⟩
    cases signed : numeral.sign with
    | some sign =>
        have body : numeral.body ++ rest = sign.character :: (numeral.digits ++ rest) := by
          simp [Numeral.body, signed]
        rw [body, run_signedNumber_sign]
        refine (signed_digits_eq_ok_iff stops).mpr ⟨numeral.digits, numeral.digits_ne_nil,
          numeral.isDigit_digits, by simp, ?_, rfl⟩
        rw [Numeral.value, signed, Numeral.magnitude]
    | none =>
        have body : numeral.body ++ rest = numeral.digits ++ rest := by
          simp [Numeral.body, signed]
        have unsigned : ∀ sign : Sign, (numeral.digits ++ rest).head? ≠ some sign.character := by
          intro sign starts
          rcases List.head?_eq_some_iff.mp starts with ⟨later, same⟩
          exact numeral.digits_append_ne sign later same
        rw [body, run_signedNumber_unsigned unsigned]
        refine (signed_digits_eq_ok_iff stops).mpr ⟨numeral.digits, numeral.digits_ne_nil,
          numeral.isDigit_digits, ?_, ?_, rfl⟩
        · rintro _ ⟨⟩
          exact isYear signed
        · rw [Numeral.value, signed, Numeral.magnitude]

theorem year_eq_ok_of_stops {signed : Int} (stops : Text.Stops Char.isDigit rest) :
    year.run text = .ok (signed, rest) ↔
      ∃ numeral : Numeral, numeral.IsYear ∧ signed = numeral.value ∧
        (-0x80000000 ≤ signed ∧ signed < 0x80000000) ∧ text = numeral.text ++ rest := by
  unfold year
  rw [run_skipBlanks_bind, run_bind_eq_ok_iff]
  simp only [Bool.and_eq_true, decide_eq_true_eq, checked_eq_ok_iff]
  constructor
  · rintro ⟨_, _, ran, bounds, rfl, rfl⟩
    rcases (signedNumber_eq_ok_of_stops stops).mp ran with ⟨numeral, isYear, rfl, follows⟩
    exact ⟨numeral.behind text, isYear, rfl, bounds, text_behind follows⟩
  · rintro ⟨numeral, isYear, rfl, bounds, rfl⟩
    refine ⟨_, _, (signedNumber_eq_ok_of_stops stops).mpr ?_, bounds, rfl, rfl⟩
    exact ⟨numeral, isYear, rfl, dropWhile_isBlank_text numeral rest⟩

end Numbers

theorem bind_exactly_eq_ok_iff {first : Reader Other} {next : Other → Reader Result}
    {result : Result × List Char} :
    (first >>= fun value => exactly separator >>= fun _ => next value).run text = .ok result ↔
      ∃ value rest, first.run text = .ok (value, separator :: rest) ∧
        (next value).run rest = .ok result := by
  simp only [run_bind_eq_ok_iff, exactly_eq_ok_iff]
  constructor
  · rintro ⟨value, _, ran, _, rest, rfl, goesOn⟩
    exact ⟨value, rest, ran, goesOn⟩
  · rintro ⟨value, rest, ran, goesOn⟩
    exact ⟨value, _, ran, (), rest, rfl, goesOn⟩

/-- All characters that stand between the numbers end them. -/
theorem stops_separator (rest : List Char) (separates : separator.isDigit = false) :
    Text.Stops Char.isDigit (separator :: rest) :=
  Text.stops_cons_iff.mpr separates

theorem exists_spelling {read : Moment} (ran : moment.run text = .ok (read, []))
    (dated : read.hasDate = true) :
    ∃ spelling : Spelling, spelling.text = text ∧ spelling.moment = read := by
  unfold moment at ran
  simp only [bind_exactly_eq_ok_iff] at ran
  rcases ran with ⟨_, _, ranYear, _, _, ranMonth, _, _, ranDay, _, _, ranHour, _, _, ranMinute, _,
    _, ranSecond, ended⟩
  cases ended
  rcases (year_eq_ok_of_stops (stops_separator _ rfl)).mp ranYear with ⟨year, isYear, rfl, -, rfl⟩
  rcases (field_eq_ok_of_stops (stops_separator _ rfl)).mp ranMonth with
    ⟨month, shortMonth, rfl, -, rfl⟩
  rcases (field_eq_ok_of_stops (stops_separator _ rfl)).mp ranDay with ⟨day, shortDay, rfl, -, rfl⟩
  rcases (field_eq_ok_of_stops (stops_separator _ rfl)).mp ranHour with
    ⟨hour, shortHour, rfl, hours, rfl⟩
  rcases (field_eq_ok_of_stops (stops_separator _ rfl)).mp ranMinute with
    ⟨minute, shortMinute, rfl, minutes, rfl⟩
  rcases (field_eq_ok_of_stops (stops_separator _ rfl)).mp ranSecond with
    ⟨second, shortSecond, rfl, seconds, rfl⟩
  exact ⟨⟨year, month, day, hour, minute, second, isYear, shortMonth, shortDay, shortHour,
    shortMinute, shortSecond, hours.2, minutes.2, seconds.2, dated⟩, rfl, rfl⟩

theorem bounds_of_hasDate {read : Moment} (dated : read.hasDate = true) :
    (-0x80000000 ≤ read.year ∧ read.year < 0x80000000) ∧ (1 ≤ read.month ∧ read.month ≤ 12) ∧
      (1 ≤ read.day ∧ read.day ≤ 31) := by
  have longest : Moment.daysIn read.year read.month ≤ 31 := by
    unfold Moment.daysIn
    split_ifs <;> omega
  simp only [Moment.hasDate, Bool.and_eq_true, decide_eq_true_eq] at dated
  rcases dated with ⟨⟨⟨⟨⟨first, last⟩, months⟩, year⟩, days⟩, month⟩
  have earliest : -262143 ≤ read.year := first
  have latest : read.year ≤ 262142 := last
  omega

theorem run_moment_text (spelling : Spelling) :
    moment.run spelling.text = .ok (spelling.moment, []) := by
  rcases bounds_of_hasDate spelling.hasDate with ⟨years, months, days⟩
  unfold moment
  simp only [bind_exactly_eq_ok_iff]
  refine ⟨_, _, (year_eq_ok_of_stops (stops_separator _ rfl)).mpr
      ⟨spelling.year, spelling.isYear_year, rfl, years, rfl⟩,
    _, _, (field_eq_ok_of_stops (stops_separator _ rfl)).mpr
      ⟨spelling.month, spelling.isShort_month, rfl, months, rfl⟩,
    _, _, (field_eq_ok_of_stops (stops_separator _ rfl)).mpr
      ⟨spelling.day, spelling.isShort_day, rfl, days, rfl⟩,
    _, _, (field_eq_ok_of_stops (stops_separator _ rfl)).mpr
      ⟨spelling.hour, spelling.isShort_hour, rfl, ⟨Nat.zero_le _, spelling.hour_le⟩, rfl⟩,
    _, _, (field_eq_ok_of_stops (stops_separator _ rfl)).mpr
      ⟨spelling.minute, spelling.isShort_minute, rfl, ⟨Nat.zero_le _, spelling.minute_le⟩, rfl⟩,
    _, _, (field_eq_ok_of_stops (stops_separator _ rfl)).mpr
      ⟨spelling.second, spelling.isShort_second, rfl, ⟨Nat.zero_le _, spelling.second_le⟩, rfl⟩,
    rfl⟩

/-- Reading accepts exactly the spellings of deadlines. -/
theorem parse_eq_ok_iff {text : String} {read : Moment} :
    parse text = .ok read ↔
      ∃ spelling : Spelling, spelling.text = text.toList ∧ spelling.moment = read := by
  unfold parse
  rw [bind_eq_ok_iff]
  constructor
  · rintro ⟨⟨meant, rest⟩, ran, accepted⟩
    by_cases ends : rest = []
    · subst ends
      by_cases dated : meant.hasDate = true
      · simp only [ne_eq, not_true_eq_false, if_false, dated, if_true] at accepted
        cases accepted
        exact exists_spelling ran dated
      · simp only [ne_eq, not_true_eq_false, if_false, dated] at accepted
        cases accepted
    · simp only [ne_eq, ends, not_false_eq_true, if_true] at accepted
      cases accepted
  · rintro ⟨spelling, spelled, rfl⟩
    refine ⟨(spelling.moment, []), spelled ▸ run_moment_text spelling, ?_⟩
    have dated : spelling.moment.hasDate = true := spelling.hasDate
    simp only [ne_eq, not_true_eq_false, if_false, dated, if_true]
    rfl

end CdnPublish.Deadline
