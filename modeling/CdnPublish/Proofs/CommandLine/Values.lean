import CdnPublish.CommandLine.Invocation
import CdnPublish.Proofs.Narrated.Sequences

/-!
# Values on the command line

A value is looked at before it is taken up, whether it is attached to its option, follows it or
stands in its place, and wherever the line goes on. So every value that an invocation rests on has
passed the check of its argument.
-/

namespace CdnPublish.CommandLine

namespace Reading

variable {part : Section} {verb : Option Verb} {reading after : Reading} {argument : Argument}
  {values : List String}

/-- Every value that has been taken up is one that its argument may hold. -/
def Checked (reading : Reading) : Prop :=
  ∀ argument value, (argument, value) ∈ reading.given → argument.valueName?.isSome = true →
    argument.check value = .ok ()

theorem Checked.of_given_eq (checked : reading.Checked) (same : after.given = reading.given) :
    after.Checked := by
  intro argument value mem
  rw [same] at mem
  exact checked argument value mem

theorem given_of_add (added : reading.add argument values = .ok after) :
    after.given = reading.given ++ values.map (argument, ·) := by
  unfold add at added
  split at added
  · cases added
  · cases added
    rfl

theorem Checked.add (checked : reading.Checked) (added : reading.add argument values = .ok after)
    (proper : argument.valueName?.isSome = true →
      ∀ value ∈ values, argument.check value = .ok ()) : after.Checked := by
  intro other value mem valued
  rw [given_of_add added] at mem
  rcases List.mem_append.mp mem with earlier | isNew
  · exact checked other value earlier valued
  · rcases List.mem_map.mp isNew with ⟨_, isValue, ⟨⟩⟩
    exact proper valued value isValue

theorem Checked.settle (checked : reading.Checked) (settled : reading.settle = .ok after) :
    after.Checked := by
  unfold Reading.settle at settled
  split at settled
  · cases settled
    exact checked
  · cases settled
  · rcases bind_eq_ok_iff.mp settled with ⟨taken, added, rest⟩
    rcases bind_eq_ok_iff.mp rest with ⟨⟨⟩, looked, ⟨⟩⟩
    have unsettled : Checked { reading with pending := none, awaitsValue := false } :=
      checked.of_given_eq rfl
    refine unsettled.add added fun _ value mem => ?_
    exact mapError_eq_ok_iff.mp (forM_eq_ok_iff.mp looked value mem)

theorem Checked.raise (checked : reading.Checked) (flag : argument.valueName? = none)
    (raised : reading.raise argument verb = .ok after) : after.Checked := by
  rcases bind_eq_ok_iff.mp raised with ⟨settled, ran, rest⟩
  have held := checked.settle ran
  split at rest
  · cases rest
  · cases rest
  · exact held.add rest fun valued => by simp [flag] at valued

theorem Checked.expect {attached : Option String} (checked : reading.Checked)
    (expected : reading.expect argument attached = .ok after) : after.Checked := by
  rcases bind_eq_ok_iff.mp expected with ⟨settled, ran, rest⟩
  have held := checked.settle ran
  cases attached with
  | none =>
      cases rest
      exact held.of_given_eq rfl
  | some value =>
      have pending : Checked { settled with pending := some (argument, [value]) } :=
        held.of_given_eq rfl
      exact pending.settle rest

theorem Checked.long {word : List Char} (checked : reading.Checked)
    (read : long part verb reading word = .ok after) : after.Checked := by
  unfold Reading.long at read
  split at read
  split at read
  · cases read
  · split at read
    · exact checked.expect read
    · rename_i flag
      have isFlag := Option.not_isSome_iff_eq_none.mp flag
      split at read
      · exact checked.raise isFlag read
      · cases read

theorem valueName?_of_letter? {letter : Char} (short : argument.letter? = some letter) :
    argument.valueName? = none := by
  cases argument <;> first | rfl | cases short

theorem Checked.letters {word : List Char} (checked : reading.Checked)
    (read : letters part verb reading word = .ok after) : after.Checked := by
  induction word generalizing reading with
  | nil =>
      cases read
      exact checked
  | cons letter rest induction_hypothesis =>
      unfold Reading.letters at read
      split at read
      · cases read
      · rename_i option found
        rcases bind_eq_ok_iff.mp read with ⟨raised, ran, later⟩
        have short : option.letter? = some letter := by simpa using List.find?_some found
        exact induction_hypothesis (checked.raise (valueName?_of_letter? short) ran) later

theorem Checked.placed {text : String} (checked : reading.Checked)
    (read : placed part reading text = .ok after) : after.Checked := by
  unfold Reading.placed at read
  split at read
  · cases read
  · split at read
    · cases read
      exact checked.of_given_eq rfl
    · rcases bind_eq_ok_iff.mp read with ⟨settled, ran, ⟨⟩⟩
      exact (checked.settle ran).of_given_eq rfl
  · cases read
    exact checked.of_given_eq rfl

/-- Whatever a word is taken for, the values before it have been looked at. -/
theorem Checked.word {text : String} (checked : reading.Checked)
    (read : word part verb reading text = .ok after) : after.Checked := by
  unfold Reading.word at read
  extract_lets value at read
  have isValue : ∀ {other : Reading}, value = .ok other → other.Checked := by
    intro other taken
    simp only [value] at taken
    split at taken
    · cases taken
      exact checked.of_given_eq rfl
    · exact checked.placed taken
  clear_value value
  split at read
  · exact checked.placed read
  · split at read
    · cases read
      exact checked.of_given_eq rfl
    · exact isValue read
    · exact checked.long read
    · exact checked.letters read
    · exact isValue read

theorem checked_start : start.Checked := by
  intro argument value mem
  cases mem

theorem Checked.foldlM {words : List String} (checked : reading.Checked)
    (read : words.foldlM (Reading.word part verb) reading = .ok after) : after.Checked := by
  induction words generalizing reading with
  | nil =>
      cases read
      exact checked
  | cons first rest induction_hypothesis =>
      rw [List.foldlM_cons] at read
      rcases bind_eq_ok_iff.mp read with ⟨next, ran, later⟩
      exact induction_hypothesis (checked.word ran) later

theorem eq_of_finish (finished : reading.finish part = .ok after) : after = reading := by
  unfold finish at finished
  extract_lets missing at finished
  split at finished
  · cases finished
    rfl
  · cases finished

end Reading

open Reading in
/-- What an invocation is asked to do has been read from a part of the line whose values have all
been looked at. -/
theorem Invocation.exists_reading {words : List String} {invocation : Invocation}
    (read : ofWords words = .ok invocation) :
    ∃ (verb : Verb) (behind : Reading), behind.Checked ∧
      invocation.command = commandOf verb behind := by
  unfold ofWords at read
  rcases bind_eq_ok_iff.mp read with ⟨⟨front, goesOn⟩, -, read⟩
  cases goesOn with
  | none =>
      rcases bind_eq_ok_iff.mp read with ⟨settled, -, never⟩
      cases never
  | some next =>
      rcases next with ⟨word, rest⟩
      cases named : Verb.ofWord? word with
      | none =>
          simp only [named] at read
          cases read
      | some verb =>
          simp only [named] at read
          rcases bind_eq_ok_iff.mp read with ⟨behind, ranBehind, read⟩
          rcases bind_eq_ok_iff.mp read with ⟨settled, ranSettle, read⟩
          rcases bind_eq_ok_iff.mp read with ⟨finished, ranFinish, read⟩
          rcases bind_eq_ok_iff.mp read with ⟨_, -, read⟩
          rcases bind_eq_ok_iff.mp read with ⟨_, -, ⟨⟩⟩
          rw [eq_of_finish ranFinish]
          exact ⟨verb, settled, (checked_start.foldlM ranBehind).settle ranSettle, rfl⟩

end CdnPublish.CommandLine
