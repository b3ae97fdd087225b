import CdnPublish.Text.Split

/-!
# The leading part of a text

Reading takes the longest leading part whose symbols pass a test. That part is found again in every
text that is put together from symbols that pass and a rest that does not go on with one.
-/

namespace CdnPublish.Text

variable {Symbol : Type} {test : Symbol → Bool} {front otherFront rest otherRest : List Symbol}

/-- The text does not start with a symbol that passes. -/
def Stops (test : Symbol → Bool) (rest : List Symbol) : Prop :=
  ∀ symbol ∈ rest.head?, test symbol = false

theorem stops_nil (test : Symbol → Bool) : Stops test [] := by
  simp [Stops]

@[simp]
theorem stops_cons_iff {symbol : Symbol} : Stops test (symbol :: rest) ↔ test symbol = false := by
  simp [Stops]

theorem takeWhile_append_of_stops (passes : ∀ symbol ∈ front, test symbol = true)
    (stops : Stops test rest) : (front ++ rest).takeWhile test = front := by
  rw [List.takeWhile_append_of_pos passes]
  cases rest with
  | nil => simp
  | cons symbol rest => simp [stops_cons_iff.mp stops]

theorem dropWhile_append_of_stops (passes : ∀ symbol ∈ front, test symbol = true)
    (stops : Stops test rest) : (front ++ rest).dropWhile test = rest := by
  rw [List.dropWhile_append_of_pos passes]
  cases rest with
  | nil => rfl
  | cons symbol rest => simp [stops_cons_iff.mp stops]

/-- A text has only one leading part of symbols that pass after which it stops. -/
theorem eq_of_append_eq (same : front ++ rest = otherFront ++ otherRest)
    (passes : ∀ symbol ∈ front, test symbol = true)
    (otherPasses : ∀ symbol ∈ otherFront, test symbol = true)
    (stops : Stops test rest) (otherStops : Stops test otherRest) :
    front = otherFront ∧ rest = otherRest := by
  have leading := congrArg (List.takeWhile test) same
  rw [takeWhile_append_of_stops passes stops,
    takeWhile_append_of_stops otherPasses otherStops] at leading
  subst leading
  exact ⟨rfl, List.append_cancel_left same⟩

end CdnPublish.Text
