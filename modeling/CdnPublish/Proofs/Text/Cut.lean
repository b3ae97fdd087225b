import CdnPublish.Text.Split

/-!
# Attaching a text and cutting it off

A text without the separator, and perhaps a further text attached behind a separator, can be told
apart again by cutting at the first separator. Every text is composed in this way, and in one way
only.
-/

namespace CdnPublish.Text

variable {Symbol : Type} {separator : Symbol} {front otherFront : List Symbol}
  {behind otherBehind : Option (List Symbol)}

/-- A text, followed by a separator and a further text if there is one. -/
def attach (separator : Symbol) (front : List Symbol) : Option (List Symbol) → List Symbol
  | none => front
  | some behind => front ++ separator :: behind

theorem attach_cons (symbol : Symbol) :
    attach separator (symbol :: front) behind = symbol :: attach separator front behind := by
  cases behind <;> rfl

/-- What is attached stands in the front part, behind the separator, or is the separator. -/
theorem mem_attach_iff {symbol : Symbol} :
    symbol ∈ attach separator front behind ↔
      symbol ∈ front ∨ ∃ text ∈ behind, symbol = separator ∨ symbol ∈ text := by
  cases behind <;> simp [attach]

variable [DecidableEq Symbol]

/-- Cutting finds what was attached. -/
theorem cut_attach (whole : separator ∉ front) (behind : Option (List Symbol)) :
    cut separator (attach separator front behind) = behind.map fun text => (front, text) := by
  induction front with
  | nil => cases behind <;> simp [attach, cut]
  | cons symbol front induction_hypothesis =>
      have absent : separator ≠ symbol ∧ separator ∉ front := by simpa using whole
      rw [attach_cons, cut, if_neg absent.1.symm, induction_hypothesis absent.2]
      cases behind <;> rfl

/-- Every text is composed of a part without the separator and perhaps a part behind it. -/
theorem exists_eq_attach (separator : Symbol) (text : List Symbol) :
    ∃ front behind, text = attach separator front behind ∧ separator ∉ front := by
  by_cases mem : separator ∈ text
  · rcases List.eq_append_cons_of_mem mem with ⟨front, behind, split, whole⟩
    exact ⟨front, some behind, split, whole⟩
  · exact ⟨text, none, rfl, mem⟩

theorem attach_inj (whole : separator ∉ front) (otherWhole : separator ∉ otherFront) :
    attach separator front behind = attach separator otherFront otherBehind ↔
      front = otherFront ∧ behind = otherBehind := by
  constructor
  · intro same
    have cuts := congrArg (cut separator) same
    rw [cut_attach whole, cut_attach otherWhole] at cuts
    cases behind with
    | none =>
        cases otherBehind with
        | none => exact ⟨same, rfl⟩
        | some text => cases cuts
    | some text =>
        cases otherBehind with
        | none => cases cuts
        | some otherText =>
            cases cuts
            exact ⟨rfl, rfl⟩
  · rintro ⟨rfl, rfl⟩
    rfl

end CdnPublish.Text
