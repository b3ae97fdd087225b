/-!
# Cutting text at separators

Every small grammar of this library (destination paths, media types, links) is read by cutting a
text at a separator character. The two ways of cutting are defined here once: at every occurrence
(`pieces`) and at the first one (`cut`). Both are stated over lists so that they serve characters
and bytes alike, and each comes with the law that nothing is lost.
-/

namespace CdnPublish.Text

variable {Symbol : Type} [DecidableEq Symbol]

/-- The runs between the occurrences of a separator; `n` separators leave `n + 1` pieces. -/
def pieces (separator : Symbol) : List Symbol → List (List Symbol)
  | [] => [[]]
  | symbol :: rest =>
    if symbol = separator then
      [] :: pieces separator rest
    else
      match pieces separator rest with
      | [] => [[symbol]]
      | piece :: others => (symbol :: piece) :: others

/-- Pieces put one after the other with a separator between neighbours. -/
def glue (separator : Symbol) : List (List Symbol) → List Symbol
  | [] => []
  | [piece] => piece
  | piece :: next :: others => piece ++ separator :: glue separator (next :: others)

/-- What stands before and after the first separator, if there is one. -/
def cut (separator : Symbol) : List Symbol → Option (List Symbol × List Symbol)
  | [] => none
  | symbol :: rest =>
    if symbol = separator then
      some ([], rest)
    else
      (cut separator rest).map fun (before, after) => (symbol :: before, after)

/-- There is always at least one piece. -/
theorem pieces_ne_nil (separator : Symbol) (text : List Symbol) : pieces separator text ≠ [] := by
  cases text with
  | nil => simp [pieces]
  | cons symbol rest =>
    by_cases same : symbol = separator
    · simp [pieces, same]
    · simp only [pieces, same, if_false]
      split <;> simp

/-- Gluing the pieces back gives the text: cutting loses nothing. -/
theorem glue_pieces (separator : Symbol) (text : List Symbol) :
    glue separator (pieces separator text) = text := by
  induction text with
  | nil => rfl
  | cons symbol rest induction_hypothesis =>
    have nonempty := pieces_ne_nil separator rest
    by_cases same : symbol = separator
    · cases shape : pieces separator rest with
      | nil => exact absurd shape nonempty
      | cons piece others =>
        rw [shape] at induction_hypothesis
        simp [pieces, same, shape, glue, induction_hypothesis]
    · cases shape : pieces separator rest with
      | nil => exact absurd shape nonempty
      | cons piece others =>
        rw [shape] at induction_hypothesis
        cases others with
        | nil => simp_all [pieces, glue]
        | cons next others => simp_all [pieces, glue]

/-- The text without its trailing copies of a symbol. -/
def trimEnd (symbol : Symbol) (text : List Symbol) : List Symbol :=
  (text.reverse.dropWhile (· = symbol)).reverse

end CdnPublish.Text
