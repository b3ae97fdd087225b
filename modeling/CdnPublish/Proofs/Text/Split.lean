import CdnPublish.Text.Split

/-!
# Pieces of glued text

No piece holds the separator, and texts without the separator are the pieces of what they are glued
to: cutting and gluing are inverse to each other.
-/

namespace CdnPublish.Text

section Glue

variable {Symbol : Type} {separator : Symbol} {pieceList others : List (List Symbol)}

theorem glue_cons (first : List Symbol) (proper : others ≠ []) :
    glue separator (first :: others) = first ++ separator :: glue separator others := by
  cases others with
  | nil => exact absurd rfl proper
  | cons second others => rfl

theorem glue_concat (proper : pieceList ≠ []) (piece : List Symbol) :
    glue separator (pieceList ++ [piece]) = glue separator pieceList ++ separator :: piece := by
  induction pieceList with
  | nil => exact absurd rfl proper
  | cons first others induction_hypothesis =>
      by_cases last : others = []
      · rw [last]
        rfl
      · rw [List.cons_append, glue_cons first (by simp), induction_hypothesis last,
          glue_cons first last, List.append_assoc, List.cons_append]

theorem mem_glue {symbol : Symbol} (mem : symbol ∈ glue separator pieceList) :
    symbol = separator ∨ ∃ piece ∈ pieceList, symbol ∈ piece := by
  induction pieceList with
  | nil => cases mem
  | cons first others induction_hypothesis =>
      by_cases last : others = []
      · rw [last] at mem
        exact Or.inr ⟨first, .head _, mem⟩
      · rw [glue_cons first last] at mem
        rcases List.mem_append.mp mem with here | mem
        · exact Or.inr ⟨first, .head _, here⟩
        rcases List.mem_cons.mp mem with same | later
        · exact Or.inl same
        · refine (induction_hypothesis later).imp_right ?_
          rintro ⟨piece, pieceMem, inPiece⟩
          exact ⟨piece, .tail _ pieceMem, inPiece⟩

/-- With a separator in front, glued texts are texts that each have a separator in front. -/
theorem cons_glue (proper : pieceList ≠ []) :
    separator :: glue separator pieceList = pieceList.flatMap (separator :: ·) := by
  induction pieceList with
  | nil => exact absurd rfl proper
  | cons first others induction_hypothesis =>
      by_cases last : others = []
      · rw [last]
        exact (List.append_nil _).symm
      · rw [glue_cons first last, induction_hypothesis last]
        rfl

/-- Glued texts end with the last of them. -/
theorem suffix_glue_concat (separator : Symbol) (pieceList : List (List Symbol))
    (piece : List Symbol) : piece <:+ glue separator (pieceList ++ [piece]) := by
  by_cases only : pieceList = []
  · rw [only]
    exact List.suffix_rfl
  · rw [glue_concat only]
    exact (List.suffix_cons separator piece).trans (List.suffix_append _ _)

end Glue

variable {Symbol : Type} [DecidableEq Symbol] {separator : Symbol} {text piece : List Symbol}
  {pieceList others : List (List Symbol)}

theorem pieces_cons_self (separator : Symbol) (text : List Symbol) :
    pieces separator (separator :: text) = [] :: pieces separator text := by
  simp [pieces]

theorem pieces_cons_of_ne {symbol : Symbol} {first : List Symbol} (other : symbol ≠ separator)
    (shape : pieces separator text = first :: others) :
    pieces separator (symbol :: text) = (symbol :: first) :: others := by
  simp [pieces, other, shape]

theorem exists_pieces_eq_cons (separator : Symbol) (text : List Symbol) :
    ∃ first others, pieces separator text = first :: others :=
  List.exists_cons_of_ne_nil (pieces_ne_nil separator text)

theorem pieces_of_not_mem (whole : separator ∉ text) : pieces separator text = [text] := by
  induction text with
  | nil => rfl
  | cons symbol rest induction_hypothesis =>
      have absent : separator ≠ symbol ∧ separator ∉ rest := by simpa using whole
      exact pieces_cons_of_ne absent.1.symm (induction_hypothesis absent.2)

/-- A separator between two texts separates their pieces. -/
theorem pieces_append (separator : Symbol) (before after : List Symbol) :
    pieces separator (before ++ separator :: after) =
      pieces separator before ++ pieces separator after := by
  induction before with
  | nil => exact pieces_cons_self separator after
  | cons symbol before induction_hypothesis =>
      by_cases same : symbol = separator
      · rw [same, List.cons_append, pieces_cons_self, pieces_cons_self, induction_hypothesis,
          List.cons_append]
      · rcases exists_pieces_eq_cons separator before with ⟨first, others, shape⟩
        rw [shape, List.cons_append] at induction_hypothesis
        rw [List.cons_append, pieces_cons_of_ne same induction_hypothesis,
          pieces_cons_of_ne same shape, List.cons_append]

theorem not_mem_of_mem_pieces (mem : piece ∈ pieces separator text) : separator ∉ piece := by
  induction text generalizing piece with
  | nil => simp_all [pieces]
  | cons symbol rest induction_hypothesis =>
      by_cases same : symbol = separator
      · rw [same, pieces_cons_self] at mem
        rcases List.mem_cons.mp mem with rfl | later
        · exact List.not_mem_nil
        · exact induction_hypothesis later
      · rcases exists_pieces_eq_cons separator rest with ⟨first, others, shape⟩
        rw [pieces_cons_of_ne same shape] at mem
        rw [shape] at induction_hypothesis
        rcases List.mem_cons.mp mem with rfl | later
        · simpa [Ne.symm same] using induction_hypothesis (.head _)
        · exact induction_hypothesis (.tail _ later)

/-- Texts without a separator are the pieces of what they are glued to. -/
theorem pieces_glue (proper : pieceList ≠ []) (whole : ∀ piece ∈ pieceList, separator ∉ piece) :
    pieces separator (glue separator pieceList) = pieceList := by
  induction pieceList with
  | nil => exact absurd rfl proper
  | cons piece others induction_hypothesis =>
      rcases List.forall_mem_cons.mp whole with ⟨here, later⟩
      by_cases last : others = []
      · rw [last]
        exact pieces_of_not_mem here
      · rw [glue_cons piece last, pieces_append, pieces_of_not_mem here,
          induction_hypothesis last later, List.singleton_append]

end CdnPublish.Text
