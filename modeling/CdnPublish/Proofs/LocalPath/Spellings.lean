import CdnPublish.Proofs.LocalPath.Names

/-!
# Spellings of a path

A path is cut into the same pieces whether its bytes are read or its text, and what an empty piece
or a dot adds to it is no step. Names that are put after a path as one further path are therefore
found again when the path is taken away.
-/

namespace CdnPublish.LocalPath

/-- A relative path that leads down through these names and nowhere else. -/
def LeadsThrough (path : LocalPath) (names : List Bytes) : Prop :=
  path.components.filter (· ≠ .current) = names.map .name

instance (path : LocalPath) (names : List Bytes) : Decidable (path.LeadsThrough names) :=
  inferInstanceAs (Decidable (_ = _))

/-- The byte of a dot. -/
def dotByte : UInt8 := 0x2E

variable {path relative : LocalPath} {names : List Bytes} {piece : Bytes}

theorem LeadsThrough.areNames (leads : path.LeadsThrough names) : ∀ name ∈ names, IsName name := by
  intro name mem
  have named : Component.name name ∈ path.components.filter (· ≠ .current) := by
    rw [leads]
    exact List.mem_map_of_mem mem
  exact isName_of_mem_components (List.mem_filter.mp named).1

theorem decodeLossy_eq_dot_iff : Text.decodeLossy piece = ['.'] ↔ piece = [dotByte] := by
  constructor
  · intro same
    have unflawed : '\uFFFD' ∉ Text.decodeLossy piece := by simp [same]
    have read := Text.encode_of_decodeLossy unflawed
    rw [← read, same]
    rfl
  · rintro rfl
    cbv

theorem decodeLossy_eq_dotDot_iff :
    Text.decodeLossy piece = ['.', '.'] ↔ piece = [dotByte, dotByte] := by
  constructor
  · intro same
    have unflawed : '\uFFFD' ∉ Text.decodeLossy piece := by simp [same]
    have read := Text.encode_of_decodeLossy unflawed
    rw [← read, same]
    rfl
  · rintro rfl
    cbv

/-- The text of a path is cut at the same slashes as its bytes. -/
theorem pieces_decodeLossy (path : LocalPath) :
    Text.pieces '/' (Text.decodeLossy path.bytes) = path.rawPieces.map Text.decodeLossy := by
  have whole : ∀ text ∈ path.rawPieces.map Text.decodeLossy, '/' ∉ text := by
    intro text mem
    rcases List.mem_map.mp mem with ⟨piece, pieceMem, rfl⟩
    exact Text.not_mem_decodeLossy slash (by decide) (Text.not_mem_of_mem_pieces pieceMem)
  have proper : path.rawPieces.map Text.decodeLossy ≠ [] := by
    simpa [rawPieces] using Text.pieces_ne_nil slash path.bytes
  rw [← Text.pieces_glue proper whole, ← decodeLossy_glue]
  unfold rawPieces
  rw [Text.glue_pieces]

/-- A path and a relative one put after it. -/
theorem join_of_relative (isRelative : relative.isAbsolute = false) :
    path.join relative = ⟨path.stem ++ relative.bytes⟩ := by
  unfold join stem
  rw [if_neg (by simp [isRelative])]
  split <;> simp

theorem isAbsolute_glue (areNames : ∀ name ∈ names, IsName name) :
    (⟨Text.glue slash names⟩ : LocalPath).isAbsolute = false := by
  have steps := components_glue areNames
  by_contra absolute
  rw [Bool.not_eq_false] at absolute
  unfold components at steps
  rw [if_pos absolute] at steps
  cases names with
  | nil => simp at steps
  | cons name names => simp at steps

/-- The slash that an empty path adds is no component. -/
theorem components_stem (path : LocalPath) : (⟨path.stem⟩ : LocalPath).components =
    path.components := by
  rcases path.stem_cases with ⟨none, same⟩ | ⟨front, ends, same⟩ | ⟨some, same⟩
  · rw [same, ← none]
  · rw [same, ← ends]
  · have pieces : (⟨path.stem⟩ : LocalPath).rawPieces = path.rawPieces ++ [[]] := by
      unfold rawPieces
      rw [same, Text.pieces_append]
      rfl
    have starts : (⟨path.stem⟩ : LocalPath).isAbsolute = path.isAbsolute := by
      unfold isAbsolute
      rw [same, List.head?_append_of_ne_nil _ some]
    have first : (path.rawPieces ++ [[]]).head? = path.rawPieces.head? :=
      List.head?_append_of_ne_nil _ (Text.pieces_ne_nil slash path.bytes)
    unfold components
    simp only [pieces, starts, first, List.filter_append]
    simp [isSignificant]

/-- Taking a path away from what names are put after it leaves the names. -/
theorem relativeTo?_join_glue (areNames : ∀ name ∈ names, IsName name) :
    (path.join ⟨Text.glue slash names⟩).relativeTo? path = some ⟨Text.glue slash names⟩ := by
  rw [join_of_relative (isAbsolute_glue areNames)]
  by_cases none : names = []
  · have same := components_stem path
    subst none
    simp only [Text.glue, List.append_nil]
    unfold relativeTo?
    rw [same, if_pos List.prefix_rfl]
    simp [lastSignificant_zero, Text.glue]
  · rw [← joinAll_eq areNames none]
    exact relativeTo?_joinAll areNames

/-- A relative path that is put after another one does not change where that one starts. -/
theorem isAbsolute_join (isRelative : relative.isAbsolute = false) :
    (path.join relative).isAbsolute = path.isAbsolute := by
  rw [join_of_relative isRelative]
  unfold isAbsolute at isRelative ⊢
  rcases path.stem_cases with ⟨none, same⟩ | ⟨front, ends, same⟩ | ⟨some, same⟩
  · rw [same, none, List.nil_append, isRelative]
    rfl
  · have proper : front ++ [slash] ≠ [] := by simp
    rw [same, List.head?_append_of_ne_nil _ proper, ← ends]
  · rw [same, List.append_assoc, List.head?_append_of_ne_nil _ some]

theorem isAbsolute_join_glue (absolute : path.isAbsolute = true)
    (areNames : ∀ name ∈ names, IsName name) :
    (path.join ⟨Text.glue slash names⟩).isAbsolute = true := by
  rw [isAbsolute_join (isAbsolute_glue areNames), absolute]

end CdnPublish.LocalPath
