import CdnPublish.Proofs.LocalPath.Spellings

/-!
# The names of a relative path

A relative path that does not climb leads through names: those of its raw pieces that count. A
relative path that is put after another one adds its names to those of the other.
-/

namespace CdnPublish.LocalPath

/-- The name that a component is, if it is one. -/
def Component.name? : Component → Option Bytes
  | .name bytes => some bytes
  | .root => none
  | .current => none
  | .parent => none

/-- The names among the components of a path. -/
def names (path : LocalPath) : List Bytes :=
  path.components.filterMap Component.name?

variable {path further : LocalPath} {list others : List Bytes} {piece name : Bytes}

theorem ofPiece_eq_name_iff :
    Component.ofPiece piece = .name name ↔ piece = name ∧ piece ≠ dotDot := by
  unfold Component.ofPiece
  split <;> simp_all

theorem ofPiece_ne_current (piece : Bytes) : Component.ofPiece piece ≠ .current := by
  unfold Component.ofPiece
  split <;> simp

theorem root_mem_components_iff : .root ∈ path.components ↔ path.isAbsolute = true := by
  have pieces : .root ∉ (path.rawPieces.filter isSignificant).map Component.ofPiece := by
    intro mem
    rcases List.mem_map.mp mem with ⟨piece, -, same⟩
    unfold Component.ofPiece at same
    split at same <;> cases same
  unfold components
  by_cases absolute : path.isAbsolute = true
  · simp [absolute]
  · rw [if_neg absolute]
    refine iff_of_false ?_ absolute
    rw [List.mem_append]
    rintro (start | mem)
    · split at start <;> simp at start
    · exact pieces mem

/-- Behind its start a path consists of its pieces that count. -/
theorem filter_components (path : LocalPath) :
    path.components.filter (· ≠ .current) =
      (if path.isAbsolute then [Component.root] else []) ++
        (path.rawPieces.filter isSignificant).map Component.ofPiece := by
  have kept : ((path.rawPieces.filter isSignificant).map Component.ofPiece).filter (· ≠ .current) =
      (path.rawPieces.filter isSignificant).map Component.ofPiece := by
    apply List.filter_eq_self.mpr
    intro step mem
    rcases List.mem_map.mp mem with ⟨piece, -, rfl⟩
    simpa using ofPiece_ne_current piece
  unfold components
  rw [List.filter_append, kept]
  congr 1
  split
  · rfl
  · split <;> rfl

/-- A relative path that does not climb leads through its names. -/
theorem leadsThrough_names (relative : path.isAbsolute = false)
    (level : .parent ∉ path.components) : path.LeadsThrough path.names := by
  have noRoot : .root ∉ path.components := by simp [root_mem_components_iff, relative]
  unfold LeadsThrough names
  generalize path.components = steps at level noRoot
  induction steps with
  | nil => rfl
  | cons step steps induction_hypothesis =>
      rcases not_or.mp (mt List.mem_cons.mpr level) with ⟨notUp, levelLater⟩
      rcases not_or.mp (mt List.mem_cons.mpr noRoot) with ⟨notRoot, noRootLater⟩
      have later := induction_hypothesis levelLater noRootLater
      cases step with
      | root => exact absurd rfl notRoot
      | parent => exact absurd rfl notUp
      | current => simpa [List.filterMap_cons, Component.name?] using later
      | name bytes => simpa [List.filterMap_cons, Component.name?] using later

theorem LeadsThrough.relative (leads : path.LeadsThrough list) : path.isAbsolute = false := by
  by_contra absolute
  have root : .root ∈ path.components.filter (· ≠ .current) := by
    simpa [root_mem_components_iff] using absolute
  rw [leads] at root
  simp at root

theorem eq_of_map_ofPiece {pieces : List Bytes}
    (same : pieces.map Component.ofPiece = list.map .name) : pieces = list := by
  induction pieces generalizing list with
  | nil => simpa [eq_comm] using same
  | cons piece pieces induction_hypothesis =>
      cases list with
      | nil => cases same
      | cons name list =>
          rcases List.cons.inj same with ⟨here, later⟩
          rw [(ofPiece_eq_name_iff.mp here).1, induction_hypothesis later]

/-- The names that a path leads through are its raw pieces that count. -/
theorem LeadsThrough.filter_rawPieces (leads : path.LeadsThrough list) :
    path.rawPieces.filter isSignificant = list := by
  have steps := leads
  rw [LeadsThrough, filter_components, leads.relative] at steps
  exact eq_of_map_ofPiece steps

/-- A relative path that is put after another one adds its pieces. -/
theorem filter_rawPieces_join (relative : further.isAbsolute = false) :
    (path.join further).rawPieces.filter isSignificant =
      path.rawPieces.filter isSignificant ++ further.rawPieces.filter isSignificant := by
  unfold rawPieces
  rw [join_of_relative relative]
  rcases path.stem_cases with ⟨none, same⟩ | ⟨front, ends, same⟩ | ⟨-, same⟩
  · rw [same, none]
    rfl
  · rw [same, ends, List.append_assoc, List.singleton_append, Text.pieces_append,
      Text.pieces_append, List.filter_append, List.filter_append]
    simp [Text.pieces, isSignificant]
  · rw [same, List.append_assoc, List.singleton_append, Text.pieces_append, List.filter_append]

theorem LeadsThrough.join (leads : path.LeadsThrough list) (leadsOn : further.LeadsThrough others) :
    (path.join further).LeadsThrough (list ++ others) := by
  have first := leads
  have second := leadsOn
  rw [LeadsThrough, filter_components, leads.relative] at first
  rw [LeadsThrough, filter_components, leadsOn.relative] at second
  rw [LeadsThrough, filter_components, isAbsolute_join leadsOn.relative, leads.relative,
    filter_rawPieces_join leadsOn.relative, List.map_append, List.map_append, ← second, ← first]
  rfl

end CdnPublish.LocalPath
