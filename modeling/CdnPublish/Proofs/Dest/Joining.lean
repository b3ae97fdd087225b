import CdnPublish.Proofs.Dest.Retraction
import CdnPublish.Proofs.LocalPath.Spellings

/-!
# Destinations of names

The text of a name is a proper segment, so names below a destination become the segments that follow
those of the destination, one for each name.
-/

namespace CdnPublish.Dest

open LocalPath

variable {name : Bytes} {names others : List Bytes} {destination dest otherDest base : String}
  {text : List Char} {segments : List Segment} {relative : LocalPath}

/-- The text of a name counts, does not climb and shows no slash. -/
theorem isProper_decodeLossy (isName : IsName name) : IsProper (Text.decodeLossy name) := by
  have read : ∀ text, '\uFFFD' ∉ text → Text.decodeLossy name = text →
      text.flatMap String.utf8EncodeChar = name := by
    rintro text unflawed rfl
    exact Text.encode_of_decodeLossy unflawed
  refine ⟨?_, ?_, isName.not_mem_decodeLossy⟩
  · have proper : Text.decodeLossy name ≠ [] ∧ Text.decodeLossy name ≠ ['.'] := by
      constructor
      · exact fun same => isName.ne_nil (Text.decodeLossy_eq_nil_iff.mp same)
      · exact fun same => isName.ne_dot (read _ (by decide) same).symm
    simpa [isSignificant] using proper
  · exact fun same => isName.2.1 (read _ (by decide) same).symm

theorem isProper_texts (areNames : ∀ name ∈ names, IsName name) :
    ∀ segment ∈ names.map Text.decodeLossy, IsProper segment := by
  intro segment mem
  rcases List.mem_map.mp mem with ⟨name, nameMem, rfl⟩
  exact isProper_decodeLossy (areNames name nameMem)

theorem extendAll_names (base : List Char) (names : List Bytes) :
    extendAll base (names.map .name) = some ((names.map Text.decodeLossy).foldl extend base) := by
  induction names generalizing base with
  | nil => rfl
  | cons name names induction_hypothesis => exact induction_hypothesis _

/-- Names are put below a destination that can be normalized, each as one more segment. -/
theorem join_names_eq_ok_iff (areNames : ∀ name ∈ names, IsName name) :
    join destination ⟨Text.glue slash names⟩ = .ok dest ↔
      ∃ base, normalize destination = .ok base ∧
        dest.toList = (names.map Text.decodeLossy).foldl extend base.toList := by
  unfold join
  rw [bind_eq_ok_iff]
  refine exists_congr fun base => and_congr_right fun normal => ?_
  rcases segments_of_normalize normal with ⟨proper, same⟩
  have texts := isProper_texts areNames
  have all := List.forall_mem_append.mpr ⟨proper, texts⟩
  rw [components_glue areNames, extendAll_names]
  simp only [normalize_eq_ok_iff, String.toList_ofList, same,
    foldl_extend_ofSegments proper texts, normalizeChars_ofSegments all, Except.ok.injEq]
  exact eq_comm

theorem toList_of_join_names (areNames : ∀ name ∈ names, IsName name)
    (joined : join destination ⟨Text.glue slash names⟩ = .ok dest) :
    (∀ segment ∈ significant destination.toList, IsProper segment) ∧
      dest.toList =
        ofSegments (significant destination.toList ++ names.map Text.decodeLossy) := by
  rcases (join_names_eq_ok_iff areNames).mp joined with ⟨base, normal, placed⟩
  rcases segments_of_normalize normal with ⟨proper, same⟩
  refine ⟨proper, ?_⟩
  rw [placed, same, foldl_extend_ofSegments proper (isProper_texts areNames)]

/-- Names below one destination share their place when they show the same texts. -/
theorem join_names_inj (areNames : ∀ name ∈ names, IsName name)
    (areOthers : ∀ name ∈ others, IsName name)
    (joined : join destination ⟨Text.glue slash names⟩ = .ok dest)
    (otherJoined : join destination ⟨Text.glue slash others⟩ = .ok otherDest) :
    dest = otherDest ↔ names.map Text.decodeLossy = others.map Text.decodeLossy := by
  rcases toList_of_join_names areNames joined with ⟨proper, placed⟩
  rcases toList_of_join_names areOthers otherJoined with ⟨-, otherPlaced⟩
  have all := List.forall_mem_append.mpr ⟨proper, isProper_texts areNames⟩
  have allOthers := List.forall_mem_append.mpr ⟨proper, isProper_texts areOthers⟩
  rw [← String.toList_inj, placed, otherPlaced, ofSegments_inj all allOthers,
    List.append_cancel_left_eq]

theorem extendAll_filter (base : List Char) (steps : List LocalPath.Component) :
    extendAll base (steps.filter (· ≠ .current)) = extendAll base steps := by
  induction steps generalizing base with
  | nil => rfl
  | cons step steps induction_hypothesis =>
      cases step with
      | name bytes => simp [extendAll, ← induction_hypothesis]
      | current => simp [extendAll, ← induction_hypothesis]
      | root => simp [extendAll]
      | parent => simp [extendAll]

/-- Only the names count that a relative path leads through. -/
theorem join_of_leadsThrough (leads : relative.LeadsThrough names) :
    join destination relative = join destination ⟨Text.glue slash names⟩ := by
  unfold join
  cases normalize destination with
  | error fault => rfl
  | ok base =>
      have placed := extendAll_names base.toList names
      have direct : extendAll base.toList relative.components =
          some ((names.map Text.decodeLossy).foldl extend base.toList) := by
        rw [← extendAll_filter, leads, placed]
      have glued : extendAll base.toList (LocalPath.mk (Text.glue slash names)).components =
          some ((names.map Text.decodeLossy).foldl extend base.toList) := by
        rw [components_glue leads.areNames, placed]
      simp [direct, glued, bind, Except.bind]

theorem hasSegments_of_join (areNames : ∀ name ∈ names, IsName name)
    (joined : join destination ⟨Text.glue slash names⟩ = .ok dest) :
    HasSegments dest.toList (significant destination.toList ++ names.map Text.decodeLossy) := by
  rcases toList_of_join_names areNames joined with ⟨proper, placed⟩
  exact ⟨placed, List.forall_mem_append.mpr ⟨proper, isProper_texts areNames⟩⟩

/-- Below a destination that can be normalized there is a place for all names. -/
theorem exists_join_names (normal : normalize destination = .ok base)
    (areNames : ∀ name ∈ names, IsName name) :
    ∃ dest, join destination ⟨Text.glue slash names⟩ = .ok dest := by
  refine ⟨String.ofList ((names.map Text.decodeLossy).foldl extend base.toList), ?_⟩
  apply (join_names_eq_ok_iff areNames).mpr
  exact ⟨base, normal, by simp⟩

end CdnPublish.Dest
