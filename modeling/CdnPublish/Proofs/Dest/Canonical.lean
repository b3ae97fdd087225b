import CdnPublish.Dest
import CdnPublish.Proofs.Narrated.Sequences
import CdnPublish.Proofs.Text.Split

/-!
# Canonical destinations and their segments

A canonical destination and the list of its segments determine each other. Normalizing keeps the
segments that count, and extending a canonical destination by a proper segment adds it at the end.
-/

namespace CdnPublish.Dest

/-- A segment that can stand in a canonical destination. -/
def IsProper (segment : Segment) : Prop :=
  isSignificant segment = true ∧ segment ≠ parentSegment ∧ '/' ∉ segment

instance (segment : Segment) : Decidable (IsProper segment) :=
  inferInstanceAs (Decidable (_ ∧ _))

variable {text canonical : List Char} {segment : Segment} {segments more : List Segment}

theorem IsProper.ne_nil (proper : IsProper segment) : segment ≠ [] := by
  rintro rfl
  cases proper.1

/-- Between the slashes of a destination stand its segments, and otherwise nothing. -/
theorem filter_pieces_ofSegments {keep : Segment → Bool} (drops : keep [] = false)
    (keeps : ∀ segment ∈ segments, keep segment = true)
    (whole : ∀ segment ∈ segments, '/' ∉ segment) :
    (Text.pieces '/' (ofSegments segments)).filter keep = segments := by
  rw [ofSegments, Text.pieces_cons_self, List.filter_cons_of_neg (by simp [drops])]
  cases segments with
  | nil => simp [Text.glue, Text.pieces, drops]
  | cons first others =>
      rw [Text.pieces_glue (List.cons_ne_nil _ _) whole]
      exact List.filter_eq_self.mpr keeps

theorem significant_ofSegments (proper : ∀ segment ∈ segments, IsProper segment) :
    significant (ofSegments segments) = segments := by
  apply filter_pieces_ofSegments (by decide)
  · intro segment mem
    exact (proper segment mem).1
  · intro segment mem
    exact (proper segment mem).2.2

theorem ofSegments_inj (proper : ∀ segment ∈ segments, IsProper segment)
    (moreProper : ∀ segment ∈ more, IsProper segment) :
    ofSegments segments = ofSegments more ↔ segments = more := by
  constructor
  · intro same
    rw [← significant_ofSegments proper, same, significant_ofSegments moreProper]
  · exact congrArg ofSegments

/-- A destination is normalized to the segments that count, unless it is void or climbs. -/
theorem normalizeChars_eq_ok_iff :
    normalizeChars text = .ok canonical ↔ Text.isVoid text = false ∧
      (∀ segment ∈ significant text, IsProper segment) ∧
        canonical = ofSegments (significant text) := by
  unfold normalizeChars
  split
  · simp_all
  · rename_i present
    split
    · rename_i climbs
      constructor
      · intro never
        cases never
      · rintro ⟨-, proper, -⟩
        exact absurd rfl (proper _ climbs).2.1
    · rename_i level
      constructor
      · intro given
        refine ⟨by simpa using present, fun segment mem => ⟨?_, ?_, ?_⟩, (Except.ok.inj given).symm⟩
        · exact (List.mem_filter.mp mem).2
        · rintro rfl
          exact level mem
        · exact Text.not_mem_of_mem_pieces (List.mem_filter.mp mem).1
      · rintro ⟨-, -, rfl⟩
        rfl

theorem normalize_eq_ok_iff {path dest : String} :
    normalize path = .ok dest ↔ normalizeChars path.toList = .ok dest.toList := by
  unfold normalize
  cases normalizeChars path.toList with
  | ok canonical => simp [← String.toList_inj]
  | error reason => simp

/-- A normalized destination is made of segments that can all stand in it. -/
theorem segments_of_normalize {path dest : String} (normal : normalize path = .ok dest) :
    (∀ segment ∈ significant path.toList, IsProper segment) ∧
      dest.toList = ofSegments (significant path.toList) :=
  (normalizeChars_eq_ok_iff.mp (normalize_eq_ok_iff.mp normal)).2

theorem normalizeChars_ofSegments (proper : ∀ segment ∈ segments, IsProper segment) :
    normalizeChars (ofSegments segments) = .ok (ofSegments segments) := by
  rw [normalizeChars_eq_ok_iff, significant_ofSegments proper]
  exact ⟨rfl, proper, rfl⟩

/-- A proper segment goes behind the others with a slash between, as none of them ends in one. -/
theorem extend_ofSegments (proper : ∀ segment ∈ segments, IsProper segment) (segment : Segment) :
    extend (ofSegments segments) segment = ofSegments (segments ++ [segment]) := by
  rcases List.eq_nil_or_concat segments with rfl | ⟨before, last, rfl⟩
  · rfl
  · have isProper : IsProper last := proper last (by simp)
    have ending : (ofSegments (before ++ [last])).getLast? ≠ some '/' := by
      intro slashLast
      rcases Text.suffix_glue_concat '/' before last with ⟨front, ends⟩
      rw [ofSegments, ← ends, ← List.cons_append, List.getLast?_append_of_ne_nil _ isProper.ne_nil]
        at slashLast
      exact isProper.2.2 (List.mem_of_getLast? slashLast)
    rw [List.concat_eq_append, extend, if_neg ending, ofSegments, ofSegments, List.cons_append,
      Text.glue_concat (show before ++ [last] ≠ [] by simp)]

/-- Extending a canonical destination by proper segments adds them at the end. -/
theorem foldl_extend_ofSegments (proper : ∀ segment ∈ segments, IsProper segment)
    (moreProper : ∀ segment ∈ more, IsProper segment) :
    more.foldl extend (ofSegments segments) = ofSegments (segments ++ more) := by
  induction more generalizing segments with
  | nil => rw [List.append_nil]; rfl
  | cons segment more induction_hypothesis =>
      rcases List.forall_mem_cons.mp moreProper with ⟨here, later⟩
      have extended : ∀ other ∈ segments ++ [segment], IsProper other :=
        List.forall_mem_append.mpr ⟨proper, List.forall_mem_singleton.mpr here⟩
      rw [List.foldl_cons, extend_ofSegments proper, induction_hypothesis extended later,
        List.append_assoc, List.singleton_append]

end CdnPublish.Dest
