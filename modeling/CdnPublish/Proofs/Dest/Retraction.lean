import CdnPublish.Proofs.Dest.Canonical

/-!
# Normalizing retracts onto the canonical destinations

Normalizing succeeds on exactly the texts that show something and climb nowhere. What it keeps of a
text is the list of its segments that count, so it moves no canonical destination, and two texts
have one destination exactly when they have those segments in common.
-/

namespace CdnPublish.Dest

/-- A canonical text is a slash and then these segments with slashes between them. -/
def HasSegments (text : List Char) (segments : List Segment) : Prop :=
  text = ofSegments segments ∧ ∀ segment ∈ segments, IsProper segment

variable {text : List Char} {segments : List Segment} {path dest other otherDest : String}

theorem isVoid_eq_false_iff :
    Text.isVoid text = false ↔ ∃ character ∈ text, Text.isBlank character = false := by
  simp [Text.isVoid]

/-- The segments that count are proper as soon as none of them climbs. -/
theorem isProper_significant_iff :
    (∀ segment ∈ significant text, IsProper segment) ↔ parentSegment ∉ Text.pieces '/' text := by
  constructor
  · intro proper mem
    have counts : parentSegment ∈ significant text := List.mem_filter.mpr ⟨mem, by decide⟩
    exact (proper parentSegment counts).2.1 rfl
  · intro level segment mem
    rcases List.mem_filter.mp mem with ⟨inText, counts⟩
    refine ⟨counts, ?_, Text.not_mem_of_mem_pieces inText⟩
    rintro rfl
    exact level inText

theorem exists_normalize_iff :
    (∃ dest, normalize path = .ok dest) ↔
      (∃ character ∈ path.toList, Text.isBlank character = false) ∧
        parentSegment ∉ Text.pieces '/' path.toList := by
  rw [← isVoid_eq_false_iff, ← isProper_significant_iff]
  constructor
  · rintro ⟨dest, normal⟩
    rcases normalizeChars_eq_ok_iff.mp (normalize_eq_ok_iff.mp normal) with ⟨present, proper, -⟩
    exact ⟨present, proper⟩
  · rintro ⟨present, proper⟩
    refine ⟨String.ofList (ofSegments (significant path.toList)), ?_⟩
    apply normalize_eq_ok_iff.mpr
    apply normalizeChars_eq_ok_iff.mpr
    exact ⟨present, proper, by simp⟩

theorem HasSegments.significant_eq (has : HasSegments text segments) :
    significant text = segments := by
  rcases has with ⟨rfl, proper⟩
  exact significant_ofSegments proper

theorem hasSegments_of_normalize (normal : normalize path = .ok dest) :
    HasSegments dest.toList (significant path.toList) := by
  rcases segments_of_normalize normal with ⟨proper, same⟩
  exact ⟨same, proper⟩

/-- A canonical destination is its own canonical spelling. -/
theorem HasSegments.normalize_eq (has : HasSegments dest.toList segments) :
    normalize dest = .ok dest := by
  apply normalize_eq_ok_iff.mpr
  rw [has.1]
  exact normalizeChars_ofSegments has.2

theorem eq_iff_significant_eq (normal : normalize path = .ok dest)
    (otherNormal : normalize other = .ok otherDest) :
    dest = otherDest ↔ significant path.toList = significant other.toList := by
  have has := hasSegments_of_normalize normal
  have otherHas := hasSegments_of_normalize otherNormal
  rw [← String.toList_inj, has.1, otherHas.1, ofSegments_inj has.2 otherHas.2]

/-- Normalizing is a retraction onto the canonical destinations. It succeeds on the texts that are
not blank throughout and have no segment `..`; what it gives is canonical and has the segments of
the text without the empty ones and the `.`, in order. The canonical texts are those that it leaves
as they are, so it changes nothing the second time. Two texts have the same result exactly when
they have the same segments that count. -/
theorem normalize_retraction (path : String) :
    ((∃ dest, normalize path = .ok dest) ↔
      (∃ character ∈ path.toList, Text.isBlank character = false) ∧
        parentSegment ∉ Text.pieces '/' path.toList) ∧
    (∀ dest, normalize path = .ok dest → Canonical dest.toList ∧
      ∀ segments, HasSegments dest.toList segments ↔
        segments = (Text.pieces '/' path.toList).filter fun segment =>
          segment ≠ [] && segment ≠ ['.']) ∧
    (normalize path = .ok path ↔ Canonical path.toList) ∧
    (∀ dest, normalize path = .ok dest → normalize dest = .ok dest) ∧
    (∀ other dest otherDest, normalize path = .ok dest → normalize other = .ok otherDest →
      (dest = otherDest ↔
        ((Text.pieces '/' path.toList).filter fun segment => segment ≠ [] && segment ≠ ['.']) =
          (Text.pieces '/' other.toList).filter fun segment =>
            segment ≠ [] && segment ≠ ['.'])) := by
  refine ⟨exists_normalize_iff, ?_, ?_, ?_, ?_⟩
  · intro dest normal
    have has := hasSegments_of_normalize normal
    refine ⟨⟨_, has⟩, fun segments => ?_⟩
    constructor
    · intro alsoHas
      exact alsoHas.significant_eq.symm.trans has.significant_eq
    · rintro rfl
      exact has
  · constructor
    · intro normal
      exact ⟨_, hasSegments_of_normalize normal⟩
    · rintro ⟨segments, has⟩
      exact HasSegments.normalize_eq has
  · intro dest normal
    exact (hasSegments_of_normalize normal).normalize_eq
  · intro other dest otherDest normal otherNormal
    exact eq_iff_significant_eq normal otherNormal

/-- Segments that are blank count: only a text that is blank as a whole is refused. -/
theorem normalize_retraction_blankSegments :
    normalize " //a/./ /" = .ok "/ /a/ " ∧ normalize "/ /a/ " = .ok "/ /a/ " ∧
      HasSegments "/ /a/ ".toList [[' '], ['a'], [' ']] ∧
      ¬∃ dest, normalize "\u2003\t" = .ok dest := by
  have normal : normalize " //a/./ /" = .ok "/ /a/ " := by cbv
  rcases normalize_retraction " //a/./ /" with ⟨-, result, -, again, -⟩
  refine ⟨normal, again _ normal, ((result _ normal).2 _).mpr (by cbv), ?_⟩
  have blank : Text.isVoid "\u2003\t".toList = true := by cbv
  rw [(normalize_retraction "\u2003\t").1, ← isVoid_eq_false_iff]
  rintro ⟨visible, -⟩
  exact Bool.false_ne_true (visible.symm.trans blank)

end CdnPublish.Dest
