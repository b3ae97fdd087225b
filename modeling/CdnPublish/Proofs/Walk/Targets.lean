import CdnPublish.Proofs.Dest.Joining
import CdnPublish.Proofs.Text.Following
import CdnPublish.Walk

/-!
# Where the target of a link is published

The target of a link can be spelled relative to the link or as an absolute path. A relative target
is followed in the destination tree, over the text of its parts; an absolute one is cut off at the
source and joined like any other path. Both come to the destination of the path below the source
that the target leads to.
-/

namespace CdnPublish.Walk

open LocalPath (IsName slash)
open Dest (HasSegments IsProper)

variable {source location target : LocalPath} {destination linkDest base : String}
  {names inside : List Bytes} {start parts segments result : List Dest.Segment}

theorem follow_append {before after middle : List Dest.Segment}
    (leads : Text.LeadsTo '.' start before middle) :
    follow start (before ++ after) = follow middle after := by
  induction leads with
  | done names => rfl
  | stay idle later induction_hypothesis =>
      rcases idle with rfl | rfl
      · simpa [follow, Dest.isSignificant] using induction_hypothesis
      · simpa [follow, Dest.isSignificant] using induction_hypothesis
  | up names last later induction_hypothesis =>
      simpa [follow, Dest.isSignificant, Dest.parentSegment] using induction_hypothesis
  | enter proper later induction_hypothesis =>
      simpa [follow, Dest.isSignificant, Dest.parentSegment, proper] using induction_hypothesis

/-- Parts are followed to where they lead, unless they climb above the root. -/
theorem leadsTo_or_climbsAbove (start parts : List Dest.Segment) :
    (∃ result, follow start parts = some result ∧ Text.LeadsTo '.' start parts result) ∨
      (follow start parts = none ∧ Text.ClimbsAbove '.' start parts) := by
  fun_induction follow start parts with
  | case1 start => exact Or.inl ⟨start, rfl, .done start⟩
  | case2 start part rest idle induction_hypothesis =>
      have isIdle : part = [] ∨ part = ['.'] := by
        simpa [Dest.isSignificant, or_iff_not_imp_left] using idle
      rcases induction_hypothesis with ⟨result, followed, leads⟩ | ⟨failed, climbs⟩
      · exact Or.inl ⟨result, followed, .stay isIdle leads⟩
      · exact Or.inr ⟨failed, climbs.cons_stay isIdle⟩
  | case3 rest idle => exact Or.inr ⟨rfl, [], rest, rfl, .done []⟩
  | case4 start rest proper _ induction_hypothesis =>
      rcases List.eq_nil_or_concat start with none | ⟨front, last, rfl⟩
      · exact absurd none proper
      · rw [List.concat_eq_append, List.dropLast_concat] at induction_hypothesis ⊢
        rcases induction_hypothesis with ⟨result, followed, leads⟩ | ⟨failed, climbs⟩
        · exact Or.inl ⟨result, followed, .up front last leads⟩
        · exact Or.inr ⟨failed, climbs.cons_up last⟩
  | case5 start part rest counts notUp induction_hypothesis =>
      have proper : part ≠ [] ∧ part ≠ ['.'] ∧ part ≠ ['.', '.'] := by
        have visible : part ≠ [] ∧ part ≠ ['.'] := by simpa [Dest.isSignificant] using counts
        exact ⟨visible.1, visible.2, notUp⟩
      rcases induction_hypothesis with ⟨result, followed, leads⟩ | ⟨failed, climbs⟩
      · exact Or.inl ⟨result, followed, .enter proper leads⟩
      · exact Or.inr ⟨failed, climbs.cons_enter proper⟩

theorem follow_of_leadsTo (leads : Text.LeadsTo '.' start parts result) :
    follow start parts = some result := by
  have whole : follow start (parts ++ []) = follow result [] := follow_append leads
  simpa [follow] using whole

theorem follow_eq_none_iff : follow start parts = none ↔ Text.ClimbsAbove '.' start parts := by
  constructor
  · intro failed
    rcases leadsTo_or_climbsAbove start parts with ⟨result, followed, -⟩ | ⟨-, climbs⟩
    · rw [failed] at followed
      cases followed
    · exact climbs
  · rintro ⟨before, after, rfl, leads⟩
    rw [follow_append leads]
    simp [follow, Dest.isSignificant, Dest.parentSegment]

theorem linkTarget_of_absolute (absolute : target.isAbsolute = true)
    (inTree : target.relativeTo? source = some location) :
    linkTarget source destination linkDest target = Dest.join destination location := by
  unfold linkTarget
  rw [if_pos absolute, inTree]

/-- A relative target is followed from the directory of the link. -/
theorem linkTarget_of_relative (relative : target.isAbsolute = false)
    (has : HasSegments linkDest.toList segments) :
    linkTarget source destination linkDest target =
      match follow segments.dropLast (target.rawPieces.map Text.decodeLossy) with
      | none => .error ⟨target.shown, .linkEscapesDestination⟩
      | some result => Dest.normalize (String.ofList (Dest.ofSegments result)) := by
  have start : (Text.pieces '/' linkDest.toList).filter (· ≠ []) = segments := by
    rw [has.1]
    apply Dest.filter_pieces_ofSegments (by decide)
    · intro segment mem
      simpa using (has.2 segment mem).ne_nil
    · intro segment mem
      exact (has.2 segment mem).2.2
  calc linkTarget source destination linkDest target =
      match follow ((Text.pieces '/' linkDest.toList).filter (· ≠ [])).dropLast
          (Text.pieces '/' (Text.decodeLossy target.bytes)) with
      | none => .error ⟨target.shown, .linkEscapesDestination⟩
      | some result => Dest.normalize (String.ofList (Dest.ofSegments result)) :=
        if_neg (by simp [relative])
    _ = _ := by rw [start, LocalPath.pieces_decodeLossy]

/-- Following the text of names leads to the text of names. -/
theorem leadsTo_decodeLossy {start parts : List Bytes}
    (leads : Text.LeadsTo LocalPath.dotByte start parts inside) :
    Text.LeadsTo '.' (start.map Text.decodeLossy) (parts.map Text.decodeLossy)
      (inside.map Text.decodeLossy) := by
  apply leads.map
  · intro part
    exact Text.decodeLossy_eq_nil_iff
  · intro part
    exact LocalPath.decodeLossy_eq_dot_iff
  · intro part
    exact LocalPath.decodeLossy_eq_dotDot_iff

theorem areNames_of_leadsTo {start : List Bytes} (areNames : ∀ name ∈ start, IsName name)
    (leads : Text.LeadsTo LocalPath.dotByte start target.rawPieces inside) :
    ∀ name ∈ inside, IsName name := by
  intro name mem
  rcases leads.mem_result mem with old | ⟨inTarget, visible, notDot, notUp⟩
  · exact areNames name old
  · refine ⟨?_, notUp, Text.not_mem_of_mem_pieces inTarget⟩
    have counts : name ≠ [] ∧ name ≠ LocalPath.dot := ⟨visible, notDot⟩
    simpa [LocalPath.isSignificant] using counts

theorem isProper_of_leadsTo (proper : ∀ segment ∈ start, IsProper segment)
    (leads : Text.LeadsTo '.' start (target.rawPieces.map Text.decodeLossy) result) :
    ∀ segment ∈ result, IsProper segment := by
  intro segment mem
  rcases leads.mem_result mem with old | ⟨inTarget, visible, notDot, notUp⟩
  · exact proper segment old
  · have counts : segment ≠ [] ∧ segment ≠ ['.'] := ⟨visible, notDot⟩
    rw [← LocalPath.pieces_decodeLossy] at inTarget
    exact ⟨by simpa [Dest.isSignificant] using counts, notUp,
      Text.not_mem_of_mem_pieces inTarget⟩

/-- A relative target fails only by climbing above the root of the destination tree. -/
theorem linkTarget_eq_error_iff (relative : target.isAbsolute = false)
    (has : HasSegments linkDest.toList segments) {fault : InvalidPath} :
    linkTarget source destination linkDest target = .error fault ↔
      Text.ClimbsAbove '.' segments.dropLast (target.rawPieces.map Text.decodeLossy) ∧
        fault = ⟨target.shown, .linkEscapesDestination⟩ := by
  rw [linkTarget_of_relative relative has, ← follow_eq_none_iff]
  rcases leadsTo_or_climbsAbove segments.dropLast (target.rawPieces.map Text.decodeLossy) with
    ⟨result, followed, leads⟩ | ⟨failed, -⟩
  · have proper : ∀ segment ∈ result, IsProper segment := by
      apply isProper_of_leadsTo _ leads
      intro segment mem
      exact has.2 segment (List.mem_of_mem_dropLast mem)
    have normal : Dest.normalize (String.ofList (Dest.ofSegments result)) =
        .ok (String.ofList (Dest.ofSegments result)) := by
      have has : HasSegments (String.ofList (Dest.ofSegments result)).toList result :=
        ⟨by simp, proper⟩
      exact has.normalize_eq
    simp [followed, normal]
  · simp [failed, eq_comm]

/-- How a link to a path below the source is spelled makes no difference. A relative target whose
parts lead from the directory of the link to names below the source, without leaving it on the way,
is published as the destination of those names, and so is the absolute target that is the source
with those names. A relative target is refused exactly when its parts climb above the root of the
destination tree. -/
theorem linkTarget_spellings (source location target : LocalPath)
    (destination linkDest : String) (names : List Bytes) (located : location.LeadsThrough names)
    (below : names ≠ []) (placed : Dest.join destination location = .ok linkDest)
    (relative : target.isAbsolute = false) :
    (∀ inside, Text.LeadsTo LocalPath.dotByte names.dropLast target.rawPieces inside →
      ∃ dest, Dest.join destination ⟨Text.glue slash inside⟩ = .ok dest ∧
        Dest.Canonical dest.toList ∧
        linkTarget source destination linkDest target = .ok dest ∧
        (source.isAbsolute = true →
          linkTarget source destination linkDest (source.join ⟨Text.glue slash inside⟩) =
            .ok dest)) ∧
    (∀ segments fault, HasSegments linkDest.toList segments →
      (linkTarget source destination linkDest target = .error fault ↔
        Text.ClimbsAbove '.' segments.dropLast (target.rawPieces.map Text.decodeLossy) ∧
          fault = ⟨target.shown, .linkEscapesDestination⟩)) := by
  have areNames := located.areNames
  rw [Dest.join_of_leadsThrough located] at placed
  have has := Dest.hasSegments_of_join areNames placed
  constructor
  · intro inside leads
    have areInside : ∀ name ∈ inside, IsName name := by
      apply areNames_of_leadsTo _ leads
      intro name mem
      exact areNames name (List.mem_of_mem_dropLast mem)
    rcases (Dest.join_names_eq_ok_iff areNames).mp placed with ⟨base, normal, -⟩
    rcases Dest.exists_join_names normal areInside with ⟨dest, joined⟩
    have hasInside := Dest.hasSegments_of_join areInside joined
    refine ⟨dest, joined, ⟨_, hasInside⟩, ?_, ?_⟩
    · have proper : names.map Text.decodeLossy ≠ [] := by simpa using below
      have start : (Dest.significant destination.toList ++ names.map Text.decodeLossy).dropLast =
          Dest.significant destination.toList ++ names.dropLast.map Text.decodeLossy := by
        rw [List.dropLast_append_of_ne_nil proper, List.map_dropLast]
      rw [linkTarget_of_relative relative has, start,
        follow_of_leadsTo ((leadsTo_decodeLossy leads).append_left _)]
      simp only [← hasInside.1, String.ofList_toList]
      exact hasInside.normalize_eq
    · intro absolute
      have isAbsolute := LocalPath.isAbsolute_join_glue absolute areInside
      rw [linkTarget_of_absolute isAbsolute (LocalPath.relativeTo?_join_glue areInside), joined]
  · intro segments fault alsoHas
    exact linkTarget_eq_error_iff relative alsoHas

/-- From a link two levels down, a target with a name that is no text is found under both
spellings, and a target that climbs three levels is refused. -/
theorem linkTarget_spellings_twoLevels :
    linkTarget ⟨[47, 115]⟩ "//d/." "/d/a/l" ⟨[46, 46, 47, 98, 254, 47, 46, 47, 99]⟩ =
      .ok "/d/b\uFFFD/c" ∧
    linkTarget ⟨[47, 115]⟩ "//d/." "/d/a/l" (LocalPath.join ⟨[47, 115]⟩ ⟨[98, 254, 47, 99]⟩) =
      .ok "/d/b\uFFFD/c" ∧
    linkTarget ⟨[47, 115]⟩ "//d/." "/d/a/l" ⟨[46, 46, 47, 46, 46, 47, 46, 46, 47, 120]⟩ =
      .error ⟨"../../../x", .linkEscapesDestination⟩ := by
  have located : LocalPath.LeadsThrough ⟨[46, 47, 97, 47, 47, 108]⟩ [[97], [108]] := by decide
  have placed : Dest.join "//d/." ⟨[46, 47, 97, 47, 47, 108]⟩ = .ok "/d/a/l" := by cbv
  have joined : Dest.join "//d/." ⟨Text.glue slash [[98, 254], [99]]⟩ = .ok "/d/b\uFFFD/c" := by
    cbv
  have has : HasSegments "/d/a/l".toList [['d'], ['a'], ['l']] := ⟨by cbv, by decide⟩
  have leads : Text.LeadsTo LocalPath.dotByte [[97]] [[46, 46], [98, 254], [46], [99]]
      [[98, 254], [99]] := by
    apply Text.LeadsTo.up [] [97]
    apply Text.LeadsTo.enter (by decide)
    apply Text.LeadsTo.stay (Or.inr rfl)
    apply Text.LeadsTo.enter (by decide)
    exact .done _
  have climbs : Text.ClimbsAbove '.' [['d'], ['a']]
      [['.', '.'], ['.', '.'], ['.', '.'], ['x']] := by
    refine ⟨[['.', '.'], ['.', '.']], [['x']], rfl, ?_⟩
    apply Text.LeadsTo.up [['d']] ['a']
    apply Text.LeadsTo.up [] ['d']
    exact .done []
  rcases (linkTarget_spellings ⟨[47, 115]⟩ _ ⟨[46, 46, 47, 98, 254, 47, 46, 47, 99]⟩ _ _ _ located
    (by decide) placed rfl).1 _ leads with ⟨dest, alsoJoined, -, found, absolute⟩
  cases joined.symm.trans alsoJoined
  refine ⟨found, absolute rfl, ?_⟩
  apply ((linkTarget_spellings ⟨[47, 115]⟩ _ ⟨[46, 46, 47, 46, 46, 47, 46, 46, 47, 120]⟩ _ _ _
    located (by decide) placed rfl).2 _ _ has).mpr
  have parts : (LocalPath.mk [46, 46, 47, 46, 46, 47, 46, 46, 47, 120]).rawPieces.map
      Text.decodeLossy = [['.', '.'], ['.', '.'], ['.', '.'], ['x']] := by cbv
  rw [parts]
  exact ⟨climbs, by cbv⟩

end CdnPublish.Walk
