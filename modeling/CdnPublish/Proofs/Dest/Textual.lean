import CdnPublish.Proofs.Dest.Joining
import CdnPublish.Proofs.LocalPath.Relative

/-!
# Joining is writing one path behind the other

A relative path that does not climb can be joined to a destination component by component, or its
text can be written behind the destination with a slash between them and the whole normalized. Both
come to the same, because the text of a path is cut at the same slashes as its bytes and a piece
counts as text when it counts as bytes.
-/

namespace CdnPublish.Dest

open LocalPath (IsName slash)

variable {destination base dest middle : String} {relative further : LocalPath}
  {names : List Bytes} {segments : List Segment}

theorem extendAll_eq_none_iff {text : List Char} {steps : List LocalPath.Component} :
    extendAll text steps = none ↔ .root ∈ steps ∨ .parent ∈ steps := by
  induction steps generalizing text with
  | nil => simp [extendAll]
  | cons step steps induction_hypothesis => cases step <;> simp [extendAll, induction_hypothesis]

/-- A path with a component that leads out of the destination cannot be joined to it. -/
theorem join_eq_error_of_leadsOut (normal : normalize destination = .ok base)
    (leadsOut : .root ∈ relative.components ∨ .parent ∈ relative.components) :
    join destination relative = .error ⟨relative.shown, .escapesDestination⟩ := by
  unfold join
  rw [normal]
  simp only [extendAll_eq_none_iff.mpr leadsOut, bind, Except.bind]

/-- A piece of a path counts as text when it counts as bytes. -/
theorem isSignificant_decodeLossy (piece : Bytes) :
    isSignificant (Text.decodeLossy piece) = LocalPath.isSignificant piece := by
  have same : (Text.decodeLossy piece ≠ [] ∧ Text.decodeLossy piece ≠ ['.']) ↔
      (piece ≠ [] ∧ piece ≠ LocalPath.dot) := by
    rw [Ne, Ne, Text.decodeLossy_eq_nil_iff, LocalPath.decodeLossy_eq_dot_iff]
    rfl
  rw [Bool.eq_iff_iff]
  simpa [isSignificant, LocalPath.isSignificant] using same

theorem significant_decodeLossy (path : LocalPath) :
    significant (Text.decodeLossy path.bytes) =
      (path.rawPieces.filter LocalPath.isSignificant).map Text.decodeLossy := by
  rw [significant, LocalPath.pieces_decodeLossy, List.filter_map]
  congr 1
  apply List.filter_congr
  intro piece _
  exact isSignificant_decodeLossy piece

theorem significant_append (before after : List Char) :
    significant (before ++ '/' :: after) = significant before ++ significant after := by
  rw [significant, Text.pieces_append, List.filter_append]
  rfl

/-- The text of a path, written behind a destination, adds the text of its names. -/
theorem normalize_append_shown (normal : normalize destination = .ok base)
    (leads : relative.LeadsThrough names)
    (has : HasSegments dest.toList (significant destination.toList ++ names.map Text.decodeLossy)) :
    normalize (destination ++ "/" ++ relative.shown) = .ok dest := by
  have text : (destination ++ "/" ++ relative.shown).toList =
      destination.toList ++ '/' :: Text.decodeLossy relative.bytes := by
    simp [LocalPath.shown, Bytes.shown]
  have whole : significant (destination.toList ++ '/' :: Text.decodeLossy relative.bytes) =
      significant destination.toList ++ names.map Text.decodeLossy := by
    rw [significant_append, significant_decodeLossy, leads.filter_rawPieces]
  have visible := (normalizeChars_eq_ok_iff.mp (normalize_eq_ok_iff.mp normal)).1
  rw [normalize_eq_ok_iff, text, normalizeChars_eq_ok_iff, whole]
  refine ⟨?_, has.2, has.1⟩
  rcases isVoid_eq_false_iff.mp visible with ⟨character, mem, notBlank⟩
  exact isVoid_eq_false_iff.mpr ⟨character, List.mem_append_left _ mem, notBlank⟩

/-- What a relative path comes to below a destination with the canonical spelling `base`. -/
structure JoinsTo (destination base : String) (relative : LocalPath) (dest : String) : Prop where
  textual : normalize (destination ++ "/" ++ relative.shown) = .ok dest
  canonical : Canonical dest.toList
  /-- The names of the path follow the segments of the destination, in their text. -/
  segments : ∀ segments, HasSegments base.toList segments →
    HasSegments dest.toList (segments ++ relative.names.map Text.decodeLossy)
  /-- What is left to normalize in the end is the result already. -/
  extended : extendAll base.toList relative.components = some dest.toList
  settled : normalize dest = .ok dest

theorem hasSegments_of_join_relative (leads : relative.LeadsThrough names)
    (joined : join destination relative = .ok dest) :
    HasSegments dest.toList (significant destination.toList ++ names.map Text.decodeLossy) := by
  rw [join_of_leadsThrough leads] at joined
  exact hasSegments_of_join leads.areNames joined

theorem exists_join_relative (normal : normalize destination = .ok base)
    (leads : relative.LeadsThrough names) : ∃ dest, join destination relative = .ok dest := by
  rw [join_of_leadsThrough leads]
  exact exists_join_names normal leads.areNames

theorem extendAll_of_leadsThrough (normal : normalize destination = .ok base)
    (leads : relative.LeadsThrough names)
    (has : HasSegments dest.toList (significant destination.toList ++ names.map Text.decodeLossy)) :
    extendAll base.toList relative.components = some dest.toList := by
  have baseHas := hasSegments_of_normalize normal
  rw [← extendAll_filter, leads, extendAll_names, has.1, baseHas.1,
    foldl_extend_ofSegments baseHas.2 (isProper_texts leads.areNames)]

theorem joinsTo_of_join (normal : normalize destination = .ok base)
    (leads : relative.LeadsThrough relative.names) (joined : join destination relative = .ok dest) :
    JoinsTo destination base relative dest := by
  have has := hasSegments_of_join_relative leads joined
  refine ⟨normalize_append_shown normal leads has, ⟨_, has⟩, ?_,
    extendAll_of_leadsThrough normal leads has, has.normalize_eq⟩
  intro segments baseHas
  have same := (hasSegments_of_normalize normal).significant_eq
  rw [baseHas.significant_eq] at same
  rwa [same]

/-- Joining one path and then another one is joining both in one. -/
theorem exists_join_join (normal : normalize destination = .ok base)
    (leads : relative.LeadsThrough names) {others : List Bytes}
    (leadsOn : further.LeadsThrough others) :
    ∃ middle dest, join destination relative = .ok middle ∧ join middle further = .ok dest ∧
      join destination (relative.join further) = .ok dest := by
  have leadsAll := leads.join leadsOn
  rcases exists_join_relative normal leads with ⟨middle, first⟩
  have middleHas := hasSegments_of_join_relative leads first
  rcases exists_join_relative middleHas.normalize_eq leadsOn with ⟨dest, second⟩
  rcases exists_join_relative normal leadsAll with ⟨other, both⟩
  have has := hasSegments_of_join_relative leadsOn second
  have otherHas := hasSegments_of_join_relative leadsAll both
  rw [middleHas.significant_eq, List.append_assoc, ← List.map_append] at has
  have same : dest = other := String.toList_inj.mp (has.1.trans otherHas.1.symm)
  exact ⟨middle, dest, first, second, same ▸ both⟩

/-- Joining agrees with writing one path behind the other. Nothing can be joined to a destination
that is refused, and no absolute path to any. A relative path can be joined exactly if no component
climbs. It comes to the normalized text, whose segments are those of the destination and then the
text of the names, and the normalization at the end changes nothing; two paths can be joined one
after the other or as one. -/
theorem join_textual (destination : String) (relative : LocalPath) :
    (∀ fault, normalize destination = .error fault → join destination relative = .error fault) ∧
    ∀ base, normalize destination = .ok base →
      (relative.isAbsolute = true →
        join destination relative = .error ⟨relative.shown, .escapesDestination⟩) ∧
      (relative.isAbsolute = false →
        ((∃ dest, join destination relative = .ok dest) ↔ .parent ∉ relative.components) ∧
        (∀ dest, join destination relative = .ok dest → JoinsTo destination base relative dest) ∧
        ∀ further, further.isAbsolute = false → .parent ∉ relative.components →
          .parent ∉ further.components →
          ∃ middle dest, join destination relative = .ok middle ∧ join middle further = .ok dest ∧
            join destination (relative.join further) = .ok dest) := by
  constructor
  · intro fault refused
    rw [join, refused]
    rfl
  · intro base normal
    refine ⟨?_, fun isRelative => ⟨⟨?_, ?_⟩, ?_, ?_⟩⟩
    · intro absolute
      have root : .root ∈ relative.components := LocalPath.root_mem_components_iff.mpr absolute
      exact join_eq_error_of_leadsOut normal (Or.inl root)
    · rintro ⟨dest, joined⟩ climbs
      cases joined.symm.trans (join_eq_error_of_leadsOut normal (Or.inr climbs))
    · intro level
      exact exists_join_relative normal (LocalPath.leadsThrough_names isRelative level)
    · intro dest joined
      have level : .parent ∉ relative.components := by
        intro climbs
        cases joined.symm.trans (join_eq_error_of_leadsOut normal (Or.inr climbs))
      exact joinsTo_of_join normal (LocalPath.leadsThrough_names isRelative level) joined
    · intro further furtherRelative level furtherLevel
      exact exists_join_join normal (LocalPath.leadsThrough_names isRelative level)
        (LocalPath.leadsThrough_names furtherRelative furtherLevel)

/-- A path with a dot at its start and a name that is no text, put below a destination that is not
canonical; a path that climbs, and an absolute one. -/
theorem join_textual_mixed :
    join "d//" ⟨[46, 47, 97, 47, 47, 254, 47]⟩ = .ok "/d/a/\uFFFD" ∧
    JoinsTo "d//" "/d" ⟨[46, 47, 97, 47, 47, 254, 47]⟩ "/d/a/\uFFFD" ∧
    (∃ dest, join "/d/a/\uFFFD" ⟨[46, 47, 98]⟩ = .ok dest ∧
      join "d//" (LocalPath.join ⟨[46, 47, 97, 47, 47, 254, 47]⟩ ⟨[46, 47, 98]⟩) = .ok dest) ∧
    (¬∃ dest, join "d//" ⟨[97, 47, 46, 46]⟩ = .ok dest) ∧
    join "d//" ⟨[47, 97]⟩ = .error ⟨"/a", .escapesDestination⟩ ∧
    join " " ⟨[97]⟩ = .error ⟨" ", .empty⟩ := by
  have normal : normalize "d//" = .ok "/d" := by cbv
  have joined : join "d//" ⟨[46, 47, 97, 47, 47, 254, 47]⟩ = .ok "/d/a/\uFFFD" := by cbv
  rcases ((join_textual "d//" ⟨[46, 47, 97, 47, 47, 254, 47]⟩).2 _ normal).2 rfl with
    ⟨-, joins, both⟩
  rcases both ⟨[46, 47, 98]⟩ rfl (by decide) (by decide) with ⟨middle, dest, first, second, whole⟩
  cases joined.symm.trans first
  refine ⟨joined, joins _ joined, ⟨dest, second, whole⟩, ?_, ?_, ?_⟩
  · rw [(((join_textual "d//" ⟨[97, 47, 46, 46]⟩).2 _ normal).2 rfl).1]
    decide
  · have shown : (⟨[47, 97]⟩ : LocalPath).shown = "/a" := by cbv
    rw [← shown]
    exact ((join_textual "d//" ⟨[47, 97]⟩).2 _ normal).1 rfl
  · exact (join_textual " " ⟨[97]⟩).1 _ (by cbv)

end CdnPublish.Dest
