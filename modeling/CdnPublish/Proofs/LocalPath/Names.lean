import CdnPublish.LocalPath
import CdnPublish.Proofs.Text.Split
import CdnPublish.Proofs.Text.Utf8

/-!
# Paths below a path

Putting names below a path, one after the other, adds a component for each of them. Taking the path
away again leaves the names, and the text of the result tells the texts of the names.
-/

namespace CdnPublish.LocalPath

/-- A name that an entry can have. -/
def IsName (name : Bytes) : Prop :=
  isSignificant name = true ∧ name ≠ dotDot ∧ slash ∉ name

instance (name : Bytes) : Decidable (IsName name) :=
  inferInstanceAs (Decidable (_ ∧ _))

/-- A path and then further names, each inside of the one before. -/
def joinAll (path : LocalPath) (names : List Bytes) : LocalPath :=
  names.foldl (fun path name => path.join ⟨name⟩) path

/-- What a name is written after when it is put below a path. -/
def stem (path : LocalPath) : Bytes :=
  if path.bytes = [] || path.bytes.getLast? = some slash then path.bytes
  else path.bytes ++ [slash]

variable {path : LocalPath} {name : Bytes} {names others : List Bytes}

theorem IsName.ne_nil (isName : IsName name) : name ≠ [] := by
  rintro rfl
  cases isName.1

theorem IsName.ne_dot (isName : IsName name) : name ≠ dot := by
  rintro rfl
  cases isName.1

theorem IsName.head?_ne (isName : IsName name) : name.head? ≠ some slash :=
  fun same => isName.2.2 (List.mem_of_head? same)

theorem IsName.getLast?_ne (isName : IsName name) : name.getLast? ≠ some slash :=
  fun same => isName.2.2 (List.mem_of_getLast? same)

theorem stem_cases (path : LocalPath) :
    (path.bytes = [] ∧ path.stem = []) ∨
    (∃ front, path.bytes = front ++ [slash] ∧ path.stem = front ++ [slash]) ∨
    (path.bytes ≠ [] ∧ path.stem = path.bytes ++ [slash]) := by
  unfold stem
  rcases List.eq_nil_or_concat path.bytes with none | ⟨front, last, ends⟩
  · simp [none]
  · rw [List.concat_eq_append] at ends
    by_cases same : last = slash
    · simp [ends, same]
    · simp [ends, same]

theorem join_name (isName : IsName name) : path.join ⟨name⟩ = ⟨path.stem ++ name⟩ := by
  have relative : (⟨name⟩ : LocalPath).isAbsolute = false := by
    simpa [isAbsolute] using isName.head?_ne
  unfold join stem
  rw [if_neg (by simp [relative])]
  split
  · rfl
  · simp

theorem stem_of_name (front : Bytes) (isName : IsName name) :
    (⟨front ++ name⟩ : LocalPath).stem = front ++ name ++ [slash] := by
  unfold stem
  rw [if_neg (by simp [isName.ne_nil, isName.getLast?_ne])]

/-- What comes after a name is put below a path that ends in one, so its stem ends in a slash. -/
theorem joinAll_eq (areNames : ∀ name ∈ names, IsName name) (proper : names ≠ []) :
    path.joinAll names = ⟨path.stem ++ Text.glue slash names⟩ := by
  induction names generalizing path with
  | nil => exact absurd rfl proper
  | cons name names induction_hypothesis =>
      rcases List.forall_mem_cons.mp areNames with ⟨isName, later⟩
      rw [joinAll, List.foldl_cons, join_name isName]
      by_cases last : names = []
      · rw [last]
        rfl
      · rw [← joinAll, induction_hypothesis later last, stem_of_name _ isName,
          Text.glue_cons _ last]
        simp

theorem head?_ne_dot (areNames : ∀ name ∈ names, IsName name) : names.head? ≠ some dot := by
  intro dotFirst
  exact (areNames dot (List.mem_of_head? dotFirst)).ne_dot rfl

/-- Names below a path are its last pieces. The pieces before them count and start as those of the
path do. -/
theorem rawPieces_joinAll (path : LocalPath) (areNames : ∀ name ∈ names, IsName name)
    (proper : names ≠ []) :
    ∃ front, (path.joinAll names).rawPieces = front ++ names ∧
      front.filter isSignificant = path.rawPieces.filter isSignificant ∧
      ((front ++ names).head? = some dot ↔ path.rawPieces.head? = some dot) := by
  have parts : Text.pieces slash (Text.glue slash names) = names :=
    Text.pieces_glue proper fun name mem => (areNames name mem).2.2
  have starts : ∀ front : Bytes, (Text.pieces slash front ++ names).head? =
      (Text.pieces slash front).head? :=
    fun front => List.head?_append_of_ne_nil _ (Text.pieces_ne_nil slash front)
  unfold rawPieces
  rw [joinAll_eq areNames proper]
  rcases path.stem_cases with ⟨none, same⟩ | ⟨front, ends, same⟩ | ⟨some, same⟩
  · refine ⟨[], by rw [same]; exact parts, by rw [none]; rfl, ?_⟩
    rw [none, List.nil_append]
    exact iff_of_false (head?_ne_dot areNames) (by decide)
  · refine ⟨Text.pieces slash front, ?_, ?_, ?_⟩
    · rw [same, List.append_assoc, List.singleton_append, Text.pieces_append, parts]
    · rw [ends, Text.pieces_append, List.filter_append]
      exact (List.append_nil _).symm
    · rw [starts, ends, Text.pieces_append,
        List.head?_append_of_ne_nil _ (Text.pieces_ne_nil slash front)]
  · refine ⟨Text.pieces slash path.bytes, ?_, rfl, by rw [starts]⟩
    rw [same, List.append_assoc, List.singleton_append, Text.pieces_append, parts]

theorem isAbsolute_joinAll (areNames : ∀ name ∈ names, IsName name) (proper : names ≠ []) :
    (path.joinAll names).isAbsolute = path.isAbsolute := by
  unfold isAbsolute
  rw [joinAll_eq areNames proper]
  rcases path.stem_cases with ⟨none, same⟩ | ⟨front, ends, same⟩ | ⟨some, same⟩
  · rcases List.exists_cons_of_ne_nil proper with ⟨first, later, rfl⟩
    have isName := areNames first (.head _)
    rcases List.exists_cons_of_ne_nil isName.ne_nil with ⟨byte, rest, rfl⟩
    have other : byte ≠ slash := fun slashFirst => isName.2.2 (by simp [slashFirst])
    rw [none, same]
    cases later with
    | nil => simp [Text.glue, other]
    | cons second later => simp [Text.glue, other]
  · rw [ends, same]
    cases front <;> simp
  · rw [same]
    cases bytes : path.bytes with
    | nil => exact absurd bytes some
    | cons byte rest => simp

theorem filter_names (areNames : ∀ name ∈ names, IsName name) :
    names.filter isSignificant = names :=
  List.filter_eq_self.mpr fun name mem => (areNames name mem).1

/-- Every name below a path is one more component. -/
theorem components_joinAll (path : LocalPath) (areNames : ∀ name ∈ names, IsName name) :
    (path.joinAll names).components = path.components ++ names.map .name := by
  by_cases proper : names = []
  · rw [proper, List.map_nil, List.append_nil]
    rfl
  · rcases rawPieces_joinAll path areNames proper with ⟨front, pieces, counts, starts⟩
    have named : names.map Component.ofPiece = names.map .name := by
      apply List.map_congr_left
      intro name mem
      exact if_neg (areNames name mem).2.1
    unfold components
    simp only [isAbsolute_joinAll areNames proper, pieces, starts, List.filter_append, counts,
      filter_names areNames, List.map_append, named, List.append_assoc]

theorem lastSignificant_append (areNames : ∀ name ∈ names, IsName name) (front : List Bytes) :
    lastSignificant names.length (front ++ names) = names := by
  induction front with
  | nil =>
      cases names with
      | nil => rfl
      | cons name names =>
          have later := filter_names fun other mem => areNames other (.tail _ mem)
          rw [List.nil_append, lastSignificant, later, if_pos]
          simp [(areNames name (.head _)).1]
  | cons piece front induction_hypothesis =>
      have many : ¬((front ++ names).filter isSignificant).length < names.length := by
        rw [List.filter_append, filter_names areNames, List.length_append]
        omega
      rw [List.cons_append, lastSignificant, if_neg ?_, induction_hypothesis]
      exact fun both => many (of_decide_eq_true (Bool.and_eq_true_iff.mp both).2)

theorem lastSignificant_zero (pieces : List Bytes) : lastSignificant 0 pieces = [] := by
  induction pieces with
  | nil => rfl
  | cons piece pieces induction_hypothesis =>
      rw [lastSignificant, if_neg (by simp), induction_hypothesis]

theorem trimInsignificant_append (areNames : ∀ name ∈ names, IsName name) (proper : names ≠ [])
    (front : List Bytes) : trimInsignificant (front ++ names) = front ++ names := by
  rcases List.eq_nil_or_concat names with none | ⟨before, last, rfl⟩
  · exact absurd none proper
  · have isName := areNames last (by simp)
    simp [trimInsignificant, List.concat_eq_append, isName.1]

/-- Taking a path away from what is below it leaves the names. -/
theorem relativeTo?_joinAll (areNames : ∀ name ∈ names, IsName name) :
    (path.joinAll names).relativeTo? path = some ⟨Text.glue slash names⟩ := by
  have below : path.components <+: (path.joinAll names).components := by
    rw [components_joinAll path areNames]
    exact List.prefix_append _ _
  have left : (path.joinAll names).components.length - path.components.length = names.length := by
    rw [components_joinAll path areNames]
    simp
  unfold relativeTo?
  rw [if_pos below]
  simp only [left]
  by_cases proper : names = []
  · rw [proper, List.length_nil, Nat.zero_min, lastSignificant_zero]
  · rcases rawPieces_joinAll path areNames proper with ⟨front, pieces, counts, -⟩
    have many : min names.length ((front ++ names).filter isSignificant).length =
        names.length := by
      rw [List.filter_append, filter_names areNames, List.length_append]
      omega
    rw [pieces, many, trimInsignificant_append areNames proper, lastSignificant_append areNames]

theorem components_glue (areNames : ∀ name ∈ names, IsName name) :
    (⟨Text.glue slash names⟩ : LocalPath).components = names.map .name := by
  by_cases proper : names = []
  · rw [proper]
    rfl
  · have whole := components_joinAll ⟨[]⟩ areNames
    rw [joinAll_eq areNames proper] at whole
    exact whole

theorem glue_names_inj (areNames : ∀ name ∈ names, IsName name)
    (areOthers : ∀ name ∈ others, IsName name)
    (same : Text.glue slash names = Text.glue slash others) : names = others := by
  have steps : names.map Component.name = others.map .name := by
    rw [← components_glue areNames, same, components_glue areOthers]
  exact List.map_injective_iff.mpr (fun _ _ => Component.name.inj) steps

/-- Every component that is not a mark is a name. -/
theorem isName_of_mem_components (mem : Component.name name ∈ path.components) : IsName name := by
  rcases List.mem_append.mp mem with starts | follows
  · split at starts
    · simp at starts
    · split at starts <;> simp at starts
  · rcases List.mem_map.mp follows with ⟨piece, pieceMem, same⟩
    rcases List.mem_filter.mp pieceMem with ⟨inPath, significant⟩
    unfold Component.ofPiece at same
    split at same
    · cases same
    · rename_i notUp
      cases same
      exact ⟨significant, notUp, Text.not_mem_of_mem_pieces inPath⟩

theorem isName_of_fileName? (named : path.fileName? = some name) : IsName name := by
  unfold fileName? at named
  split at named
  · rename_i bytes last
    cases named
    exact isName_of_mem_components (List.mem_of_getLast? last)
  · cases named

section Shown

theorem decodeLossy_glue (names : List Bytes) :
    Text.decodeLossy (Text.glue slash names) = Text.glue '/' (names.map Text.decodeLossy) := by
  induction names with
  | nil => exact Text.decodeLossy_eq_nil_iff.mpr rfl
  | cons name names induction_hypothesis =>
      by_cases last : names = []
      · rw [last]
        rfl
      · rw [Text.glue_cons _ last, Text.decodeLossy_append (by decide), List.map_cons,
          Text.glue_cons _ (by simpa using last), induction_hypothesis]
        rfl

/-- The text of a stem stays as it is, whatever is written after it. -/
theorem decodeLossy_stem_append (path : LocalPath) (after : Bytes) :
    Text.decodeLossy (path.stem ++ after) =
      Text.decodeLossy path.stem ++ Text.decodeLossy after := by
  have ends : path.stem = [] ∨ ∃ front, path.stem = front ++ [slash] := by
    rcases path.stem_cases with ⟨-, same⟩ | ⟨front, -, same⟩ | ⟨-, same⟩
    · exact Or.inl same
    · exact Or.inr ⟨front, same⟩
    · exact Or.inr ⟨path.bytes, same⟩
  have none : Text.decodeLossy [] = [] := Text.decodeLossy_eq_nil_iff.mpr rfl
  rcases ends with same | ⟨front, same⟩
  · rw [same, none, List.nil_append, List.nil_append]
  · rw [same, List.append_assoc, List.singleton_append, Text.decodeLossy_append (by decide),
      Text.decodeLossy_append (by decide), none, List.append_assoc, List.singleton_append]

theorem length_decodeLossy_le_stem (path : LocalPath) :
    (Text.decodeLossy path.bytes).length ≤ (Text.decodeLossy path.stem).length := by
  rcases path.stem_cases with ⟨same, stem⟩ | ⟨front, same, stem⟩ | ⟨-, stem⟩
  · exact Nat.le_of_eq (by rw [same, stem])
  · exact Nat.le_of_eq (by rw [same, stem])
  · rw [stem, Text.decodeLossy_append (by decide), List.length_append]
    omega

theorem shown_eq_iff {other : LocalPath} :
    path.shown = other.shown ↔ Text.decodeLossy path.bytes = Text.decodeLossy other.bytes := by
  rw [shown, shown, Bytes.shown, Bytes.shown, ← String.toList_inj, String.toList_ofList,
    String.toList_ofList]

theorem decodeLossy_joinAll (path : LocalPath) (areNames : ∀ name ∈ names, IsName name)
    (proper : names ≠ []) :
    Text.decodeLossy (path.joinAll names).bytes =
      Text.decodeLossy path.stem ++ Text.glue '/' (names.map Text.decodeLossy) := by
  rw [joinAll_eq areNames proper, decodeLossy_stem_append, decodeLossy_glue]

theorem IsName.not_mem_decodeLossy (isName : IsName name) : '/' ∉ Text.decodeLossy name :=
  Text.not_mem_decodeLossy slash (by decide) isName.2.2

theorem shown_joinAll_ne (areNames : ∀ name ∈ names, IsName name) (proper : names ≠ []) :
    (path.joinAll names).shown ≠ path.shown := by
  intro same
  rcases List.exists_cons_of_ne_nil proper with ⟨first, later, rfl⟩
  have texts := decodeLossy_joinAll path areNames proper
  rw [← decodeLossy_glue, shown_eq_iff.mp same] at texts
  have shorter := path.length_decodeLossy_le_stem
  rw [texts, List.length_append] at shorter
  have empty : Text.glue slash (first :: later) = [] :=
    Text.decodeLossy_eq_nil_iff.mp (List.eq_nil_of_length_eq_zero (by omega))
  have isName := areNames first (.head _)
  cases later with
  | nil => exact isName.ne_nil empty
  | cons second later => simp [Text.glue] at empty

/-- Two paths below a path show the same text when their names do. -/
theorem shown_joinAll_eq_iff (areNames : ∀ name ∈ names, IsName name)
    (areOthers : ∀ name ∈ others, IsName name) :
    (path.joinAll names).shown = (path.joinAll others).shown ↔
      names.map Text.decodeLossy = others.map Text.decodeLossy := by
  have whole : ∀ {list : List Bytes}, (∀ name ∈ list, IsName name) →
      ∀ text ∈ list.map Text.decodeLossy, '/' ∉ text := by
    intro list areAll text mem
    rcases List.mem_map.mp mem with ⟨name, nameMem, rfl⟩
    exact (areAll name nameMem).not_mem_decodeLossy
  by_cases none : names = []
  · by_cases alsoNone : others = []
    · simp [none, alsoNone]
    · subst none
      refine iff_of_false (fun same => shown_joinAll_ne areOthers alsoNone same.symm) ?_
      simpa [eq_comm] using alsoNone
  · by_cases noOthers : others = []
    · subst noOthers
      exact iff_of_false (shown_joinAll_ne areNames none) (by simpa using none)
    · rw [shown_eq_iff, decodeLossy_joinAll path areNames none,
        decodeLossy_joinAll path areOthers noOthers, List.append_cancel_left_eq]
      constructor
      · intro same
        rw [← Text.pieces_glue (by simpa using none) (whole areNames), same,
          Text.pieces_glue (by simpa using noOthers) (whole areOthers)]
      · exact congrArg (Text.glue '/')

end Shown

end CdnPublish.LocalPath
