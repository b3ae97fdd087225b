import CdnPublish.Proofs.FileTree.WellFormed
import CdnPublish.Proofs.Walk.Findings

/-!
# What a walk visits

The source comes first. Every further visit is of a path below the source: the names on the way are
put after it one by one. What a visit below the source offers is therefore placed by those names.
-/

namespace CdnPublish.Walk

variable {tree : FileTree} {followLinks : Bool} {source path : LocalPath} {destination : String}
  {visit : Visit} {place : Place} {visited : List Visit} {cut : Option WalkFault}

/-- A path that is reached from another one by names. -/
def IsBelow (base path : LocalPath) : Prop :=
  ∃ names, names ≠ [] ∧ (∀ name ∈ names, LocalPath.IsName name) ∧ path = base.joinAll names

theorem isBelow_join {name : Bytes} (isName : LocalPath.IsName name) :
    IsBelow source (source.join ⟨name⟩) :=
  ⟨[name], by simp, by simpa using isName, rfl⟩

theorem IsBelow.of_join {name : Bytes} (isName : LocalPath.IsName name)
    (below : IsBelow (source.join ⟨name⟩) path) : IsBelow source path := by
  rcases below with ⟨names, -, areNames, rfl⟩
  exact ⟨name :: names, by simp, List.forall_mem_cons.mpr ⟨isName, areNames⟩, rfl⟩

/-- A visit of the entries of a directory is of the first entry, of something in it, or of a later
entry. -/
theorem mem_visitEach_cons {current : Ancestor} {outer : List Ancestor}
    {enter : Ancestor → List Visit × Option WalkFault} {name : Bytes} {entry : FileEntry}
    {children : List (Bytes × FileEntry)}
    (mem : visit ∈ (visitEach tree followLinks current outer enter ((name, entry) :: children)).1) :
    visit.1 = current.path.join ⟨name⟩ ∨
      (∃ place, visit ∈ (enter ⟨current.path.join ⟨name⟩, place⟩).1) ∨
      visit ∈ (visitEach tree followLinks current outer enter children).1 := by
  unfold visitEach at mem
  simp only at mem
  split at mem
  · cases mem
  · rename_i next stepped
    cases enters : next.entered with
    | none =>
        simp only [enters, List.nil_append] at mem
        rcases List.mem_cons.mp mem with rfl | later
        · exact Or.inl rfl
        · exact Or.inr (Or.inr later)
    | some place =>
        simp only [enters] at mem
        cases inside : enter ⟨current.path.join ⟨name⟩, place⟩ with
        | mk visits fault =>
            rw [inside] at mem
            cases fault with
            | some fault =>
                rcases List.mem_cons.mp mem with rfl | inner
                · exact Or.inl rfl
                · exact Or.inr (Or.inl ⟨place, by rwa [inside]⟩)
            | none =>
                rcases List.mem_cons.mp mem with rfl | further
                · exact Or.inl rfl
                · rcases List.mem_append.mp further with inner | later
                  · exact Or.inr (Or.inl ⟨place, by rwa [inside]⟩)
                  · exact Or.inr (Or.inr later)

theorem isBelow_of_mem_visitEach {current : Ancestor} {outer : List Ancestor}
    {enter : Ancestor → List Visit × Option WalkFault} {children : List (Bytes × FileEntry)}
    (areNames : ∀ child ∈ children, LocalPath.IsName child.1)
    (entered : ∀ inner, ∀ visit ∈ (enter inner).1, IsBelow inner.path visit.1)
    (mem : visit ∈ (visitEach tree followLinks current outer enter children).1) :
    IsBelow current.path visit.1 := by
  induction children with
  | nil => cases mem
  | cons child children induction_hypothesis =>
      rcases child with ⟨name, entry⟩
      rcases List.forall_mem_cons.mp areNames with ⟨isName, later⟩
      rcases mem_visitEach_cons mem with own | ⟨place, inner⟩ | further
      · rw [own]
        exact isBelow_join isName
      · exact .of_join isName (entered _ visit inner)
      · exact induction_hypothesis later further

/-- A directory that is listed is listed in full. -/
theorem children_of_listing {directory : Ancestor} {children : List (Bytes × FileEntry)}
    (listed : listing tree directory = .ok children) :
    children = tree.sortedChildrenAt directory.place := by
  rcases bind_eq_ok_iff.mp listed with ⟨_, -, given⟩
  split at given <;> cases given
  rfl

/-- Every visit below a directory is of a path below the directory's. -/
theorem isBelow_of_mem_visitsBelow (wellFormed : tree.WellFormed) {fuel : Nat} {current : Ancestor}
    {outer : List Ancestor}
    (mem : visit ∈ (visitsBelow tree followLinks fuel current outer).1) :
    IsBelow current.path visit.1 := by
  induction fuel generalizing current outer visit with
  | zero => cases mem
  | succ fuel induction_hypothesis =>
      unfold visitsBelow at mem
      cases listed : listing tree current with
      | error fault => simp [listed] at mem
      | ok children =>
          simp only [listed] at mem
          refine isBelow_of_mem_visitEach ?_ ?_ mem
          · rw [children_of_listing listed]
            exact fun child childMem => wellFormed.isName_of_mem_children childMem
          · exact fun inner visit innerMem => induction_hypothesis innerMem

/-- A walk visits its source and then what is below it. -/
theorem exists_visits_eq (wellFormed : tree.WellFormed)
    (walked : visits tree followLinks source place = (visited, none)) :
    ∃ own below, tree.linkStatus source = .ok own ∧
      visited = (source, if followLinks then (tree.entryAt? place).getD own else own) :: below ∧
      ∀ visit ∈ below, IsBelow source visit.1 := by
  unfold visits at walked
  cases named : tree.linkStatus source with
  | error cause => simp [named] at walked
  | ok own =>
      cases unopened : sourceFault? tree followLinks place own with
      | some fault => simp [named, unopened] at walked
      | none =>
          simp only [named, unopened] at walked
          refine ⟨own, _, rfl, (Prod.ext_iff.mp walked).1.symm, ?_⟩
          intro visit mem
          split at mem
          · exact isBelow_of_mem_visitsBelow wellFormed mem
          · cases mem

end CdnPublish.Walk
