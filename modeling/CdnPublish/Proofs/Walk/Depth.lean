import CdnPublish.Proofs.Walk.Reaching

/-!
# How deep a walk goes

Every directory that a walk enters uses up some room. Going down within the tree lengthens the
place, and no place is longer than the tree has entries. Going elsewhere through a link leads to a
directory that the walk was not inside of, of which there is one less from then on. The room of a
walk that starts lies below the bound on its depth, so the bound is never met.
-/

namespace CdnPublish.Walk

variable {tree : FileTree} {followLinks : Bool} {place : Place} {name : Bytes}
  {current : Ancestor} {ancestors outer : List Ancestor}

/-- The places of a tree at which the walk is not inside of a directory. -/
def unmet (tree : FileTree) (ancestors : List Ancestor) : List Place :=
  ([] :: tree.entries.map Prod.fst).filter fun place =>
    decide (place ∉ ancestors.map Ancestor.place)

/-- How much deeper a walk can go from a place. -/
def room (tree : FileTree) (ancestors : List Ancestor) (place : Place) : Nat :=
  (unmet tree ancestors).length * (tree.entries.length + 1) +
    (tree.entries.length - place.length)

theorem isDirectoryAt_of_isPrefix {front : Place} (wellFormed : tree.WellFormed)
    (isDirectory : tree.isDirectoryAt place = true) (before : front <+: place) :
    tree.isDirectoryAt front = true := by
  rcases before with ⟨names, rfl⟩
  by_cases none : names = []
  · simpa [none] using isDirectory
  · exact isDirectoryAt_of_below wellFormed none (FileTree.isDirectoryAt_iff.mp isDirectory)

/-- The directories above a directory are all entries of the tree but the root. -/
theorem length_le_of_isDirectoryAt (wellFormed : tree.WellFormed)
    (isDirectory : tree.isDirectoryAt place = true) : place.length ≤ tree.entries.length := by
  have distinct : ((List.range place.length).map fun count => place.take (count + 1)).Nodup := by
    apply List.Nodup.map_on _ List.nodup_range
    intro first isFirst second isSecond same
    have lengths := congrArg List.length same
    simp only [List.mem_range] at isFirst isSecond
    simp only [List.length_take] at lengths
    omega
  have isEntry : ((List.range place.length).map fun count => place.take (count + 1)) ⊆
      tree.entries.map Prod.fst := by
    intro front mem
    rcases List.mem_map.mp mem with ⟨count, isCount, rfl⟩
    have proper : place.take (count + 1) ≠ [] := by
      simp only [List.mem_range] at isCount
      intro none
      have lengths := congrArg List.length none
      simp only [List.length_take, List.length_nil] at lengths
      omega
    have inside := isDirectoryAt_of_isPrefix wellFormed isDirectory
      (List.take_prefix (count + 1) place)
    have stands := FileTree.mem_of_entryAt? proper (FileTree.isDirectoryAt_iff.mp inside)
    exact List.mem_map_of_mem stands
  simpa using (distinct.subperm isEntry).length_le

theorem mem_places_of_isDirectoryAt (isDirectory : tree.isDirectoryAt place = true) :
    place ∈ [] :: tree.entries.map Prod.fst := by
  by_cases root : place = []
  · simp [root]
  · have stands := FileTree.mem_of_entryAt? root (FileTree.isDirectoryAt_iff.mp isDirectory)
    exact List.mem_cons_of_mem _ (List.mem_map_of_mem stands)

theorem unmet_cons (inner : Ancestor) :
    unmet tree (inner :: ancestors) =
      (unmet tree ancestors).filter fun place => decide (place ≠ inner.place) := by
  simp [unmet, List.filter_filter]

theorem length_unmet_cons_le (inner : Ancestor) :
    (unmet tree (inner :: ancestors)).length ≤ (unmet tree ancestors).length := by
  rw [unmet_cons]
  exact List.length_filter_le _ _

theorem length_unmet_cons_lt {inner : Ancestor}
    (isDirectory : tree.isDirectoryAt inner.place = true)
    (fresh : ∀ ancestor ∈ ancestors, ancestor.place ≠ inner.place) :
    (unmet tree (inner :: ancestors)).length < (unmet tree ancestors).length := by
  rw [unmet_cons]
  apply List.length_filter_lt_length_iff_exists.mpr
  refine ⟨inner.place, ?_, by simp⟩
  apply List.mem_filter.mpr
  refine ⟨mem_places_of_isDirectoryAt isDirectory, ?_⟩
  simpa using fresh

/-- Each directory that is entered leaves less room. Within the tree the place is longer by a name.
Elsewhere it may be a short one again, which the place that is met for the first time outweighs. -/
theorem room_lt_of_goes {target : Place} (wellFormed : tree.WellFormed)
    (isDirectory : tree.isDirectoryAt target = true)
    (fresh : target = current.place ++ [name] ∨
      ∀ ancestor ∈ ancestors, ancestor.place ≠ target) (path : LocalPath) :
    room tree (⟨path, target⟩ :: ancestors) target < room tree ancestors current.place := by
  have fits := length_le_of_isDirectoryAt wellFormed isDirectory
  unfold room
  rcases fresh with rfl | unmetBefore
  · have fewer : (unmet tree (⟨path, current.place ++ [name]⟩ :: ancestors)).length ≤
        (unmet tree ancestors).length := length_unmet_cons_le _
    have product := Nat.mul_le_mul_right (tree.entries.length + 1) fewer
    rw [List.length_append, List.length_singleton] at fits ⊢
    omega
  · have fewer : (unmet tree (⟨path, target⟩ :: ancestors)).length <
        (unmet tree ancestors).length := length_unmet_cons_lt isDirectory unmetBefore
    have product := Nat.mul_le_mul_right (tree.entries.length + 1) (Nat.succ_le_of_lt fewer)
    rw [Nat.succ_mul] at product
    omega

theorem room_lt_depthBound (tree : FileTree) (ancestors : List Ancestor) (place : Place) :
    room tree ancestors place < depthBound tree := by
  have fewer : (unmet tree ancestors).length ≤ tree.entries.length + 1 := by
    apply (List.length_filter_le _ _).trans
    simp
  have product := Nat.mul_le_mul_right (tree.entries.length + 1) fewer
  have bound : depthBound tree = (tree.entries.length + 1) * (tree.entries.length + 1) +
      2 * tree.entries.length + 3 := by
    unfold depthBound
    ring
  unfold room
  omega

end CdnPublish.Walk
