import CdnPublish.Proofs.FileTree.WellFormed
import Mathlib

/-!
# What a directory lists

The names in a directory are listed in the order of their bytes. In a tree of a file system no name
stands twice in a directory, so the order is strict, and the list holds exactly what stands at the
places one name further on.
-/

namespace CdnPublish.FileTree

variable {tree : FileTree} {place : Place} {name : Bytes} {entry : FileEntry}

/-- The tree of a file system: it is well-formed, has one entry at a place, and no name that is too
long. -/
def IsStorable (tree : FileTree) : Prop :=
  tree.WellFormed ∧ (tree.entries.map Prod.fst).Nodup ∧
    ∀ entry ∈ tree.entries, ∀ name ∈ entry.1, name.length ≤ maxNameLength

instance (tree : FileTree) : Decidable tree.IsStorable :=
  inferInstanceAs (Decidable (_ ∧ _ ∧ _))

theorem nameLe_iff {first second : Bytes} : nameLe first second = true ↔ first ≤ second := by
  fun_induction nameLe first second with
  | case1 second => simp
  | case2 byte rest => simp
  | case3 byte rest other others induction_hypothesis =>
      simp [List.cons_le_cons_iff, induction_hypothesis]

theorem IsStorable.entryAt?_eq_some_iff (storable : tree.IsStorable) (proper : place ≠ []) :
    tree.entryAt? place = some entry ↔ (place, entry) ∈ tree.entries := by
  constructor
  · exact mem_of_entryAt? proper
  · intro mem
    rcases List.append_of_mem mem with ⟨before, after, split⟩
    have distinct := storable.2.1
    rw [split, List.map_append, List.map_cons, List.nodup_append] at distinct
    rw [entryAt?_of_ne_nil proper]
    apply List.lookup_eq_some_iff.mpr
    refine ⟨before, after, split, ?_⟩
    intro earlier isEarlier
    have other := distinct.2.2 earlier.1 (List.mem_map_of_mem isEarlier) place List.mem_cons_self
    simpa using other.symm

/-- An entry is listed where its place is that of the directory with one more name. -/
theorem listed_eq_some_iff {location : Place} {own : FileEntry} :
    (match location.getLast? with
      | some name => if location.dropLast = place then some (name, own) else none
      | none => none) = some (name, entry) ↔ location = place ++ [name] ∧ own = entry := by
  rcases List.eq_nil_or_concat location with none | ⟨front, last, rfl⟩
  · simp [none]
  · by_cases same : front = place
    · simp [same]
    · simp [same]

theorem mem_childrenAt_iff :
    (name, entry) ∈ tree.childrenAt place ↔ (place ++ [name], entry) ∈ tree.entries := by
  constructor
  · intro mem
    rcases List.mem_filterMap.mp mem with ⟨⟨location, own⟩, isEntry, listed⟩
    rcases listed_eq_some_iff.mp listed with ⟨rfl, rfl⟩
    exact isEntry
  · intro isEntry
    apply List.mem_filterMap.mpr
    exact ⟨_, isEntry, listed_eq_some_iff.mpr ⟨rfl, rfl⟩⟩

/-- A directory lists what stands one name further on. -/
theorem IsStorable.mem_sortedChildrenAt_iff (storable : tree.IsStorable) :
    (name, entry) ∈ tree.sortedChildrenAt place ↔
      tree.entryAt? (place ++ [name]) = some entry := by
  rw [storable.entryAt?_eq_some_iff (by simp), sortedChildrenAt, List.mem_mergeSort,
    mem_childrenAt_iff]

theorem IsStorable.distinct_childrenAt (storable : tree.IsStorable) (place : Place) :
    (tree.childrenAt place).Pairwise fun first second => first.1 ≠ second.1 := by
  apply List.pairwise_filterMap.mpr
  apply (List.pairwise_map.mp storable.2.1).imp
  rintro ⟨first, entry⟩ ⟨second, other⟩ apart ⟨name, own⟩ listed ⟨next, further⟩ alsoListed rfl
  rcases listed_eq_some_iff.mp listed with ⟨rfl, -⟩
  rcases listed_eq_some_iff.mp alsoListed with ⟨rfl, -⟩
  exact apart rfl

/-- A directory lists its names in strictly increasing order. -/
theorem IsStorable.ordered_sortedChildrenAt (storable : tree.IsStorable) (place : Place) :
    (tree.sortedChildrenAt place).Pairwise fun first second => first.1 < second.1 := by
  have increasing : (tree.sortedChildrenAt place).Pairwise
      fun first second => nameLe first.1 second.1 = true := by
    apply List.pairwise_mergeSort
    · intro first second third
      simp only [nameLe_iff]
      exact List.le_trans
    · intro first second
      simpa [nameLe_iff] using List.le_total first.1 second.1
  have distinct : (tree.sortedChildrenAt place).Pairwise
      fun first second => first.1 ≠ second.1 := by
    apply (List.mergeSort_perm _ _).symm.pairwise (storable.distinct_childrenAt place)
    intro first second apart
    exact apart.symm
  apply (increasing.and distinct).imp
  rintro first second ⟨le, apart⟩
  exact Std.lt_of_le_of_ne (nameLe_iff.mp le) apart

end CdnPublish.FileTree
