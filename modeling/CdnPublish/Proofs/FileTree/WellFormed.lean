import CdnPublish.Proofs.FileTree.Resolving
import CdnPublish.Proofs.LocalPath.Names

/-!
# Well-formed trees

A file system names every entry and keeps it in a directory. In a tree of that form a path that is
resolved to its end leads to an entry, and never to a link; resolving it without following a last
link makes a difference only where there is such a link.
-/

namespace CdnPublish.FileTree

/-- Every entry has names that the system accepts and stands in a directory, and so does the working
directory. -/
def WellFormed (tree : FileTree) : Prop :=
  (∀ entry ∈ tree.entries, (∀ name ∈ entry.1, LocalPath.IsName name) ∧
    tree.isDirectoryAt entry.1.dropLast = true) ∧
  tree.isDirectoryAt tree.workingDirectory = true

instance (tree : FileTree) : Decidable tree.WellFormed :=
  inferInstanceAs (Decidable (_ ∧ _))

/-- Something that is not a link stands at a place. -/
def IsSolid (tree : FileTree) (place : Place) : Prop :=
  ∃ entry, tree.entryAt? place = some entry ∧ ∀ target, entry ≠ .link target

variable {tree : FileTree} {place result : Place} {links : Nat} {pieces : List Bytes}
  {path : LocalPath} {entry : FileEntry}

theorem isDirectoryAt_iff :
    tree.isDirectoryAt place = true ↔ tree.entryAt? place = some .directory := by
  unfold isDirectoryAt
  split
  · rename_i stands
    simp [stands]
  · rename_i other
    simpa using other

theorem isSolid_of_isDirectoryAt (isDirectory : tree.isDirectoryAt place = true) :
    tree.IsSolid place :=
  ⟨.directory, isDirectoryAt_iff.mp isDirectory, by simp⟩

theorem WellFormed.isDirectoryAt_dropLast (wellFormed : tree.WellFormed)
    (isDirectory : tree.isDirectoryAt place = true) : tree.isDirectoryAt place.dropLast = true := by
  by_cases root : place = []
  · rw [root]
    rfl
  · have mem := mem_of_entryAt? root (isDirectoryAt_iff.mp isDirectory)
    exact (wellFormed.1 _ mem).2

theorem WellFormed.isName_of_mem_children (wellFormed : tree.WellFormed) {name : Bytes}
    (mem : (name, entry) ∈ tree.sortedChildrenAt place) : LocalPath.IsName name := by
  rcases List.mem_filterMap.mp (List.mem_mergeSort.mp mem) with ⟨⟨other, stands⟩, otherMem, kept⟩
  cases last : other.getLast? with
  | none => simp [last] at kept
  | some own =>
      simp only [last] at kept
      split at kept
      · cases kept
        exact (wellFormed.1 _ otherMem).1 name (List.mem_of_getLast? last)
      · cases kept

/-- Where every link is followed, something stands at the end of the pieces, and it is no link. Only
a step upwards leads to a place that was not looked at, and that it is a directory is known from the
form of the tree. -/
theorem Resolves.isSolid (wellFormed : tree.WellFormed)
    (resolves : Resolves tree true links place pieces result) (start : tree.IsSolid place) :
    tree.IsSolid result := by
  induction resolves with
  | done links place => exact start
  | stay inside here later induction_hypothesis => exact induction_hypothesis start
  | up inside later induction_hypothesis =>
      exact induction_hypothesis
        (isSolid_of_isDirectoryAt (wellFormed.isDirectoryAt_dropLast inside))
  | enter inside ordinary stands solid later induction_hypothesis =>
      exact induction_hypothesis ⟨_, stands, solid⟩
  | keep inside ordinary stands unfollowed => cases unfollowed
  | follow inside ordinary stands followed later induction_hypothesis =>
      apply induction_hypothesis
      split
      · exact isSolid_of_isDirectoryAt rfl
      · exact start

/-- Not following a last link makes a difference only where there is one. -/
theorem Resolves.followed_or_link
    (resolves : Resolves tree false links place pieces result) :
    Resolves tree true links place pieces result ∨
      ∃ target, tree.entryAt? result = some (.link target) := by
  induction resolves with
  | done links place => exact Or.inl (.done links place)
  | stay inside here later induction_hypothesis =>
      exact induction_hypothesis.imp_left (.stay inside here)
  | up inside later induction_hypothesis => exact induction_hypothesis.imp_left (.up inside)
  | enter inside ordinary stands solid later induction_hypothesis =>
      exact induction_hypothesis.imp_left (.enter inside ordinary stands solid)
  | keep inside ordinary stands unfollowed => exact Or.inr ⟨_, stands⟩
  | follow inside ordinary stands followed later induction_hypothesis =>
      exact induction_hypothesis.imp_left (.follow inside ordinary stands (Or.inr rfl))

theorem WellFormed.isSolid_of_resolve (wellFormed : tree.WellFormed)
    (resolved : tree.resolve true path = .ok place) : tree.IsSolid place := by
  apply (resolve_eq_ok_iff.mp resolved).2.isSolid wellFormed
  unfold startOf
  split
  · exact isSolid_of_isDirectoryAt rfl
  · exact isSolid_of_isDirectoryAt wellFormed.2

/-- A path that names no link leads to what it names. -/
theorem entryAt?_of_linkStatus (named : tree.linkStatus path = .ok entry)
    (solid : ∀ target, entry ≠ .link target) (resolved : tree.resolve true path = .ok place) :
    tree.entryAt? place = some entry := by
  rcases linkStatus_eq_ok_iff.mp named with ⟨own, ownResolved, stands⟩
  rcases resolve_eq_ok_iff.mp ownResolved with ⟨acceptable, resolves⟩
  rcases resolves.followed_or_link with followed | ⟨target, isLink⟩
  · have same := resolve_eq_ok_iff.mpr ⟨acceptable, followed⟩
    cases resolved.symm.trans same
    exact stands
  · exact absurd (Option.some.inj (stands.symm.trans isLink)) (solid target)

end CdnPublish.FileTree
