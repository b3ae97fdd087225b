import CdnPublish.FileTree
import CdnPublish.Proofs.Narrated.Sequences

/-!
# What stands at a place

The root is always a directory; what stands at any other place is an entry of the tree. What can be
read is the content of such an entry.
-/

namespace CdnPublish.FileTree

variable {tree : FileTree} {place : Place} {entry : FileEntry} {path : LocalPath}

theorem entryAt?_of_ne_nil (proper : place ≠ []) :
    tree.entryAt? place = tree.entries.lookup place :=
  if_neg proper

theorem mem_of_entryAt? (proper : place ≠ []) (stands : tree.entryAt? place = some entry) :
    (place, entry) ∈ tree.entries := by
  rw [entryAt?_of_ne_nil proper] at stands
  rcases List.lookup_eq_some_iff.mp stands with ⟨before, after, split, -⟩
  simp [split]

theorem ne_nil_of_entryAt? (stands : tree.entryAt? place = some entry)
    (other : entry ≠ .directory) : place ≠ [] := by
  rintro rfl
  exact other (Option.some.inj stands).symm

theorem status_eq_ok_iff :
    tree.status path = .ok entry ↔
      ∃ place, tree.resolve true path = .ok place ∧ tree.entryAt? place = some entry := by
  rw [status, bind_eq_ok_iff]
  refine exists_congr fun place => and_congr_right fun _ => ?_
  cases tree.entryAt? place <;> simp

theorem linkStatus_eq_ok_iff :
    tree.linkStatus path = .ok entry ↔
      ∃ place, tree.resolve false path = .ok place ∧ tree.entryAt? place = some entry := by
  rw [linkStatus, bind_eq_ok_iff]
  refine exists_congr fun place => and_congr_right fun _ => ?_
  cases tree.entryAt? place <;> simp

theorem hasFile_iff_of_resolve (resolved : tree.resolve true path = .ok place) :
    tree.hasFile path = true ↔ ∃ content, tree.entryAt? place = some (.file content) := by
  have known : ∀ entry, tree.status path = .ok entry ↔ tree.entryAt? place = some entry := by
    intro entry
    simp [status_eq_ok_iff, resolved]
  simp only [← known]
  unfold hasFile
  split
  · rename_i content given
    exact iff_of_true rfl ⟨content, given⟩
  · rename_i other
    exact iff_of_false Bool.false_ne_true fun ⟨content, given⟩ => other content given

/-- Only a file that is not refused can be opened and read to its end. -/
theorem openPlace_content_eq_ok_iff {content : Bytes} {opened : Opened} :
    tree.openPlace place = .ok opened ∧ opened.content = .ok content ↔
      tree.entryAt? place = some (.file content) ∧ tree.refusalAt? place = none ∧
        opened = ⟨content.length, .ok content⟩ := by
  unfold openPlace
  constructor
  · rintro ⟨isOpen, whole⟩
    split at isOpen <;> cases isOpen <;> cases whole
    rename_i unrefused stands
    exact ⟨stands, unrefused, rfl⟩
  · rintro ⟨stands, unrefused, rfl⟩
    rw [stands, unrefused]
    exact ⟨rfl, rfl⟩

/-- What can be read is the content of a file that the path leads to and that is not refused. -/
theorem read_eq_ok_iff {content : Bytes} :
    tree.read path = .ok content ↔ ∃ place, tree.resolve true path = .ok place ∧
      tree.entryAt? place = some (.file content) ∧ tree.refusalAt? place = none := by
  simp only [read, openAt, bind_eq_ok_iff]
  constructor
  · rintro ⟨opened, ⟨place, resolved, isOpen⟩, whole⟩
    rcases openPlace_content_eq_ok_iff.mp ⟨isOpen, whole⟩ with ⟨stands, unrefused, -⟩
    exact ⟨place, resolved, stands, unrefused⟩
  · rintro ⟨place, resolved, stands, unrefused⟩
    rcases openPlace_content_eq_ok_iff.mpr ⟨stands, unrefused, rfl⟩ with ⟨isOpen, whole⟩
    exact ⟨_, ⟨place, resolved, isOpen⟩, whole⟩

theorem status_of_read {content : Bytes} (isRead : tree.read path = .ok content) :
    tree.status path = .ok (.file content) := by
  rcases read_eq_ok_iff.mp isRead with ⟨place, resolved, stands, -⟩
  exact status_eq_ok_iff.mpr ⟨place, resolved, stands⟩

theorem openAt_of_read {content : Bytes} (isRead : tree.read path = .ok content) :
    tree.openAt path = .ok ⟨content.length, .ok content⟩ := by
  rcases read_eq_ok_iff.mp isRead with ⟨place, resolved, stands, unrefused⟩
  rw [openAt, resolved]
  exact (openPlace_content_eq_ok_iff.mpr ⟨stands, unrefused, rfl⟩).1

/-- What can be read is the content of a file of the tree. -/
theorem mem_of_read {content : Bytes} (isRead : tree.read path = .ok content) :
    ∃ place, (place, .file content) ∈ tree.entries := by
  rcases status_eq_ok_iff.mp (status_of_read isRead) with ⟨place, -, stands⟩
  exact ⟨place, mem_of_entryAt? (ne_nil_of_entryAt? stands (by simp)) stands⟩

end CdnPublish.FileTree
