import CdnPublish.Proofs.FileTree.Leading
import CdnPublish.Proofs.FileTree.Listing
import CdnPublish.Walk

/-!
# What a walk reaches

From a directory a walk goes on name by name. With links followed, names are reached as the system
reaches them, through any number of links; with links kept, only what is below the directory itself
is reached. Each step of a walk goes where its name leads, and enters a directory only where it does
not turn in a circle.
-/

namespace CdnPublish.Walk

open FileTree (Leads PathLeads IsStorable)
open LocalPath (IsName)

variable {tree : FileTree} {followLinks : Bool} {place next other result : Place} {name : Bytes}
  {names : List Bytes} {entry : FileEntry} {current : Ancestor} {ancestors : List Ancestor}

/-- Where a name leads from a directory in which it stands. -/
def Enters (tree : FileTree) (followLinks : Bool) (place : Place) (name : Bytes) (next : Place) :
    Prop :=
  (IsName name ∧ tree.isDirectoryAt place = true ∧
    ∃ entry, tree.entryAt? (place ++ [name]) = some entry) ∧
  match followLinks with
  | true => Leads tree place [name] next
  | false => next = place ++ [name]

/-- Where names lead from a directory, one after the other. -/
inductive Reaches (tree : FileTree) (followLinks : Bool) : Place → List Bytes → Place → Prop where
  | here (place : Place) : Reaches tree followLinks place [] place
  | further {place next result : Place} {name : Bytes} {names : List Bytes}
      (enters : Enters tree followLinks place name next)
      (later : Reaches tree followLinks next names result) :
      Reaches tree followLinks place (name :: names) result

theorem Enters.unique (enters : Enters tree followLinks place name next)
    (alsoEnters : Enters tree followLinks place name other) : next = other := by
  cases followLinks with
  | true => exact enters.2.unique alsoEnters.2
  | false => exact enters.2.trans alsoEnters.2.symm

theorem Reaches.areNames (reaches : Reaches tree followLinks place names result) :
    ∀ name ∈ names, IsName name := by
  induction reaches with
  | here place => simp
  | further enters later induction_hypothesis =>
      exact List.forall_mem_cons.mpr ⟨enters.1.1, induction_hypothesis⟩

/-- With links followed, names are reached where they lead. -/
theorem reaches_followed_iff :
    Reaches tree true place names result ↔
      (∀ name ∈ names, IsName name) ∧ Leads tree place names result := by
  constructor
  · intro reaches
    refine ⟨reaches.areNames, ?_⟩
    induction reaches with
    | here place => exact ⟨0, .done 0 place⟩
    | further enters later induction_hypothesis =>
        exact FileTree.leads_append_iff.mpr ⟨_, enters.2, induction_hypothesis⟩
  · rintro ⟨areNames, leads⟩
    induction names generalizing place with
    | nil =>
        rcases leads with ⟨links, resolves⟩
        cases resolves
        exact .here _
    | cons name names induction_hypothesis =>
        rcases List.forall_mem_cons.mp areNames with ⟨isName, areOthers⟩
        have whole : Leads tree place ([name] ++ names) result := leads
        rcases FileTree.leads_append_iff.mp whole with ⟨middle, first, second⟩
        rcases first.of_name isName with ⟨inside, entry, stands, -⟩
        exact .further ⟨⟨isName, inside, entry, stands⟩, first⟩
          (induction_hypothesis areOthers second)

theorem reaches_kept (reaches : Reaches tree false place names result) :
    result = place ++ names := by
  induction reaches with
  | here place => simp
  | further enters later induction_hypothesis =>
      have own := enters.2
      simp only at own
      rw [induction_hypothesis, own]
      simp

/-- Whatever stands below a place stands below a directory. -/
theorem isDirectoryAt_of_below (wellFormed : tree.WellFormed) (proper : names ≠ [])
    (stands : tree.entryAt? (place ++ names) = some entry) : tree.isDirectoryAt place = true := by
  induction names using List.reverseRecOn generalizing entry with
  | nil => exact absurd rfl proper
  | append_singleton names last induction_hypothesis =>
      have isEntry := FileTree.mem_of_entryAt? (by simp) stands
      have parent := (wellFormed.1 _ isEntry).2
      rw [← List.append_assoc, List.dropLast_concat] at parent
      by_cases none : names = []
      · simpa [none] using parent
      · exact induction_hypothesis none (FileTree.isDirectoryAt_iff.mp parent)

theorem areNames_of_below (wellFormed : tree.WellFormed) (proper : names ≠ [])
    (stands : tree.entryAt? (place ++ names) = some entry) : ∀ name ∈ names, IsName name := by
  have isEntry := FileTree.mem_of_entryAt? (by simp [proper]) stands
  intro name mem
  exact (wellFormed.1 _ isEntry).1 name (List.mem_append_right place mem)

/-- With links kept, everything below the directory itself is reached. -/
theorem reaches_of_below (wellFormed : tree.WellFormed)
    (stands : tree.entryAt? (place ++ names) = some entry) :
    Reaches tree false place names (place ++ names) := by
  induction names generalizing place with
  | nil =>
      rw [List.append_nil]
      exact .here place
  | cons name names induction_hypothesis =>
      have inside := isDirectoryAt_of_below wellFormed (by simp) stands
      have isName := areNames_of_below wellFormed (by simp) stands name List.mem_cons_self
      have split : place ++ name :: names = (place ++ [name]) ++ names := by simp
      rw [split] at stands ⊢
      have own : ∃ entry, tree.entryAt? (place ++ [name]) = some entry := by
        by_cases last : names = []
        · exact ⟨entry, by simpa [last] using stands⟩
        · exact ⟨_, FileTree.isDirectoryAt_iff.mp (isDirectoryAt_of_below wellFormed last stands)⟩
      exact .further ⟨⟨isName, inside, own⟩, rfl⟩ (induction_hypothesis stands)

/-- A directory that the walk is inside of stands where its path leads. -/
def Ancestor.IsLocated (tree : FileTree) (ancestor : Ancestor) : Prop :=
  PathLeads tree ancestor.path ancestor.place ∧ tree.isDirectoryAt ancestor.place = true

/-- How a step from a directory continues that does not fail: past an entry that is no directory, or
into a directory. A directory that is not the own one of its name is none that the walk is inside
of. -/
inductive Goes (tree : FileTree) (followLinks : Bool) (ancestors : List Ancestor)
    (current : Ancestor) (name : Bytes) : Step → Prop where
  | past {target : Place} {entry : FileEntry}
      (enters : Enters tree followLinks current.place name target)
      (stands : tree.entryAt? target = some entry) (closed : entry ≠ .directory) :
      Goes tree followLinks ancestors current name ⟨entry, none⟩
  | into {target : Place} (enters : Enters tree followLinks current.place name target)
      (located : Ancestor.IsLocated tree ⟨current.path.join ⟨name⟩, target⟩)
      (fresh : target = current.place ++ [name] ∨ ∀ ancestor ∈ ancestors, ancestor.place ≠ target) :
      Goes tree followLinks ancestors current name ⟨.directory, some target⟩

theorem enters_own (storable : tree.IsStorable) (inside : tree.isDirectoryAt place = true)
    (stands : tree.entryAt? (place ++ [name]) = some entry)
    (own : followLinks = true → ∀ target, entry ≠ .link target) :
    Enters tree followLinks place name (place ++ [name]) := by
  have isEntry := FileTree.mem_of_entryAt? (by simp) stands
  have isName : IsName name := (storable.1.1 _ isEntry).1 name (by simp)
  have short := storable.2.2 _ isEntry name (by simp)
  refine ⟨⟨isName, inside, entry, stands⟩, ?_⟩
  cases followLinks with
  | true => exact FileTree.leads_name_of_solid isName short inside stands (own rfl)
  | false => rfl

theorem goes_past_own (storable : tree.IsStorable) (located : current.IsLocated tree)
    (stands : tree.entryAt? (current.place ++ [name]) = some entry)
    (own : followLinks = true → ∀ target, entry ≠ .link target) (closed : entry ≠ .directory) :
    Goes tree followLinks ancestors current name ⟨entry, none⟩ :=
  .past (enters_own storable located.2 stands own) stands closed

theorem goes_into_own (storable : tree.IsStorable) (located : current.IsLocated tree)
    (stands : tree.entryAt? (current.place ++ [name]) = some .directory) :
    Goes tree followLinks ancestors current name ⟨.directory, some (current.place ++ [name])⟩ := by
  have solid : ∀ target, FileEntry.directory ≠ .link target := by simp
  have leads : Enters tree true current.place name (current.place ++ [name]) :=
    enters_own storable located.2 stands fun _ => solid
  refine .into (enters_own storable located.2 stands fun _ => solid) ⟨?_, ?_⟩ (Or.inl rfl)
  · exact (located.1.join_iff leads.1.1).mpr leads.2
  · exact FileTree.isDirectoryAt_iff.mpr stands

/-- A step to a listed entry goes where its name leads. -/
theorem goes_of_step (storable : tree.IsStorable) (located : current.IsLocated tree)
    (listed : (name, entry) ∈ tree.sortedChildrenAt current.place) {taken : Step}
    (stepped : step tree followLinks ancestors (current.path.join ⟨name⟩)
      (current.place ++ [name]) entry = .ok taken) :
    Goes tree followLinks ancestors current name taken := by
  have stands := storable.mem_sortedChildrenAt_iff.mp listed
  have isName := storable.1.isName_of_mem_children listed
  unfold step at stepped
  split at stepped
  · rename_i target
    cases resolved : tree.resolve true (current.path.join ⟨name⟩) with
    | error cause => simp [resolved] at stepped
    | ok reached =>
        have leads : PathLeads tree (current.path.join ⟨name⟩) reached :=
          FileTree.pathLeads_of_resolve resolved
        have enters : Enters tree true current.place name reached :=
          ⟨⟨isName, located.2, _, stands⟩, (located.1.join_iff isName).mp leads⟩
        simp only [resolved] at stepped
        split at stepped
        · rename_i isDirectory
          split at stepped
          · cases stepped
          · split at stepped
            · cases stepped
            · rename_i unmet
              cases stepped
              refine .into enters ⟨leads, FileTree.isDirectoryAt_iff.mpr isDirectory⟩ (Or.inr ?_)
              intro ancestor isAncestor same
              have none := List.find?_eq_none.mp unmet ancestor isAncestor
              simp [same] at none
        · rename_i other closed isOther
          cases stepped
          exact .past enters isOther closed
        · cases stepped
  · cases stepped
    exact goes_into_own storable located stands
  · rename_i closed notFollowed
    cases stepped
    apply goes_past_own storable located stands _ closed
    intro followed target same
    exact notFollowed target same followed

end CdnPublish.Walk
