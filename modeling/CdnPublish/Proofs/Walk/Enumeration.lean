import CdnPublish.Proofs.LocalPath.Names
import CdnPublish.Proofs.Walk.Depth
import CdnPublish.Proofs.Walk.Visits

/-!
# A walk visits everything once, in order

What the visits of a directory report is listed under the names that lead there. The list holds
exactly what names lead to below the directory, and its names increase from one visit to the next,
component by component and byte by byte. Such lists are put together child by child, as the walk
goes.
-/

namespace CdnPublish.Walk

variable {tree : FileTree} {followLinks : Bool} {place target : Place} {name : Bytes}
  {names : List Bytes} {entry : FileEntry} {current : Ancestor} {outer : List Ancestor}
  {visited : List Visit} {children : List (Bytes × FileEntry)}

/-- An entry with the names that lead to it. -/
abbrev Listed := List Bytes × FileEntry

/-- The visit of a listed entry below a path. -/
def Listed.visit (path : LocalPath) (listed : Listed) : Visit :=
  (path.joinAll listed.1, listed.2)

/-- The same entry from one directory further up. -/
def Listed.under (name : Bytes) (listed : Listed) : Listed :=
  (name :: listed.1, listed.2)

/-- The names lead to an entry below a place. -/
def LeadsBelow (tree : FileTree) (followLinks : Bool) (place : Place) (names : List Bytes)
    (entry : FileEntry) : Prop :=
  names ≠ [] ∧ ∃ result, Reaches tree followLinks place names result ∧
    tree.entryAt? result = some entry

/-- A list in order of exactly the entries to which names lead in one of these ways. -/
structure Enumerates (leads : List Bytes → FileEntry → Prop) (listing : List Listed) : Prop where
  exact : ∀ names entry, (names, entry) ∈ listing ↔ leads names entry
  ordered : (listing.map Prod.fst).Pairwise (· < ·)

theorem leadsBelow_cons_iff (enters : Enters tree followLinks place name target)
    (stands : tree.entryAt? target = some entry) {other : FileEntry} :
    LeadsBelow tree followLinks place (name :: names) other ↔
      (names = [] ∧ other = entry) ∨ LeadsBelow tree followLinks target names other := by
  constructor
  · rintro ⟨-, result, reaches, reached⟩
    cases reaches with
    | further first later =>
        cases first.unique enters
        by_cases last : names = []
        · subst last
          cases later
          exact Or.inl ⟨rfl, Option.some.inj (reached.symm.trans stands)⟩
        · exact Or.inr ⟨last, result, later, reached⟩
  · rintro (⟨rfl, rfl⟩ | ⟨-, result, later, reached⟩)
    · exact ⟨by simp, target, .further enters (.here target), stands⟩
    · exact ⟨by simp, result, .further enters later, reached⟩

/-- Below an entry that is no directory there is nothing. -/
theorem enumerates_nil (stands : tree.entryAt? target = some entry) (closed : entry ≠ .directory) :
    Enumerates (LeadsBelow tree followLinks target) [] := by
  refine ⟨?_, .nil⟩
  intro names other
  apply iff_of_false (by simp)
  rintro ⟨proper, result, reaches, -⟩
  cases reaches with
  | here => exact proper rfl
  | further enters later =>
      have isDirectory := FileTree.isDirectoryAt_iff.mp enters.1.2.1
      exact closed (Option.some.inj (stands.symm.trans isDirectory))

/-- The names lead to an entry below a place and start with one of these. -/
def LeadsAmong (tree : FileTree) (followLinks : Bool) (place : Place) (starts : List Bytes)
    (names : List Bytes) (entry : FileEntry) : Prop :=
  (∃ start ∈ starts, names.head? = some start) ∧ LeadsBelow tree followLinks place names entry

theorem mem_map_under {inside : List Listed} :
    (names, entry) ∈ inside.map (Listed.under name) ↔
      ∃ rest, names = name :: rest ∧ (rest, entry) ∈ inside := by
  constructor
  · intro mem
    rcases List.mem_map.mp mem with ⟨⟨rest, own⟩, isInside, same⟩
    cases same
    exact ⟨rest, rfl, isInside⟩
  · rintro ⟨rest, rfl, isInside⟩
    exact List.mem_map_of_mem isInside

section Cons

variable {starts : List Bytes} {inside later : List Listed}

theorem mem_cons_iff (enters : Enters tree followLinks place name target)
    (stands : tree.entryAt? target = some entry)
    (below : Enumerates (LeadsBelow tree followLinks target) inside)
    (behind : Enumerates (LeadsAmong tree followLinks place starts) later) {other : FileEntry} :
    (names, other) ∈ ([name], entry) :: (inside.map (Listed.under name) ++ later) ↔
      LeadsAmong tree followLinks place (name :: starts) names other := by
  rw [List.mem_cons, List.mem_append, mem_map_under]
  constructor
  · rintro (own | ⟨rest, rfl, isInside⟩ | isLater)
    · cases own
      exact ⟨⟨name, List.mem_cons_self, rfl⟩,
        (leadsBelow_cons_iff enters stands).mpr (Or.inl ⟨rfl, rfl⟩)⟩
    · exact ⟨⟨name, List.mem_cons_self, rfl⟩,
        (leadsBelow_cons_iff enters stands).mpr (Or.inr ((below.exact _ _).mp isInside))⟩
    · rcases (behind.exact _ _).mp isLater with ⟨⟨start, isStart, head⟩, leads⟩
      exact ⟨⟨start, List.mem_cons_of_mem _ isStart, head⟩, leads⟩
  · rintro ⟨⟨start, isStart, head⟩, leads⟩
    rcases List.mem_cons.mp isStart with rfl | isLater
    · rcases List.head?_eq_some_iff.mp head with ⟨rest, rfl⟩
      rcases (leadsBelow_cons_iff enters stands).mp leads with ⟨rfl, rfl⟩ | further
      · exact Or.inl rfl
      · exact Or.inr (Or.inl ⟨rest, rfl, (below.exact _ _).mpr further⟩)
    · exact Or.inr (Or.inr ((behind.exact _ _).mpr ⟨⟨start, isLater, head⟩, leads⟩))

theorem ordered_cons (first : ∀ start ∈ starts, name < start)
    (below : Enumerates (LeadsBelow tree followLinks target) inside)
    (behind : Enumerates (LeadsAmong tree followLinks place starts) later) :
    ((([name], entry) :: (inside.map (Listed.under name) ++ later)).map Prod.fst).Pairwise
      (· < ·) := by
  have inner : ∀ names ∈ (inside.map (Listed.under name)).map Prod.fst,
      ∃ rest, names = name :: rest ∧ rest ≠ [] := by
    intro names mem
    rcases List.mem_map.mp mem with ⟨⟨_, own⟩, isUnder, rfl⟩
    rcases mem_map_under.mp isUnder with ⟨rest, same, isInside⟩
    exact ⟨rest, same, ((below.exact _ _).mp isInside).1⟩
  have further : ∀ names ∈ later.map Prod.fst,
      ∃ start rest, names = start :: rest ∧ name < start := by
    intro names mem
    rcases List.mem_map.mp mem with ⟨⟨_, own⟩, isLater, rfl⟩
    rcases (behind.exact _ _).mp isLater with ⟨⟨start, isStart, head⟩, -⟩
    rcases List.head?_eq_some_iff.mp head with ⟨rest, same⟩
    exact ⟨start, rest, same, first start isStart⟩
  rw [List.map_cons, List.map_append, List.pairwise_cons, List.pairwise_append]
  refine ⟨?_, ?_, behind.ordered, ?_⟩
  · intro names mem
    rcases List.mem_append.mp mem with isInside | isLater
    · rcases inner names isInside with ⟨rest, rfl, proper⟩
      apply List.cons_lt_cons_iff.mpr
      rcases List.exists_cons_of_ne_nil proper with ⟨next, others, rfl⟩
      exact Or.inr ⟨rfl, List.nil_lt_cons _ _⟩
    · rcases further names isLater with ⟨start, rest, rfl, less⟩
      exact List.cons_lt_cons_iff.mpr (Or.inl less)
  · apply List.pairwise_map.mpr
    apply List.Pairwise.map _ _ (List.pairwise_map.mp below.ordered)
    intro one another less
    exact List.cons_lt_cons_iff.mpr (Or.inr ⟨rfl, less⟩)
  · intro names isInside others isLater
    rcases inner names isInside with ⟨rest, rfl, -⟩
    rcases further others isLater with ⟨start, tail, rfl, less⟩
    exact List.cons_lt_cons_iff.mpr (Or.inl less)

/-- A child, then what is below it, then what is below the children after it. -/
theorem Enumerates.cons (enters : Enters tree followLinks place name target)
    (stands : tree.entryAt? target = some entry) (first : ∀ start ∈ starts, name < start)
    (below : Enumerates (LeadsBelow tree followLinks target) inside)
    (behind : Enumerates (LeadsAmong tree followLinks place starts) later) :
    Enumerates (LeadsAmong tree followLinks place (name :: starts))
      (([name], entry) :: (inside.map (Listed.under name) ++ later)) :=
  ⟨fun _ _ => mem_cons_iff enters stands below behind, ordered_cons first below behind⟩

end Cons

/-- The visits report a list in order of exactly the entries to which names lead in one of these
ways. -/
def Reports (path : LocalPath) (leads : List Bytes → FileEntry → Prop) (visited : List Visit) :
    Prop :=
  ∃ listing : List Listed, visited = listing.map (Listed.visit path) ∧ Enumerates leads listing

theorem Reports.cons {path : LocalPath} {starts : List Bytes} {inside later : List Visit}
    (enters : Enters tree followLinks place name target)
    (stands : tree.entryAt? target = some entry) (first : ∀ start ∈ starts, name < start)
    (below : Reports (path.join ⟨name⟩) (LeadsBelow tree followLinks target) inside)
    (behind : Reports path (LeadsAmong tree followLinks place starts) later) :
    Reports path (LeadsAmong tree followLinks place (name :: starts))
      ((path.join ⟨name⟩, entry) :: (inside ++ later)) := by
  rcases below with ⟨listing, rfl, enumerates⟩
  rcases behind with ⟨others, rfl, alsoEnumerates⟩
  refine ⟨_, ?_, .cons enters stands first enumerates alsoEnumerates⟩
  rw [List.map_cons, List.map_append, List.map_map]
  rfl

/-- Visits that are not cut short are of the first child, of what is below it, and of the other
children. -/
theorem visitEach_cons_eq {enter : Ancestor → List Visit × Option WalkFault}
    (walked : visitEach tree followLinks current outer enter ((name, entry) :: children) =
      (visited, none)) :
    ∃ taken inside later,
      step tree followLinks (current :: outer) (current.path.join ⟨name⟩)
        (current.place ++ [name]) entry = .ok taken ∧
      (taken.entered = none ∧ inside = [] ∨ ∃ place, taken.entered = some place ∧
        enter ⟨current.path.join ⟨name⟩, place⟩ = (inside, none)) ∧
      visitEach tree followLinks current outer enter children = (later, none) ∧
      visited = (current.path.join ⟨name⟩, taken.reported) :: (inside ++ later) := by
  unfold visitEach at walked
  simp only at walked
  split at walked
  · cases walked
  · rename_i taken stepped
    cases rest : visitEach tree followLinks current outer enter children with
    | mk later fault =>
        rw [rest] at walked
        cases enters : taken.entered with
        | none =>
            simp only [enters] at walked
            cases walked
            exact ⟨taken, [], later, stepped, Or.inl ⟨enters, rfl⟩, rfl, rfl⟩
        | some place =>
            cases inner : enter ⟨current.path.join ⟨name⟩, place⟩ with
            | mk inside cut =>
                simp only [enters, inner] at walked
                cases cut with
                | some cut => cases walked
                | none =>
                    cases walked
                    exact ⟨taken, inside, later, stepped, Or.inr ⟨place, enters, inner⟩, rfl, rfl⟩

/-- The visits of children in order report what is below them. -/
theorem reports_visitEach (storable : tree.IsStorable) (located : current.IsLocated tree)
    {enter : Ancestor → List Visit × Option WalkFault}
    (listed : ∀ child ∈ children, child ∈ tree.sortedChildrenAt current.place)
    (ordered : children.Pairwise fun first second => first.1 < second.1)
    (inner : ∀ name place inside,
      Goes tree followLinks (current :: outer) current name ⟨.directory, some place⟩ →
      enter ⟨current.path.join ⟨name⟩, place⟩ = (inside, none) →
      Reports (current.path.join ⟨name⟩) (LeadsBelow tree followLinks place) inside)
    (walked : visitEach tree followLinks current outer enter children = (visited, none)) :
    Reports current.path (LeadsAmong tree followLinks current.place (children.map Prod.fst))
      visited := by
  induction children generalizing visited with
  | nil =>
      cases walked
      refine ⟨[], rfl, ?_, .nil⟩
      intro names entry
      simp [LeadsAmong]
  | cons child children induction_hypothesis =>
      rcases child with ⟨name, entry⟩
      rcases visitEach_cons_eq walked with ⟨taken, inside, later, stepped, below, rest, rfl⟩
      rcases List.forall_mem_cons.mp listed with ⟨isListed, areListed⟩
      rcases List.pairwise_cons.mp ordered with ⟨first, orderedRest⟩
      have behind := induction_hypothesis areListed orderedRest rest
      have less : ∀ start ∈ children.map Prod.fst, name < start := by
        simpa using fun start own mem => first (start, own) mem
      cases goes : goes_of_step storable located isListed stepped with
      | past enters stands closed =>
          rcases below with ⟨-, rfl⟩ | ⟨place, never, -⟩
          · exact .cons enters stands less ⟨[], rfl, enumerates_nil stands closed⟩ behind
          · cases never
      | into enters lower fresh =>
          rcases below with ⟨never, -⟩ | ⟨place, same, entered⟩
          · cases never
          · cases same
            have stands := FileTree.isDirectoryAt_iff.mp lower.2
            exact .cons enters stands less (inner name _ inside (.into enters lower fresh) entered)
              behind

theorem leadsAmong_children_iff (storable : tree.IsStorable) :
    LeadsAmong tree followLinks place ((tree.sortedChildrenAt place).map Prod.fst) names entry ↔
      LeadsBelow tree followLinks place names entry := by
  constructor
  · exact And.right
  · rintro ⟨proper, result, reaches, stands⟩
    refine ⟨?_, proper, result, reaches, stands⟩
    cases reaches with
    | here => exact absurd rfl proper
    | further enters later =>
        rcases enters.1.2.2 with ⟨own, isThere⟩
        have listed := storable.mem_sortedChildrenAt_iff.mpr isThere
        exact ⟨_, List.mem_map_of_mem listed, rfl⟩

/-- The visits below a directory report everything below it, if the bound leaves them room. The fuel
is only a bound: the room of the walk stays below it. -/
theorem reports_visitsBelow (storable : tree.IsStorable) {fuel : Nat}
    (located : current.IsLocated tree)
    (enough : room tree (current :: outer) current.place < fuel)
    (walked : visitsBelow tree followLinks fuel current outer = (visited, none)) :
    Reports current.path (LeadsBelow tree followLinks current.place) visited := by
  induction fuel generalizing current outer visited with
  | zero => exact absurd enough (Nat.not_lt_zero _)
  | succ fuel induction_hypothesis =>
      unfold visitsBelow at walked
      cases listed : listing tree current with
      | error fault => simp [listed] at walked
      | ok children =>
          simp only [listed] at walked
          obtain rfl := children_of_listing listed
          have reports : Reports current.path (LeadsAmong tree followLinks current.place
              ((tree.sortedChildrenAt current.place).map Prod.fst)) visited := by
            apply reports_visitEach storable located (fun _ isChild => isChild)
              (storable.ordered_sortedChildrenAt current.place) _ walked
            intro name place inside goes entered
            cases goes with
            | into enters lower fresh =>
                apply induction_hypothesis lower _ entered
                have less := room_lt_of_goes storable.1 lower.2 fresh (current.path.join ⟨name⟩)
                exact Nat.lt_of_lt_of_le less (Nat.le_of_lt_succ enough)
          rcases reports with ⟨listing, same, exact, ordered⟩
          refine ⟨listing, same, ?_, ordered⟩
          intro names entry
          rw [exact, leadsAmong_children_iff storable]

end CdnPublish.Walk
