import CdnPublish.Proofs.Walk.Destinations

/-!
# When two findings have one destination

A destination holds the text of a local path, not its bytes. Two findings therefore have the same
destination exactly when their paths show the same text, which paths that are text never do.
-/

namespace CdnPublish.Walk

open LocalPath (IsName slash)

variable {tree : FileTree} {source path : LocalPath} {destination dest : String} {keepLinks : Bool}
  {entry : FileEntry} {found : List Found} {place : Place}

/-- A finding comes from the path of the file that it is or of the visit that offered it. -/
inductive StemsFrom (tree : FileTree) (source : LocalPath) (destination : String)
    (keepLinks : Bool) : LocalPath → Found → Prop where
  | single {place : Place} {content name : Bytes} {dest : String}
      (resolved : tree.resolve true source = .ok place)
      (isFile : tree.entryAt? place = some (.file content)) (named : source.fileName? = some name)
      (placed : Dest.join destination ⟨name⟩ = .ok dest) :
      StemsFrom tree source destination keepLinks source (.file source dest)
  | visited {place : Place} {visited : List Visit} {path : LocalPath} {entry : FileEntry}
      {given : Found} (resolved : tree.resolve true source = .ok place)
      (notFile : ∀ content, tree.entryAt? place ≠ some (.file content))
      (walked : visits tree (!keepLinks) source place = (visited, none))
      (mem : (path, entry) ∈ visited)
      (offered : finding source destination (path, entry) = .ok (some given)) :
      StemsFrom tree source destination keepLinks path given

/-- The findings of a walk are those that stem from some path. -/
theorem mem_collected_iff (collects : Collects tree source destination keepLinks found)
    {given : Found} :
    given ∈ found ↔ ∃ path, StemsFrom tree source destination keepLinks path given := by
  cases collects with
  | single resolved isFile named placed =>
      rw [List.mem_singleton]
      constructor
      · rintro rfl
        exact ⟨source, .single resolved isFile named placed⟩
      · rintro ⟨path, stems⟩
        cases stems with
        | single _ _ alsoNamed alsoPlaced =>
            cases named.symm.trans alsoNamed
            cases placed.symm.trans alsoPlaced
            rfl
        | visited alsoResolved notFile =>
            cases resolved.symm.trans alsoResolved
            exact absurd isFile (notFile _)
  | walked resolved notFile walked offered =>
      constructor
      · intro mem
        rcases List.mem_filterMap.mp mem with ⟨offer, offerMem, rfl⟩
        rcases exists_mem_of_forall₂ offered offerMem with ⟨⟨path, entry⟩, visitMem, here⟩
        exact ⟨path, .visited resolved notFile walked visitMem here⟩
      · rintro ⟨path, stems⟩
        cases stems with
        | single alsoResolved isFile =>
            cases resolved.symm.trans alsoResolved
            exact absurd isFile (notFile _)
        | visited alsoResolved _ alsoWalked visitMem here =>
            cases resolved.symm.trans alsoResolved
            cases walked.symm.trans alsoWalked
            rcases exists_mem_of_forall₂ offered.flip visitMem with ⟨offer, offerMem, same⟩
            cases here.symm.trans same
            exact List.mem_filterMap.mpr ⟨_, offerMem, rfl⟩

theorem exists_names_of_visited (wellFormed : tree.WellFormed) {visited : List Visit}
    {given : Found} (walked : visits tree (!keepLinks) source place = (visited, none))
    (mem : (path, entry) ∈ visited)
    (offered : finding source destination (path, entry) = .ok (some given)) :
    ∃ names, (∀ name ∈ names, IsName name) ∧ path = source.joinAll names ∧
      Dest.join destination ⟨Text.glue slash names⟩ = .ok given.dest := by
  have reached : ∃ names, (∀ name ∈ names, IsName name) ∧ path = source.joinAll names := by
    rcases exists_visits_eq wellFormed walked with ⟨own, below, -, rfl, reached⟩
    rcases List.mem_cons.mp mem with isSource | visitMem
    · cases isSource
      exact ⟨[], by simp, rfl⟩
    · rcases reached _ visitMem with ⟨names, -, areNames, same⟩
      exact ⟨names, areNames, same⟩
  rcases reached with ⟨names, areNames, rfl⟩
  exact ⟨names, areNames, rfl, join_of_finding areNames offered⟩

theorem StemsFrom.path_eq (wellFormed : tree.WellFormed) {own : LocalPath}
    (stems : StemsFrom tree source destination keepLinks path (.file own dest)) : path = own := by
  cases stems with
  | single => rfl
  | visited resolved notFile walked mem offered =>
      rcases exists_names_of_visited wellFormed walked mem offered with ⟨names, areNames, rfl, -⟩
      cases yields_of_finding (LocalPath.relativeTo?_joinAll areNames) offered with
      | file => rfl

/-- Findings are either the same single file, or each is placed by the names to its path. -/
theorem StemsFrom.pair_cases (wellFormed : tree.WellFormed) {first second : LocalPath}
    {given other : Found} (stems : StemsFrom tree source destination keepLinks first given)
    (otherStems : StemsFrom tree source destination keepLinks second other) :
    (first = second ∧ given = other) ∨ ∃ names others, (∀ name ∈ names, IsName name) ∧
      (∀ name ∈ others, IsName name) ∧ first = source.joinAll names ∧
      second = source.joinAll others ∧
      Dest.join destination ⟨Text.glue slash names⟩ = .ok given.dest ∧
      Dest.join destination ⟨Text.glue slash others⟩ = .ok other.dest := by
  cases stems with
  | single resolved isFile named placed =>
      cases otherStems with
      | single _ _ alsoNamed alsoPlaced =>
          cases named.symm.trans alsoNamed
          cases placed.symm.trans alsoPlaced
          exact Or.inl ⟨rfl, rfl⟩
      | visited alsoResolved notFile =>
          cases resolved.symm.trans alsoResolved
          exact absurd isFile (notFile _)
  | visited resolved notFile walked mem offered =>
      cases otherStems with
      | single alsoResolved isFile =>
          cases resolved.symm.trans alsoResolved
          exact absurd isFile (notFile _)
      | visited _ _ alsoWalked alsoMem alsoOffered =>
          rcases exists_names_of_visited wellFormed walked mem offered with
            ⟨names, areNames, same, placed⟩
          rcases exists_names_of_visited wellFormed alsoWalked alsoMem alsoOffered with
            ⟨others, areOthers, alsoSame, alsoPlaced⟩
          exact Or.inr ⟨names, others, areNames, areOthers, same, alsoSame, placed, alsoPlaced⟩

/-- When findings have the same destination. The findings of a walk stem from local paths, and two
of them have one destination exactly when their paths show the same text. Paths that differ and are
text below the source never do. -/
theorem collect_dests_exact (tree : FileTree) (source : LocalPath) (destination : String)
    (keepLinks : Bool) (found : List Found) (wellFormed : tree.WellFormed)
    (collected : (collect tree source destination keepLinks).result = .ok found) :
    (∀ given, given ∈ found ↔ ∃ path, StemsFrom tree source destination keepLinks path given) ∧
    (∀ first second given other, StemsFrom tree source destination keepLinks first given →
      StemsFrom tree source destination keepLinks second other →
        (given.dest = other.dest ↔ first.shown = second.shown)) ∧
    (∀ first second given other, StemsFrom tree source destination keepLinks first given →
      StemsFrom tree source destination keepLinks second other → first ≠ second →
        (∀ path ∈ [first, second], ∀ relative, path.relativeTo? source = some relative →
          (Text.decode? relative.bytes).isSome = true) →
        given.dest ≠ other.dest) := by
  refine ⟨fun given => mem_collected_iff (collect_eq_ok_iff.mp collected), ?_, ?_⟩
  · intro first second given other stems otherStems
    rcases stems.pair_cases wellFormed otherStems with
      ⟨rfl, rfl⟩ | ⟨names, others, areNames, areOthers, rfl, rfl, placed, otherPlaced⟩
    · exact iff_of_true rfl rfl
    · rw [Dest.join_names_inj areNames areOthers placed otherPlaced,
        LocalPath.shown_joinAll_eq_iff areNames areOthers]
  · intro first second given other stems otherStems differ areText
    rcases stems.pair_cases wellFormed otherStems with
      ⟨same, -⟩ | ⟨names, others, areNames, areOthers, rfl, rfl, placed, otherPlaced⟩
    · exact absurd same differ
    · rw [Ne, Dest.join_names_inj areNames areOthers placed otherPlaced]
      intro same
      have isText := areText _ (.head _) _ (LocalPath.relativeTo?_joinAll areNames)
      have otherIsText := areText _ (.tail _ (.head _)) _ (LocalPath.relativeTo?_joinAll areOthers)
      have glued : Text.glue slash names = Text.glue slash others := by
        apply Text.eq_of_decodeLossy_eq isText otherIsText
        rw [LocalPath.decodeLossy_glue, LocalPath.decodeLossy_glue, same]
      exact differ (by rw [LocalPath.glue_names_inj areNames areOthers glued])

/-- A directory with two files whose names are text and two whose names are not. -/
def mixedNames : FileTree :=
  ⟨[([[115]], .directory), ([[115], [97]], .file [49]), ([[115], [98]], .file [50]),
    ([[115], [97, 254]], .file [51]), ([[115], [97, 255]], .file [52])], [], []⟩

theorem collect_mixedNames :
    (collect mixedNames ⟨[115]⟩ "/d" false).result =
      .ok [.file ⟨[115, 47, 97]⟩ "/d/a", .file ⟨[115, 47, 97, 254]⟩ "/d/a\uFFFD",
        .file ⟨[115, 47, 97, 255]⟩ "/d/a\uFFFD", .file ⟨[115, 47, 98]⟩ "/d/b"] := by
  cbv

/-- Two files with different names that are not text have one destination. -/
theorem exists_shared_destination :
    mixedNames.WellFormed ∧ ∃ found first second dest,
      (collect mixedNames ⟨[115]⟩ "/d" false).result = .ok found ∧
        .file first dest ∈ found ∧ .file second dest ∈ found ∧ first ≠ second := by
  refine ⟨by decide, _, ⟨[115, 47, 97, 254]⟩, ⟨[115, 47, 97, 255]⟩, "/d/a\uFFFD",
    collect_mixedNames, by simp, by simp, by decide⟩

theorem stemsFrom_mixedNames (own : LocalPath) (dest : String)
    (mem : .file own dest ∈ [Found.file ⟨[115, 47, 97]⟩ "/d/a",
      .file ⟨[115, 47, 97, 254]⟩ "/d/a\uFFFD", .file ⟨[115, 47, 97, 255]⟩ "/d/a\uFFFD",
      .file ⟨[115, 47, 98]⟩ "/d/b"]) :
    StemsFrom mixedNames ⟨[115]⟩ "/d" false own (.file own dest) := by
  have wellFormed : mixedNames.WellFormed := by decide
  rcases (mem_collected_iff (collect_eq_ok_iff.mp collect_mixedNames)).mp mem with ⟨path, stems⟩
  rwa [stems.path_eq wellFormed] at stems

/-- The two files whose names are text are kept apart, and the other two show the same text. -/
theorem collect_dests_exact_mixedNames :
    (∃ given other, StemsFrom mixedNames ⟨[115]⟩ "/d" false ⟨[115, 47, 97]⟩ given ∧
      StemsFrom mixedNames ⟨[115]⟩ "/d" false ⟨[115, 47, 98]⟩ other ∧ given.dest ≠ other.dest) ∧
    (LocalPath.mk [115, 47, 97, 254]).shown = (LocalPath.mk [115, 47, 97, 255]).shown := by
  have wellFormed : mixedNames.WellFormed := by decide
  have exactly := collect_dests_exact _ _ _ _ _ wellFormed collect_mixedNames
  have first := stemsFrom_mixedNames ⟨[115, 47, 97]⟩ "/d/a" (by simp)
  have second := stemsFrom_mixedNames ⟨[115, 47, 98]⟩ "/d/b" (by simp)
  refine ⟨⟨_, _, first, second, ?_⟩, ?_⟩
  · refine exactly.2.2 _ _ _ _ first second (by decide) ?_
    intro path mem relative given
    rcases List.mem_pair.mp mem with rfl | rfl
    · rw [show (LocalPath.mk [115, 47, 97]).relativeTo? ⟨[115]⟩ = some ⟨[97]⟩ by cbv] at given
      cases given
      cbv
    · rw [show (LocalPath.mk [115, 47, 98]).relativeTo? ⟨[115]⟩ = some ⟨[98]⟩ by cbv] at given
      cases given
      cbv
  · have third := stemsFrom_mixedNames ⟨[115, 47, 97, 254]⟩ "/d/a\uFFFD" (by simp)
    have fourth := stemsFrom_mixedNames ⟨[115, 47, 97, 255]⟩ "/d/a\uFFFD" (by simp)
    exact (exactly.2.1 _ _ _ _ third fourth).mp rfl

end CdnPublish.Walk
