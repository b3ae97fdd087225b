import CdnPublish.Proofs.Dest.Joining
import CdnPublish.Proofs.Walk.Visits

/-!
# Where a walk puts what it finds

Everything below a source is put below the destination, segment for segment and in the text of its
names. The source itself is put at the destination when it is a link that is kept and does not lead
to a file.
-/

namespace CdnPublish

/-- A destination that extends another one, in its canonical spelling, by at least one segment. -/
def Dest.IsBelow (destination dest : String) : Prop :=
  ∃ base segments, normalize destination = .ok base ∧ segments ≠ [] ∧
    (∀ segment ∈ segments, IsProper segment) ∧ dest.toList = segments.foldl extend base.toList

namespace Walk

open LocalPath (IsName slash)

variable {tree : FileTree} {source path : LocalPath} {destination dest : String} {keepLinks : Bool}
  {names others : List Bytes} {entry : FileEntry} {offer : Option Found} {found : List Found}
  {place : Place}

theorem Yields.placed {relative : LocalPath} {given : Found}
    (yields : Yields source destination path relative entry (some given)) :
    Dest.join destination relative = .ok given.dest := by
  cases yields with
  | file placed => exact placed
  | link placed short carried => exact placed

theorem join_of_finding {given : Found} (areNames : ∀ name ∈ names, IsName name)
    (offered : finding source destination (source.joinAll names, entry) = .ok (some given)) :
    Dest.join destination ⟨Text.glue slash names⟩ = .ok given.dest :=
  (yields_of_finding (LocalPath.relativeTo?_joinAll areNames) offered).placed

theorem isBelow_of_join (areNames : ∀ name ∈ names, IsName name) (proper : names ≠ [])
    (placed : Dest.join destination ⟨Text.glue slash names⟩ = .ok dest) :
    Dest.IsBelow destination dest := by
  rcases (Dest.join_names_eq_ok_iff areNames).mp placed with ⟨base, normal, extended⟩
  exact ⟨base, _, normal, by simpa using proper, Dest.isProper_texts areNames, extended⟩

/-- No name leads to the destination itself. -/
theorem join_nil_eq_ok_iff :
    Dest.join destination ⟨Text.glue slash []⟩ = .ok dest ↔
      Dest.normalize destination = .ok dest := by
  rw [Dest.join_names_eq_ok_iff (by simp)]
  simp [String.toList_inj]

theorem not_isBelow_of_normalize (normal : Dest.normalize destination = .ok dest) :
    ¬Dest.IsBelow destination dest := by
  rintro ⟨base, segments, alsoNormal, proper, areProper, extended⟩
  cases normal.symm.trans alsoNormal
  rcases Dest.segments_of_normalize normal with ⟨own, same⟩
  rw [same, Dest.foldl_extend_ofSegments own areProper,
    Dest.ofSegments_inj own (List.forall_mem_append.mpr ⟨own, areProper⟩)] at extended
  exact proper (List.self_eq_append_right.mp extended)

/-- The source is itself published as a link: links are kept, it is one, and it does not lead to a
file. -/
def KeepsSource (tree : FileTree) (source : LocalPath) (keepLinks : Bool) : Prop :=
  keepLinks = true ∧ (∃ target, tree.linkStatus source = .ok (.link target)) ∧
    tree.hasFile source = false

/-- A walked source is reported as a directory or as a socket, unless it is a link that is kept. -/
theorem reported_cases (wellFormed : tree.WellFormed)
    (resolved : tree.resolve true source = .ok place)
    (notFile : ∀ content, tree.entryAt? place ≠ some (.file content)) {own : FileEntry}
    (named : tree.linkStatus source = .ok own) :
    let reported := if !keepLinks then (tree.entryAt? place).getD own else own
    (KeepsSource tree source keepLinks ∧ ∃ target, reported = .link target) ∨
      (¬KeepsSource tree source keepLinks ∧ (reported = .directory ∨ reported = .socket)) := by
  intro reported
  cases keepLinks with
  | false =>
      refine Or.inr ⟨fun keeps => Bool.false_ne_true keeps.1, ?_⟩
      rcases wellFormed.isSolid_of_resolve resolved with ⟨entry, stands, solid⟩
      have same : reported = entry := by simp [reported, stands]
      rw [same]
      cases entry with
      | directory => exact Or.inl rfl
      | socket => exact Or.inr rfl
      | file content => exact absurd stands (notFile content)
      | link target => exact absurd rfl (solid target)
  | true =>
      have same : reported = own := rfl
      rw [same]
      have notLink : ∀ entry, own = entry → (∀ target, entry ≠ .link target) →
          ¬KeepsSource tree source true := by
        rintro entry rfl solid ⟨-, ⟨target, isLink⟩, -⟩
        exact solid target (Except.ok.inj (named.symm.trans isLink))
      cases own with
      | directory => exact Or.inr ⟨notLink _ rfl (by simp), Or.inl rfl⟩
      | socket => exact Or.inr ⟨notLink _ rfl (by simp), Or.inr rfl⟩
      | file content =>
          have stands := FileTree.entryAt?_of_linkStatus named (by simp) resolved
          exact absurd stands (notFile content)
      | link target =>
          have walked : ¬tree.hasFile source = true := by
            rw [FileTree.hasFile_iff_of_resolve resolved]
            exact not_exists.mpr notFile
          exact Or.inl ⟨⟨rfl, ⟨target, named⟩, Bool.eq_false_iff.mpr walked⟩, target, rfl⟩

theorem isBelow_of_offered {below : List Visit} {offers : List (Option Found)} {given : Found}
    (reached : ∀ visit ∈ below, IsBelow source visit.1)
    (offered : List.Forall₂ (fun visit offer => finding source destination visit = .ok offer)
      below offers) (mem : given ∈ offers.filterMap id) : Dest.IsBelow destination given.dest := by
  rcases List.mem_filterMap.mp mem with ⟨offer, offerMem, rfl⟩
  rcases exists_mem_of_forall₂ offered offerMem with ⟨⟨path, entry⟩, visitMem, found⟩
  rcases reached _ visitMem with ⟨names, proper, areNames, rfl⟩
  exact isBelow_of_join areNames proper (join_of_finding areNames found)

/-- Where a walk puts what it finds. Everything lands below the destination unless the source is
kept as a link; the source is then the first finding and stands at the destination itself, and
everything else lands below. -/
theorem collect_below_exact (tree : FileTree) (source : LocalPath) (destination : String)
    (keepLinks : Bool) (found : List Found) (wellFormed : tree.WellFormed)
    (collected : (collect tree source destination keepLinks).result = .ok found) :
    ((∀ entry ∈ found, Dest.IsBelow destination entry.dest) ↔
      ¬KeepsSource tree source keepLinks) ∧
    (KeepsSource tree source keepLinks → ∃ base target rest,
      Dest.normalize destination = .ok base ∧ found = .link base target :: rest ∧
        ∀ entry ∈ rest, Dest.IsBelow destination entry.dest) := by
  cases collect_eq_ok_iff.mp collected with
  | @single place content name dest resolved isFile named placed =>
      have isName := LocalPath.isName_of_fileName? named
      have areNames : ∀ other ∈ [name], IsName other := by simpa using isName
      have below : Dest.IsBelow destination dest :=
        isBelow_of_join areNames (by simp) placed
      have notKept : ¬KeepsSource tree source keepLinks := by
        have leads := (FileTree.hasFile_iff_of_resolve resolved).mpr ⟨content, isFile⟩
        exact fun keeps => Bool.false_ne_true (keeps.2.2.symm.trans leads)
      refine ⟨iff_of_true ?_ notKept, fun keeps => absurd keeps notKept⟩
      simpa [Found.dest] using below
  | @walked place visited offers resolved notFile walked offered =>
      rcases exists_visits_eq wellFormed walked with ⟨own, below, named, rfl, reached⟩
      cases offered with
      | @cons _ first _ later here offered =>
          have noNames : ∀ name ∈ ([] : List Bytes), IsName name := by simp
          have yields := yields_of_finding (LocalPath.relativeTo?_joinAll noNames) here
          have lands : ∀ given ∈ later.filterMap id, Dest.IsBelow destination given.dest :=
            fun given mem => isBelow_of_offered reached offered mem
          rcases reported_cases wellFormed resolved notFile named with
            ⟨keeps, target, isLink⟩ | ⟨notKept, isDirectory | isSocket⟩
          · rw [isLink] at yields
            cases yields with
            | @link _ base linked placed =>
                have normal := join_nil_eq_ok_iff.mp placed
                refine ⟨iff_of_false (fun all => ?_) (not_not_intro keeps), fun _ => ?_⟩
                · exact not_isBelow_of_normalize normal (all _ (.head _))
                · exact ⟨base, linked, _, normal, rfl, lands⟩
          · rw [isDirectory] at yields
            cases yields
            exact ⟨iff_of_true lands notKept, fun keeps => absurd keeps notKept⟩
          · rw [isSocket] at yields
            cases yields
            exact ⟨iff_of_true lands notKept, fun keeps => absurd keeps notKept⟩

section KeptSource

/-- A directory with a file, and a link to the directory beside it. -/
def linkedDirectory : FileTree :=
  ⟨[([[114]], .directory), ([[114], [97]], .file [120]), ([[115]], .link ⟨[114]⟩)], [], []⟩

theorem collect_linkedDirectory_kept :
    (collect linkedDirectory ⟨[115]⟩ "/d" true).result =
      .ok [.link "/d" "/r", .file ⟨[115, 47, 97]⟩ "/d/a"] := by
  cbv

/-- A source that is a link to a directory is published as a link at the destination itself, above
the content of the directory. -/
theorem exists_link_at_destination :
    linkedDirectory.WellFormed ∧ ∃ found,
      (collect linkedDirectory ⟨[115]⟩ "/d" true).result = .ok found ∧
        ∃ entry ∈ found, ¬Dest.IsBelow "/d" entry.dest := by
  refine ⟨by decide, _, collect_linkedDirectory_kept, _, .head _, ?_⟩
  exact not_isBelow_of_normalize (by cbv)

/-- With links followed, the same source has everything below the destination; with links kept, all
but the first finding. -/
theorem collect_below_exact_linkedDirectory :
    (∃ found, (collect linkedDirectory ⟨[115]⟩ "/d" false).result = .ok found ∧ found ≠ [] ∧
      ∀ entry ∈ found, Dest.IsBelow "/d" entry.dest) ∧
    Dest.IsBelow "/d" (Found.file ⟨[115, 47, 97]⟩ "/d/a").dest := by
  have wellFormed : linkedDirectory.WellFormed := by decide
  have followed : (collect linkedDirectory ⟨[115]⟩ "/d" false).result =
      .ok [.file ⟨[115, 47, 97]⟩ "/d/a"] := by cbv
  have isLink : linkedDirectory.linkStatus ⟨[115]⟩ = .ok (.link ⟨[114]⟩) := by cbv
  have keeps : KeepsSource linkedDirectory ⟨[115]⟩ true := ⟨rfl, ⟨_, isLink⟩, by cbv⟩
  have notKept : ¬KeepsSource linkedDirectory ⟨[115]⟩ false :=
    fun keeps => Bool.false_ne_true keeps.1
  constructor
  · refine ⟨_, followed, by simp, ?_⟩
    exact (collect_below_exact _ _ _ _ _ wellFormed followed).1.mpr notKept
  · rcases (collect_below_exact _ _ _ _ _ wellFormed collect_linkedDirectory_kept).2 keeps with
      ⟨base, target, rest, -, same, below⟩
    cases same
    exact below _ (.head _)

end KeptSource

end Walk

end CdnPublish
