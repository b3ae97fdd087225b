import CdnPublish.Proofs.Walk.Destinations
import CdnPublish.Proofs.Walk.Enumeration

/-!
# A walk finds everything once, in order

A walk of a directory that comes to its end has a finding for every file and every link below the
directory, and none else. Each is found under the names that lead to it, and these increase from one
finding to the next. With links kept, names lead only to what is below the directory itself; with
links followed, they lead wherever the system follows them to, and then no link is left to find.
-/

namespace CdnPublish.Walk

open FileTree (Leads)
open LocalPath (IsName slash)

variable {tree : FileTree} {source : LocalPath} {destination : String} {keepLinks : Bool}
  {place : Place} {names : List Bytes} {entry : FileEntry} {given : Found}

/-- Names lead to an entry below a source: with links kept, to what stands there itself, and
otherwise to what stands where the links lead to, however many there are. -/
def StandsBelow (tree : FileTree) (source : LocalPath) (keepLinks : Bool) (names : List Bytes)
    (entry : FileEntry) : Prop :=
  names ≠ [] ∧ (∀ name ∈ names, IsName name) ∧ ∃ place, tree.resolve true source = .ok place ∧
    match keepLinks with
    | true => tree.entryAt? (place ++ names) = some entry
    | false => ∃ result, Leads tree place names result ∧ tree.entryAt? result = some entry

/-- The finding for an entry below a source: its destination is that of its names, a file is found
at its path, and the target of a link is carried over to the destination tree. -/
inductive PublishedAs (source : LocalPath) (destination : String) (names : List Bytes) :
    FileEntry → Found → Prop where
  | file {content : Bytes} {dest : String}
      (placed : Dest.join destination ⟨Text.glue slash names⟩ = .ok dest) :
      PublishedAs source destination names (.file content) (.file (source.joinAll names) dest)
  | link {target : LocalPath} {dest linked : String}
      (placed : Dest.join destination ⟨Text.glue slash names⟩ = .ok dest)
      (carried : linkTarget source destination dest target = .ok linked) :
      PublishedAs source destination names (.link target) (.link dest linked)

/-- The findings for exactly the files and links below a source, under the names that lead to them
and in the order of these names. -/
structure Catalogues (tree : FileTree) (source : LocalPath) (destination : String)
    (keepLinks : Bool) (placed : List (List Bytes × Found)) : Prop where
  ordered : (placed.map Prod.fst).Pairwise (· < ·)
  sound : ∀ names given, (names, given) ∈ placed →
    ∃ entry, StandsBelow tree source keepLinks names entry ∧
      PublishedAs source destination names entry given
  complete : ∀ names entry, StandsBelow tree source keepLinks names entry →
    (∃ content, entry = .file content) ∨ (∃ target, entry = .link target) →
    ∃ given, (names, given) ∈ placed ∧ PublishedAs source destination names entry given
  unlinked : keepLinks = false → ∀ names given, (names, given) ∈ placed →
    ∃ dest, given = .file (source.joinAll names) dest

theorem standsBelow_iff (storable : tree.IsStorable)
    (resolved : tree.resolve true source = .ok place) :
    StandsBelow tree source keepLinks names entry ↔
      LeadsBelow tree (!keepLinks) place names entry := by
  simp only [StandsBelow, resolved, Except.ok.injEq, exists_eq_left']
  cases keepLinks with
  | true =>
      constructor
      · rintro ⟨proper, -, stands⟩
        exact ⟨proper, _, reaches_of_below storable.1 stands, stands⟩
      · rintro ⟨proper, result, reaches, stands⟩
        cases reaches_kept reaches
        exact ⟨proper, reaches.areNames, stands⟩
  | false =>
      constructor
      · rintro ⟨proper, areNames, result, leads, stands⟩
        exact ⟨proper, result, reaches_followed_iff.mpr ⟨areNames, leads⟩, stands⟩
      · rintro ⟨proper, result, reaches, stands⟩
        rcases reaches_followed_iff.mp reaches with ⟨areNames, leads⟩
        exact ⟨proper, areNames, result, leads, stands⟩

theorem publishedAs_of_finding (areNames : ∀ name ∈ names, IsName name)
    (offered : finding source destination (source.joinAll names, entry) = .ok (some given)) :
    PublishedAs source destination names entry given := by
  cases yields_of_finding (LocalPath.relativeTo?_joinAll areNames) offered with
  | file placed => exact .file placed
  | link placed short carried => exact .link placed carried

/-- A file or a link offers something. -/
theorem finding_ne_none (areNames : ∀ name ∈ names, IsName name)
    (counts : (∃ content, entry = .file content) ∨ ∃ target, entry = .link target) :
    finding source destination (source.joinAll names, entry) ≠ .ok none := by
  intro offered
  cases yields_of_finding (LocalPath.relativeTo?_joinAll areNames) offered with
  | directory => simp at counts
  | socket => simp at counts

/-- What a list of entries offers, kept with the names of the entries. -/
theorem exists_placed {listing : List Listed} {offers : List (Option Found)}
    (offered : List.Forall₂
      (fun listed offer => finding source destination (listed.visit source) = .ok offer)
      listing offers) :
    ∃ placed : List (List Bytes × Found), offers.filterMap id = placed.map Prod.snd ∧
      (placed.map Prod.fst).Sublist (listing.map Prod.fst) ∧
      (∀ names given, (names, given) ∈ placed → ∃ entry, (names, entry) ∈ listing ∧
        finding source destination (source.joinAll names, entry) = .ok (some given)) ∧
      ∀ names entry, (names, entry) ∈ listing →
        finding source destination (source.joinAll names, entry) ≠ .ok none →
        ∃ given, (names, given) ∈ placed ∧
          finding source destination (source.joinAll names, entry) = .ok (some given) := by
  induction offered with
  | nil => exact ⟨[], by simp⟩
  | @cons listed offer listing offers here later induction_hypothesis =>
      rcases listed with ⟨names, entry⟩
      rcases induction_hypothesis with ⟨placed, same, sublist, sound, complete⟩
      cases offer with
      | none =>
          refine ⟨placed, same, sublist.cons names, ?_, ?_⟩
          · intro others given mem
            rcases sound others given mem with ⟨own, isListed, gives⟩
            exact ⟨own, List.mem_cons_of_mem _ isListed, gives⟩
          · intro others own mem something
            rcases List.mem_cons.mp mem with first | isListed
            · cases first
              exact absurd here something
            · exact complete others own isListed something
      | some given =>
          refine ⟨(names, given) :: placed, congrArg (given :: ·) same,
            sublist.cons_cons names, ?_, ?_⟩
          · intro others also mem
            rcases List.mem_cons.mp mem with first | isPlaced
            · cases first
              exact ⟨entry, List.mem_cons_self, here⟩
            · rcases sound others also isPlaced with ⟨own, isListed, gives⟩
              exact ⟨own, List.mem_cons_of_mem _ isListed, gives⟩
          · intro others own mem something
            rcases List.mem_cons.mp mem with first | isListed
            · cases first
              exact ⟨given, List.mem_cons_self, here⟩
            · rcases complete others own isListed something with ⟨also, isPlaced, gives⟩
              exact ⟨also, List.mem_cons_of_mem _ isPlaced, gives⟩

/-- A walk of a directory visits the directory itself and then reports what is below it. -/
theorem reports_visits {followLinks : Bool} {visited : List Visit} (storable : tree.IsStorable)
    (real : tree.linkStatus source = .ok .directory)
    (resolved : tree.resolve true source = .ok place)
    (walked : visits tree followLinks source place = (visited, none)) :
    ∃ below, visited = (source, .directory) :: below ∧
      Reports source (LeadsBelow tree followLinks place) below := by
  have stands := FileTree.entryAt?_of_linkStatus real (by simp) resolved
  have inside : tree.isDirectoryAt place = true := FileTree.isDirectoryAt_iff.mpr stands
  have located : Ancestor.IsLocated tree ⟨source, place⟩ :=
    ⟨FileTree.pathLeads_of_resolve resolved, inside⟩
  cases below : visitsBelow tree followLinks (depthBound tree) ⟨source, place⟩ [] with
  | mk entries cut =>
      have own : (if followLinks then (tree.entryAt? place).getD .directory else .directory) =
          FileEntry.directory := by
        simp [stands]
      simp only [visits, real, inside, if_true, below, own] at walked
      cases walked
      exact ⟨entries, rfl, reports_visitsBelow storable located (room_lt_depthBound _ _ _) below⟩

/-- With links followed, names never lead to a link. -/
theorem not_link_of_followed (wellFormed : tree.WellFormed)
    (stands : StandsBelow tree source false names entry) (target : LocalPath) :
    entry ≠ .link target := by
  rcases stands with ⟨-, -, place, resolved, result, ⟨links, resolves⟩, stands⟩
  have start := wellFormed.isSolid_of_resolve resolved
  rcases resolves.isSolid wellFormed start with ⟨own, isThere, solid⟩
  cases isThere.symm.trans stands
  exact solid target

theorem catalogues_of_enumerates {listing : List Listed} {placed : List (List Bytes × Found)}
    (storable : tree.IsStorable) (resolved : tree.resolve true source = .ok place)
    (enumerates : Enumerates (LeadsBelow tree (!keepLinks) place) listing)
    (sublist : (placed.map Prod.fst).Sublist (listing.map Prod.fst))
    (sound : ∀ names given, (names, given) ∈ placed → ∃ entry, (names, entry) ∈ listing ∧
      finding source destination (source.joinAll names, entry) = .ok (some given))
    (complete : ∀ names entry, (names, entry) ∈ listing →
      finding source destination (source.joinAll names, entry) ≠ .ok none →
      ∃ given, (names, given) ∈ placed ∧
        finding source destination (source.joinAll names, entry) = .ok (some given)) :
    Catalogues tree source destination keepLinks placed := by
  have listed : ∀ names entry, (names, entry) ∈ listing ↔
      StandsBelow tree source keepLinks names entry := by
    intro names entry
    rw [enumerates.exact, standsBelow_iff storable resolved]
  have published : ∀ names given, (names, given) ∈ placed →
      ∃ entry, StandsBelow tree source keepLinks names entry ∧
        PublishedAs source destination names entry given := by
    intro names given isPlaced
    rcases sound names given isPlaced with ⟨entry, isListed, offered⟩
    have stands := (listed names entry).mp isListed
    exact ⟨entry, stands, publishedAs_of_finding stands.2.1 offered⟩
  refine ⟨enumerates.ordered.sublist sublist, published, ?_, ?_⟩
  · intro names entry stands counts
    have something : finding source destination (source.joinAll names, entry) ≠ .ok none :=
      finding_ne_none stands.2.1 counts
    rcases complete names entry ((listed names entry).mpr stands) something with
      ⟨given, isPlaced, offered⟩
    exact ⟨given, isPlaced, publishedAs_of_finding stands.2.1 offered⟩
  · rintro rfl names given isPlaced
    rcases published names given isPlaced with ⟨entry, stands, publishedAs⟩
    cases publishedAs with
    | file placed => exact ⟨_, rfl⟩
    | link placed carried => exact absurd rfl (not_link_of_followed storable.1 stands _)

/-- A walk of a directory that comes to its end has found every file and every link below it, each
once, and nothing else, in strictly increasing order of the names that lead there. -/
theorem collect_catalogues (tree : FileTree) (source : LocalPath) (destination : String)
    (keepLinks : Bool) (found : List Found) (storable : tree.IsStorable)
    (real : tree.linkStatus source = .ok .directory)
    (collected : (collect tree source destination keepLinks).result = .ok found) :
    ∃ placed, found = placed.map Prod.snd ∧
      Catalogues tree source destination keepLinks placed := by
  cases collect_eq_ok_iff.mp collected with
  | single resolved isFile =>
      have stands := FileTree.entryAt?_of_linkStatus real (by simp) resolved
      cases isFile.symm.trans stands
  | @walked place visited offers resolved notFile walked offered =>
      rcases reports_visits storable real resolved walked with
        ⟨_, rfl, listing, rfl, enumerates⟩
      cases offered with
      | cons first rest =>
          cases first
          rcases exists_placed (List.forall₂_map_left_iff.mp rest) with
            ⟨placed, found, sublist, sound, complete⟩
          exact ⟨placed, found,
            catalogues_of_enumerates storable resolved enumerates sublist sound complete⟩

/-- A directory with a file whose name extends that of a directory beside it, and a link to that
directory; its entries are in no order. -/
def siblings : FileTree :=
  ⟨[([[115]], .directory), ([[115], [97, 46, 116]], .file [120]), ([[115], [108]], .link ⟨[97]⟩),
    ([[115], [97]], .directory), ([[115], [97], [122]], .file [121]),
    ([[115], [97], [113]], .socket)], [], []⟩

theorem collect_siblings_kept :
    (collect siblings ⟨[47, 115]⟩ "/d" true).result =
      .ok [.file ⟨[47, 115, 47, 97, 47, 122]⟩ "/d/a/z", .file ⟨[47, 115, 47, 97, 46, 116]⟩ "/d/a.t",
        .link "/d/l" "/d/a"] := by
  cbv

theorem collect_siblings_followed :
    (collect siblings ⟨[47, 115]⟩ "/d" false).result =
      .ok [.file ⟨[47, 115, 47, 97, 47, 122]⟩ "/d/a/z", .file ⟨[47, 115, 47, 97, 46, 116]⟩ "/d/a.t",
        .file ⟨[47, 115, 47, 108, 47, 122]⟩ "/d/l/z"] := by
  cbv

/-- With links kept, the file in the directory comes before the file whose name extends that of the
directory, and the link is found as a link; with links followed, the file is found behind the link
once more. -/
theorem collect_catalogues_siblings :
    siblings.IsStorable ∧ siblings.linkStatus ⟨[47, 115]⟩ = .ok .directory ∧
    (∃ placed, [.file ⟨[47, 115, 47, 97, 47, 122]⟩ "/d/a/z",
        .file ⟨[47, 115, 47, 97, 46, 116]⟩ "/d/a.t", .link "/d/l" "/d/a"] =
          placed.map Prod.snd ∧ Catalogues siblings ⟨[47, 115]⟩ "/d" true placed) ∧
    ∃ placed, [.file ⟨[47, 115, 47, 97, 47, 122]⟩ "/d/a/z",
        .file ⟨[47, 115, 47, 97, 46, 116]⟩ "/d/a.t", .file ⟨[47, 115, 47, 108, 47, 122]⟩ "/d/l/z"] =
          placed.map Prod.snd ∧ Catalogues siblings ⟨[47, 115]⟩ "/d" false placed := by
  have storable : siblings.IsStorable := by decide
  have real : siblings.linkStatus ⟨[47, 115]⟩ = .ok .directory := by cbv
  exact ⟨storable, real,
    collect_catalogues _ _ _ _ _ storable real collect_siblings_kept,
    collect_catalogues _ _ _ _ _ storable real collect_siblings_followed⟩

end CdnPublish.Walk
