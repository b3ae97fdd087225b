import CdnPublish.Proofs.Narrated.Sequences
import CdnPublish.Walk

/-!
# What a walk comes to

A walk offers what its visits offer, in order. It fails with the first visit that cannot be put
under the destination, and where all of them can, with the fault that cut the walk short. A source
that is a single file is not walked.
-/

namespace CdnPublish.Walk

variable {tree : FileTree} {source : LocalPath} {destination : String} {keepLinks : Bool}
  {walkFault : Option WalkFault} {visited : List Visit} {place : Place}

/-- What a visit comes to that is put under the destination: nothing for a directory or a socket, a
file at its path, or a link whose target is carried over. A link is read under its own path. -/
inductive Yields (source : LocalPath) (destination : String) (path relative : LocalPath) :
    FileEntry → Option Found → Prop where
  | directory : Yields source destination path relative .directory none
  | socket : Yields source destination path relative .socket none
  | file {content : Bytes} {dest : String} (placed : Dest.join destination relative = .ok dest) :
      Yields source destination path relative (.file content) (some (.file path dest))
  | link {target : LocalPath} {dest linked : String}
      (placed : Dest.join destination relative = .ok dest)
      (short : FileTree.checkLength path = .ok ())
      (carried : linkTarget source destination dest target = .ok linked) :
      Yields source destination path relative (.link target) (some (.link dest linked))

theorem yields_of_finding {path relative : LocalPath} {entry : FileEntry} {offer : Option Found}
    (below : path.relativeTo? source = some relative)
    (offered : finding source destination (path, entry) = .ok offer) :
    Yields source destination path relative entry offer := by
  unfold finding at offered
  simp only [below] at offered
  cases entry with
  | directory =>
      cases offered
      exact .directory
  | file content =>
      rcases bind_eq_ok_iff.mp offered with ⟨dest, placed, same⟩
      cases same
      exact .file (mapError_eq_ok_iff.mp placed)
  | link target =>
      rcases bind_eq_ok_iff.mp offered with ⟨dest, placed, reading⟩
      rcases bind_eq_ok_iff.mp reading with ⟨_, short, linking⟩
      rcases bind_eq_ok_iff.mp linking with ⟨linked, carried, same⟩
      cases same
      exact .link (mapError_eq_ok_iff.mp placed) (mapError_eq_ok_iff.mp short)
        (mapError_eq_ok_iff.mp carried)
  | socket =>
      rcases bind_eq_ok_iff.mp offered with ⟨dest, -, same⟩
      cases same
      exact .socket

theorem Found.result_tell (found : Found) : found.tell.result = .ok () := by
  cases found <;> rfl

theorem result_findings (source : LocalPath) (destination : String) (walkFault : Option WalkFault)
    (visited : List Visit) :
    (findings source destination walkFault visited).result =
      visited.mapM (finding source destination) >>= fun offers =>
        match walkFault with
        | none => .ok (offers.filterMap id)
        | some fault => .error (.walk fault) := by
  induction visited with
  | nil =>
      cases walkFault with
      | none => rfl
      | some fault => rfl
  | cons visit visited induction_hypothesis =>
      rw [findings, Narrated.result_bind, Narrated.result_silent, List.mapM_cons]
      cases finding source destination visit with
      | error cause => rfl
      | ok offer =>
          cases offer with
          | none =>
              change (findings source destination walkFault visited).result = _
              rw [induction_hypothesis]
              cases visited.mapM (finding source destination) with
              | error cause => rfl
              | ok offers => cases walkFault <;> rfl
          | some found =>
              change (found.tell >>= fun _ => findings source destination walkFault visited >>=
                fun later => pure (found :: later)).result = _
              rw [Narrated.result_bind, found.result_tell]
              change (findings source destination walkFault visited >>=
                fun later => pure (found :: later)).result = _
              rw [Narrated.result_bind, induction_hypothesis]
              cases visited.mapM (finding source destination) with
              | error cause => rfl
              | ok offers => cases walkFault <;> rfl

/-- A walk that comes to an end offers, in order, what its visits offer. -/
theorem findings_eq_ok_iff {found : List Found} :
    (findings source destination walkFault visited).result = .ok found ↔
      walkFault = none ∧ ∃ offers,
        List.Forall₂ (fun visit offer => finding source destination visit = .ok offer)
          visited offers ∧ found = offers.filterMap id := by
  rw [result_findings, bind_eq_ok_iff]
  simp only [mapM_eq_ok_iff]
  cases walkFault with
  | none => simp [eq_comm]
  | some fault => simp

/-- A walk fails with its first visit that fails, or else with what cut it short. -/
theorem findings_eq_error_iff {fault : LocalFault} :
    (findings source destination walkFault visited).result = .error fault ↔
      (∃ before visit after, visited = before ++ visit :: after ∧
        (∀ earlier ∈ before, ∃ offer, finding source destination earlier = .ok offer) ∧
        finding source destination visit = .error fault) ∨
      ((∀ visit ∈ visited, ∃ offer, finding source destination visit = .ok offer) ∧
        ∃ cut, walkFault = some cut ∧ fault = .walk cut) := by
  rw [result_findings, bind_eq_error_iff, ← exists_mapM_eq_ok_iff]
  simp only [mapM_eq_error_iff]
  cases walkFault with
  | none => simp
  | some cut => simp [eq_comm]

/-- The ways in which a walk fails, in the order of its steps. -/
inductive Uncollectable (tree : FileTree) (source : LocalPath) (destination : String)
    (keepLinks : Bool) : LocalFault → Prop where
  | unreachable {cause : OsFault} (unresolved : tree.resolve true source = .error cause) :
      Uncollectable tree source destination keepLinks (.unreadable source cause)
  | nameless {place : Place} {content : Bytes} (resolved : tree.resolve true source = .ok place)
      (isFile : tree.entryAt? place = some (.file content)) (unnamed : source.fileName? = none) :
      Uncollectable tree source destination keepLinks (.invalidPath ⟨source.shown, .noFileName⟩)
  | misplaced {place : Place} {content name : Bytes} {fault : InvalidPath}
      (resolved : tree.resolve true source = .ok place)
      (isFile : tree.entryAt? place = some (.file content)) (named : source.fileName? = some name)
      (refused : Dest.join destination ⟨name⟩ = .error fault) :
      Uncollectable tree source destination keepLinks (.invalidPath fault)
  | unfit {place : Place} {cut : Option WalkFault} {before after : List Visit} {visit : Visit}
      {fault : LocalFault} (resolved : tree.resolve true source = .ok place)
      (notFile : ∀ content, tree.entryAt? place ≠ some (.file content))
      (walked : visits tree (!keepLinks) source place = (before ++ visit :: after, cut))
      (fitting : ∀ earlier ∈ before, ∃ offer, finding source destination earlier = .ok offer)
      (refused : finding source destination visit = .error fault) :
      Uncollectable tree source destination keepLinks fault
  | cutShort {place : Place} {cut : WalkFault} {visited : List Visit}
      (resolved : tree.resolve true source = .ok place)
      (notFile : ∀ content, tree.entryAt? place ≠ some (.file content))
      (walked : visits tree (!keepLinks) source place = (visited, some cut))
      (fitting : ∀ visit ∈ visited, ∃ offer, finding source destination visit = .ok offer) :
      Uncollectable tree source destination keepLinks (.walk cut)

/-- What a walk comes to: the one file that its source is, or what its visits offer. -/
inductive Collects (tree : FileTree) (source : LocalPath) (destination : String)
    (keepLinks : Bool) : List Found → Prop where
  | single {place : Place} {content name : Bytes} {dest : String}
      (resolved : tree.resolve true source = .ok place)
      (isFile : tree.entryAt? place = some (.file content)) (named : source.fileName? = some name)
      (placed : Dest.join destination ⟨name⟩ = .ok dest) :
      Collects tree source destination keepLinks [.file source dest]
  | walked {place : Place} {visited : List Visit} {offers : List (Option Found)}
      (resolved : tree.resolve true source = .ok place)
      (notFile : ∀ content, tree.entryAt? place ≠ some (.file content))
      (walked : visits tree (!keepLinks) source place = (visited, none))
      (offered : List.Forall₂ (fun visit offer => finding source destination visit = .ok offer)
        visited offers) :
      Collects tree source destination keepLinks (offers.filterMap id)

theorem collect_of_file {content : Bytes} (resolved : tree.resolve true source = .ok place)
    (isFile : tree.entryAt? place = some (.file content)) :
    (collect tree source destination keepLinks).result =
      match source.fileName? with
      | none => .error (.invalidPath ⟨source.shown, .noFileName⟩)
      | some name =>
        ((Dest.join destination ⟨name⟩).mapError .invalidPath).map fun dest =>
          [.file source dest] := by
  unfold collect
  rw [resolved]
  simp only [isFile]
  cases source.fileName? with
  | none => rfl
  | some name =>
      simp only [Narrated.result_bind, Narrated.result_silent]
      cases Dest.join destination ⟨name⟩ <;> rfl

theorem collect_of_not_file (resolved : tree.resolve true source = .ok place)
    (notFile : ∀ content, tree.entryAt? place ≠ some (.file content)) :
    (collect tree source destination keepLinks).result =
      (findings source destination (visits tree (!keepLinks) source place).2
        (visits tree (!keepLinks) source place).1).result := by
  unfold collect
  rw [resolved]
  dsimp only
  split
  · rename_i content isFile
    exact absurd isFile (notFile content)
  · rfl

theorem file_or_not_file (tree : FileTree) (place : Place) :
    (∃ content, tree.entryAt? place = some (.file content)) ∨
      ∀ content, tree.entryAt? place ≠ some (.file content) := by
  by_cases isFile : ∃ content, tree.entryAt? place = some (.file content)
  · exact Or.inl isFile
  · exact Or.inr fun content same => isFile ⟨content, same⟩

theorem result_of_collects {found : List Found}
    (collects : Collects tree source destination keepLinks found) :
    (collect tree source destination keepLinks).result = .ok found := by
  cases collects with
  | single resolved isFile named placed =>
      rw [collect_of_file resolved isFile, named]
      simp only [placed]
      rfl
  | walked resolved notFile walked offered =>
      rw [collect_of_not_file resolved notFile, walked, findings_eq_ok_iff]
      exact ⟨rfl, _, offered, rfl⟩

theorem result_of_uncollectable {fault : LocalFault}
    (uncollectable : Uncollectable tree source destination keepLinks fault) :
    (collect tree source destination keepLinks).result = .error fault := by
  cases uncollectable with
  | unreachable unresolved =>
      rw [collect, unresolved]
      rfl
  | nameless resolved isFile unnamed =>
      rw [collect_of_file resolved isFile, unnamed]
  | misplaced resolved isFile named refused =>
      rw [collect_of_file resolved isFile, named]
      simp only [refused]
      rfl
  | unfit resolved notFile walked fitting refused =>
      rw [collect_of_not_file resolved notFile, walked, findings_eq_error_iff]
      exact Or.inl ⟨_, _, _, rfl, fitting, refused⟩
  | cutShort resolved notFile walked fitting =>
      rw [collect_of_not_file resolved notFile, walked, findings_eq_error_iff]
      exact Or.inr ⟨fitting, _, rfl, rfl⟩

/-- Nothing else can become of a walk. -/
theorem collects_or_uncollectable (tree : FileTree) (source : LocalPath) (destination : String)
    (keepLinks : Bool) :
    (∃ found, Collects tree source destination keepLinks found) ∨
      ∃ fault, Uncollectable tree source destination keepLinks fault := by
  cases resolved : tree.resolve true source with
  | error cause => exact Or.inr ⟨_, .unreachable resolved⟩
  | ok place =>
      rcases file_or_not_file tree place with ⟨content, isFile⟩ | notFile
      · cases named : source.fileName? with
        | none => exact Or.inr ⟨_, .nameless resolved isFile named⟩
        | some name =>
            cases placed : Dest.join destination ⟨name⟩ with
            | error refusal => exact Or.inr ⟨_, .misplaced resolved isFile named placed⟩
            | ok dest => exact Or.inl ⟨_, .single resolved isFile named placed⟩
      · cases walked : visits tree (!keepLinks) source place with
        | mk visited cut =>
            cases ended : (findings source destination cut visited).result with
            | ok found =>
                rcases findings_eq_ok_iff.mp ended with ⟨rfl, offers, offered, -⟩
                exact Or.inl ⟨_, .walked resolved notFile walked offered⟩
            | error fault =>
                rcases findings_eq_error_iff.mp ended with
                  ⟨before, visit, after, rfl, fitting, refused⟩ | ⟨fitting, cut, rfl, -⟩
                · exact Or.inr ⟨_, .unfit resolved notFile walked fitting refused⟩
                · exact Or.inr ⟨_, .cutShort resolved notFile walked fitting⟩

theorem collect_eq_ok_iff {found : List Found} :
    (collect tree source destination keepLinks).result = .ok found ↔
      Collects tree source destination keepLinks found := by
  refine ⟨fun collected => ?_, result_of_collects⟩
  rcases collects_or_uncollectable tree source destination keepLinks with
    ⟨other, collects⟩ | ⟨fault, uncollectable⟩
  · cases collected.symm.trans (result_of_collects collects)
    exact collects
  · cases collected.symm.trans (result_of_uncollectable uncollectable)

theorem collect_eq_error_iff {fault : LocalFault} :
    (collect tree source destination keepLinks).result = .error fault ↔
      Uncollectable tree source destination keepLinks fault := by
  refine ⟨fun failed => ?_, result_of_uncollectable⟩
  rcases collects_or_uncollectable tree source destination keepLinks with
    ⟨found, collects⟩ | ⟨other, uncollectable⟩
  · cases failed.symm.trans (result_of_collects collects)
  · cases failed.symm.trans (result_of_uncollectable uncollectable)
    exact uncollectable

end CdnPublish.Walk
