import CdnPublish.Proofs.Walk.Findings
import CdnPublish.Sync.Plan

/-!
# Making a plan

A plan is made in three steps: the source is walked, every file found is hashed, and the paths to
remove are normalized. The first step that fails is what the plan fails with. A plan that is made
holds an item for everything found and one for every removal; its object items are those of files
that have been read.
-/

namespace CdnPublish.Sync

variable {tree : FileTree} {source : LocalPath} {destination : String} {options : Options}
  {found : List Walk.Found} {items : List Item}

/-- The ways in which a plan fails, in the order of its steps. -/
inductive Unplannable (tree : FileTree) (source : LocalPath) (destination : String)
    (options : Options) : LocalFault → Prop where
  | unwalked {fault : LocalFault}
      (uncollectable : Walk.Uncollectable tree source destination options.keepLinks fault) :
      Unplannable tree source destination options fault
  | unhashed {before after : List Walk.Found} {path : LocalPath} {dest : String} {cause : OsFault}
      (collected : Walk.Collects tree source destination options.keepLinks
        (before ++ .file path dest :: after))
      (readable : ∀ earlier earlierDest, .file earlier earlierDest ∈ before →
        ∃ content, tree.read earlier = .ok content)
      (unreadable : tree.read path = .error cause) :
      Unplannable tree source destination options (.unreadable path cause)
  | unremovable {found : List Walk.Found} {before after : List String} {path : String}
      {fault : InvalidPath}
      (collected : Walk.Collects tree source destination options.keepLinks found)
      (readable : ∀ path dest, .file path dest ∈ found →
        ∃ content, tree.read path = .ok content)
      (removals : options.remove = before ++ path :: after)
      (normal : ∀ earlier ∈ before, ∃ dest, Dest.normalize earlier = .ok dest)
      (refused : Dest.normalize path = .error fault) :
      Unplannable tree source destination options (.invalidPath fault)

/-- The item that stands for something found. -/
inductive Represents (tree : FileTree) : Walk.Found → Item → Prop where
  | file {path : LocalPath} {content : Bytes} (dest : String)
      (read : tree.read path = .ok content) :
      Represents tree (.file path dest) ⟨some path, dest, .object (.ofBytes content), none⟩
  | link (dest target : String) :
      Represents tree (.link dest target) ⟨none, dest, .link target, none⟩

theorem itemOf_eq_ok_iff {entry : Walk.Found} {item : Item} :
    (itemOf tree entry).result = .ok item ↔ Represents tree entry item := by
  cases entry with
  | file path dest =>
      rw [itemOf, Narrated.result_bind, Narrated.result_silent, bind_eq_ok_iff]
      simp only [mapError_eq_ok_iff]
      constructor
      · rintro ⟨content, read, same⟩
        cases same
        exact .file dest read
      · intro represents
        cases represents with
        | @file _ content _ read => exact ⟨content, read, rfl⟩
  | link dest target =>
      constructor
      · intro same
        cases same
        exact .link dest target
      · intro represents
        cases represents
        rfl

theorem itemOf_eq_error_iff {entry : Walk.Found} {fault : LocalFault} :
    (itemOf tree entry).result = .error fault ↔
      ∃ path dest cause, entry = .file path dest ∧ tree.read path = .error cause ∧
        fault = .unreadable path cause := by
  cases entry with
  | file path dest =>
      rw [itemOf, Narrated.result_bind, Narrated.result_silent, bind_eq_error_iff]
      simp only [mapError_eq_error_iff]
      constructor
      · rintro (⟨cause, unreadable, rfl⟩ | ⟨content, -, never⟩)
        · exact ⟨path, dest, cause, rfl, unreadable, rfl⟩
        · cases never
      · rintro ⟨_, _, cause, same, unreadable, rfl⟩
        cases same
        exact Or.inl ⟨cause, unreadable, rfl⟩
  | link dest target =>
      constructor
      · intro never
        cases never
      · rintro ⟨_, _, _, never, -⟩
        cases never

theorem exists_itemOf_iff :
    (∀ entry ∈ found, ∃ item, (itemOf tree entry).result = .ok item) ↔
      ∀ path dest, .file path dest ∈ found → ∃ content, tree.read path = .ok content := by
  simp only [itemOf_eq_ok_iff]
  constructor
  · intro each path dest mem
    rcases each _ mem with ⟨item, represents⟩
    cases represents with
    | file _ read => exact ⟨_, read⟩
  · intro readable entry mem
    cases entry with
    | file path dest =>
        rcases readable path dest mem with ⟨content, read⟩
        exact ⟨_, .file dest read⟩
    | link dest target => exact ⟨_, .link dest target⟩

theorem absent_eq_ok_iff {path : String} {item : Item} :
    Item.absent path = .ok item ↔
      ∃ dest, Dest.normalize path = .ok dest ∧ item = ⟨none, dest, .absent, none⟩ := by
  rw [Item.absent, bind_eq_ok_iff]
  constructor
  · rintro ⟨dest, normal, same⟩
    cases same
    exact ⟨dest, normal, rfl⟩
  · rintro ⟨dest, normal, rfl⟩
    exact ⟨dest, normal, rfl⟩

theorem absent_eq_error_iff {path : String} {fault : InvalidPath} :
    Item.absent path = .error fault ↔ Dest.normalize path = .error fault := by
  rw [Item.absent, bind_eq_error_iff]
  constructor
  · rintro (refused | ⟨dest, -, never⟩)
    · exact refused
    · cases never
  · exact Or.inl

/-- How a plan ends, once its narration is left out. -/
theorem result_plan (tree : FileTree) (source : LocalPath) (destination : String)
    (options : Options) :
    (plan tree source destination options).result =
      (Walk.collect tree source destination options.keepLinks).result >>= fun found =>
        (found.mapM fun entry => (itemOf tree entry).result) >>= fun items =>
          (options.remove.mapM Item.absent).mapError .invalidPath >>= fun removals =>
            .ok (items.map (withContentType options.contentType) ++ removals) := by
  simp only [plan, hashTree, Narrated.result_bind, Narrated.result_mapM, Narrated.result_silent,
    Narrated.result_forM_tell]
  cases (Walk.collect tree source destination options.keepLinks).result <;> rfl

theorem plan_eq_ok_iff :
    (plan tree source destination options).result = .ok items ↔
      ∃ found planned removals, Walk.Collects tree source destination options.keepLinks found ∧
        List.Forall₂ (Represents tree) found planned ∧
        List.Forall₂ (fun path item => Item.absent path = .ok item) options.remove removals ∧
        items = planned.map (withContentType options.contentType) ++ removals := by
  rw [result_plan]
  simp only [bind_eq_ok_iff, mapM_eq_ok_iff, mapError_eq_ok_iff, Walk.collect_eq_ok_iff,
    itemOf_eq_ok_iff]
  constructor
  · rintro ⟨found, collected, planned, represented, removals, normal, same⟩
    exact ⟨found, planned, removals, collected, represented, normal, (Except.ok.inj same).symm⟩
  · rintro ⟨found, planned, removals, collected, represented, normal, rfl⟩
    exact ⟨found, collected, planned, represented, removals, normal, rfl⟩

@[simp]
theorem withContentType_source (contentType : Option String) (item : Item) :
    (withContentType contentType item).source = item.source := by
  unfold withContentType
  split <;> rfl

@[simp]
theorem withContentType_target (contentType : Option String) (item : Item) :
    (withContentType contentType item).target = item.target := by
  unfold withContentType
  split <;> rfl

/-- An object item of a plan has the content key of the file that it comes from. -/
theorem read_of_plan {item : Item} {key : ContentKey}
    (planned : (plan tree source destination options).result = .ok items) (mem : item ∈ items)
    (isObject : item.target = .object key) :
    ∃ path content, item.source = some path ∧ tree.read path = .ok content ∧
      key = .ofBytes content := by
  rcases plan_eq_ok_iff.mp planned with ⟨found, offered, removals, -, represented, removed, rfl⟩
  rcases List.mem_append.mp mem with isFound | isRemoval
  · rcases List.mem_map.mp isFound with ⟨plain, plainMem, rfl⟩
    rw [withContentType_target] at isObject
    rcases exists_mem_of_forall₂ represented plainMem with ⟨entry, -, represents⟩
    cases represents with
    | file dest read =>
        cases isObject
        exact ⟨_, _, withContentType_source .., read, rfl⟩
    | link dest target => cases isObject
  · rcases exists_mem_of_forall₂ removed isRemoval with ⟨path, -, made⟩
    rcases absent_eq_ok_iff.mp made with ⟨dest, -, rfl⟩
    cases isObject

theorem plan_eq_error_iff {fault : LocalFault} :
    (plan tree source destination options).result = .error fault ↔
      Unplannable tree source destination options fault := by
  rw [result_plan]
  simp only [bind_eq_error_iff, mapError_eq_error_iff, mapM_eq_error_iff, Walk.collect_eq_error_iff,
    Walk.collect_eq_ok_iff, itemOf_eq_error_iff, absent_eq_error_iff, exists_itemOf_iff]
  constructor
  · rintro (uncollectable | ⟨found, collected, unhashed | ⟨planned, hashed, unremovable⟩⟩)
    · exact .unwalked uncollectable
    · rcases unhashed with ⟨before, _, after, rfl, fine, path, dest, cause, rfl, unreadable, rfl⟩
      exact .unhashed collected fine unreadable
    · have readable := exists_itemOf_iff.mp (exists_mapM_eq_ok_iff.mp ⟨planned, hashed⟩)
      rcases unremovable with ⟨refusal, refused, rfl⟩ | ⟨removals, -, never⟩
      · rcases refused with ⟨before, path, after, split, fine, refused⟩
        refine .unremovable collected readable split ?_ refused
        intro earlier mem
        rcases fine earlier mem with ⟨item, made⟩
        rcases absent_eq_ok_iff.mp made with ⟨dest, normal, -⟩
        exact ⟨dest, normal⟩
      · cases never
  · intro unplannable
    cases unplannable with
    | unwalked uncollectable => exact Or.inl uncollectable
    | unhashed collected readable unreadable =>
        refine Or.inr ⟨_, collected, Or.inl ⟨_, _, _, rfl, readable, ?_⟩⟩
        exact ⟨_, _, _, rfl, unreadable, rfl⟩
    | @unremovable found before after path fault collected readable removals normal refused =>
        rcases exists_mapM_eq_ok_iff.mpr (exists_itemOf_iff.mpr readable) with ⟨planned, hashed⟩
        refine Or.inr ⟨found, collected, Or.inr ⟨planned, hashed, Or.inl ⟨fault, ?_, rfl⟩⟩⟩
        refine ⟨before, path, after, removals, ?_, refused⟩
        intro earlier mem
        rcases normal earlier mem with ⟨dest, isNormal⟩
        exact ⟨_, absent_eq_ok_iff.mpr ⟨dest, isNormal, rfl⟩⟩

end CdnPublish.Sync
