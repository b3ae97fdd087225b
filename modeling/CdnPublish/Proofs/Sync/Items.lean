import CdnPublish.Proofs.Sync.Planning
import CdnPublish.Proofs.Walk.Places

/-!
# The items of a plan

A plan lists what the walk found, one item for each finding, and behind that the removals that were
asked for. Each item is fit to be sent: it speaks of canonical places only, an object comes with the
file that its key is the digest of, and nothing but objects carries a content type.
-/

namespace CdnPublish

/-- An item that is fit to be sent, in a plan for this tree and this content type. -/
structure Item.IsSound (tree : FileTree) (contentType : Option String) (item : Item) : Prop where
  dest : Dest.IsSettled item.dest
  linked : ∀ target, item.target = .link target → Dest.IsSettled target
  sourced : item.source.isSome = true ↔ ∃ key, item.target = .object key
  keyed : ∀ key, item.target = .object key → ∃ path content, item.source = some path ∧
    tree.read path = .ok content ∧ key.text = String.ofList (Digest.hex (Sha256.digest content))
  typed : ∀ key, item.target = .object key → item.contentType = contentType
  untyped : (∀ key, item.target ≠ .object key) → item.contentType = none

namespace Sync

variable {tree : FileTree} {source : LocalPath} {destination path : String} {options : Options}
  {found : List Walk.Found} {items : List Item} {contentType : Option String}
  {entry : Walk.Found} {item plain : Item}

/-- An item publishes a finding: the file as an object, and the link as a link. -/
inductive Publishes : Walk.Found → Item → Prop where
  | file (path : LocalPath) (dest : String) (key : ContentKey) (contentType : Option String) :
      Publishes (.file path dest) ⟨some path, dest, .object key, contentType⟩
  | link (dest target : String) (contentType : Option String) :
      Publishes (.link dest target) ⟨none, dest, .link target, contentType⟩

/-- An item removes what stands at the normalized path. -/
def Removes (path : String) (item : Item) : Prop :=
  Dest.normalize path = .ok item.dest ∧ item.target = .absent

theorem withContentType_object (source : Option LocalPath) (dest : String) (key : ContentKey) :
    withContentType contentType ⟨source, dest, .object key, none⟩ =
      ⟨source, dest, .object key, contentType⟩ := by
  cases contentType <;> rfl

theorem withContentType_link (source : Option LocalPath) (dest target : String) :
    withContentType contentType ⟨source, dest, .link target, none⟩ =
      ⟨source, dest, .link target, none⟩ := by
  cases contentType <;> rfl

theorem publishes_of_represents (represents : Represents tree entry plain) :
    Publishes entry (withContentType contentType plain) := by
  cases represents with
  | file dest read =>
      rw [withContentType_object]
      exact .file ..
  | link dest target =>
      rw [withContentType_link]
      exact .link ..

theorem isSound_of_represents (represents : Represents tree entry plain)
    (settled : entry.IsSettled) : (withContentType contentType plain).IsSound tree contentType := by
  cases represents with
  | @file path content dest read =>
      rw [withContentType_object]
      refine ⟨settled, by simp, by simp, ?_, by simp, by simp⟩
      intro key isObject
      cases isObject
      exact ⟨path, content, rfl, read, rfl⟩
  | link dest target =>
      rw [withContentType_link]
      refine ⟨settled.1, ?_, by simp, by simp, by simp, by simp⟩
      intro shown isLink
      cases isLink
      exact settled.2

theorem isSound_of_absent (made : Item.absent path = .ok item) : item.IsSound tree contentType := by
  rcases absent_eq_ok_iff.mp made with ⟨dest, normal, rfl⟩
  exact ⟨Dest.isSettled_of_normalize normal, by simp, by simp, by simp, by simp, by simp⟩

theorem removes_of_absent (made : Item.absent path = .ok item) : Removes path item := by
  rcases absent_eq_ok_iff.mp made with ⟨dest, normal, rfl⟩
  exact ⟨normal, rfl⟩

/-- The items of a plan are those of the findings of the walk and then those of the removals, in
order, and each of them is fit to be sent. -/
theorem plan_items_sound (tree : FileTree) (source : LocalPath) (destination : String)
    (options : Options) (items : List Item)
    (planned : (plan tree source destination options).result = .ok items) :
    ∃ found published removed,
      (Walk.collect tree source destination options.keepLinks).result = .ok found ∧
      items = published ++ removed ∧
      List.Forall₂ Publishes found published ∧
      List.Forall₂ Removes options.remove removed ∧
      ∀ item ∈ items, item.IsSound tree options.contentType := by
  rcases plan_eq_ok_iff.mp planned with
    ⟨found, offered, removed, collects, represented, absent, rfl⟩
  refine ⟨found, _, removed, Walk.collect_eq_ok_iff.mpr collects, rfl, ?_, ?_, ?_⟩
  · exact List.forall₂_map_right_iff.mpr (represented.imp fun _ _ => publishes_of_represents)
  · exact absent.imp fun _ _ => removes_of_absent
  · intro item mem
    rcases List.mem_append.mp mem with isFound | isRemoval
    · rcases List.mem_map.mp isFound with ⟨plain, plainMem, rfl⟩
      rcases exists_mem_of_forall₂ represented plainMem with ⟨entry, entryMem, represents⟩
      exact isSound_of_represents represents (Walk.isSettled_of_collects collects entry entryMem)
    · rcases exists_mem_of_forall₂ absent isRemoval with ⟨path, -, made⟩
      exact isSound_of_absent made

section LinkedFile

/-- A directory with a file and a link to it. -/
def linkedFile : FileTree :=
  ⟨[([[115]], .directory), ([[115], [97]], .file [104, 105]), ([[115], [108]], .link ⟨[97]⟩)], [],
    []⟩

/-- Links are kept, a content type is given, and a path is removed. -/
def linkedOptions : Options :=
  { Options.plain with keepLinks := true, contentType := some "text/plain", remove := ["x//y/."] }

/-- What is planned for the directory. -/
def linkedItems : List Item :=
  [⟨some ⟨[47, 115, 47, 97]⟩, "/d/a", .object (.ofBytes [104, 105]), some "text/plain"⟩,
    ⟨none, "/d/l", .link "/d/a", none⟩, ⟨none, "/x/y", .absent, none⟩]

theorem plan_linkedFile :
    (plan linkedFile ⟨[47, 115]⟩ "d/" linkedOptions).result = .ok linkedItems := by
  have found : (Walk.collect linkedFile ⟨[47, 115]⟩ "d/" true).result =
      .ok [.file ⟨[47, 115, 47, 97]⟩ "/d/a", .link "/d/l" "/d/a"] := by cbv
  have removed : Item.absent "x//y/." = .ok ⟨none, "/x/y", .absent, none⟩ := by cbv
  refine plan_eq_ok_iff.mpr ⟨_, [_, _], [_], Walk.collect_eq_ok_iff.mp found,
    .cons (.file _ (by cbv)) (.cons (.link _ _) .nil), .cons removed .nil, rfl⟩

/-- A file, a link and a removal: only the file has a source and carries the content type. -/
theorem plan_items_sound_linkedFile :
    (∃ found, (Walk.collect linkedFile ⟨[47, 115]⟩ "d/" true).result = .ok found ∧
      found.length = 2) ∧
    ∀ item ∈ linkedItems, item.IsSound linkedFile (some "text/plain") := by
  rcases plan_items_sound _ _ _ _ _ plan_linkedFile with
    ⟨found, published, removed, collected, whole, publishes, removes, sound⟩
  refine ⟨⟨found, collected, ?_⟩, sound⟩
  have counts := congrArg List.length whole
  rw [List.length_append, ← publishes.length_eq, ← removes.length_eq] at counts
  simp [linkedItems, linkedOptions] at counts
  omega

end LinkedFile

end Sync

end CdnPublish
