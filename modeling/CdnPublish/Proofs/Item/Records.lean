import CdnPublish.Digest
import CdnPublish.Proofs.Narrated.Sequences
import CdnPublish.Proofs.Wire.RoundTrip

/-!
# Records are unambiguous

A removal is written in the place of a content key, so a record says what it is about only because
no content key is the word for a removal. A reader that knows the word gets the target of an item
back from its record. Two items with one record therefore show the same at one path, and differ at
most in what no record holds: the local file, and the content type of an item that is not an object.
The same goes for the texts that are sent, from which the records are read back.
-/

namespace CdnPublish

open CdnPublish.Json (Tree)

theorem ContentKey.text_ne_absentWord (key : ContentKey) : key.text ≠ Item.absentWord := by
  intro same
  exact Item.not_isContentKey_absentWord (same ▸ key.valid)

namespace ItemRecord

/-- The target that a record is about: either what stands in the place of a content key, be it one
or the word for a removal, or the destination of a link. -/
def target? (record : ItemRecord) : Option Target :=
  match record.objectKey, record.linkTo with
  | some word, none =>
    if word = Item.absentWord then some .absent else (ContentKey.parse? word).map .object
  | none, some destination => some (.link destination)
  | _, _ => none

/-- Records with the same text are the same. -/
theorem render_inj {record other : ItemRecord} :
    record.toJson.render = other.toJson.render ↔ record = other := by
  constructor
  · intro same
    have read := record.ofTree?_render
    rw [same, other.ofTree?_render] at read
    exact (Option.some.inj read).symm
  · rintro rfl
    rfl

end ItemRecord

namespace Item

variable {item first second : Item} {date : String}

@[simp] theorem webUri_record : (item.record date).webUri = item.dest := by
  rcases item with ⟨source, dest, _ | _ | _, contentType⟩ <;> rfl

/-- The target of an item is read back from its record. -/
theorem target?_record : (item.record date).target? = some item.target := by
  rcases item with ⟨source, dest, target, contentType⟩
  cases target with
  | object key => simp [record, ItemRecord.target?, key.text_ne_absentWord]
  | link destination => rfl
  | absent => simp [record, ItemRecord.target?]

theorem contentType_record_of_object {key : ContentKey} (isObject : item.target = .object key) :
    (item.record date).contentType = item.contentType := by
  simp [record, isObject]

theorem object_of_contentType_record {contentType : String}
    (typed : (item.record date).contentType = some contentType) :
    ∃ key, item.target = .object key := by
  rcases item with ⟨source, dest, target, _⟩
  cases target with
  | object key => exact ⟨key, rfl⟩
  | link destination => cases typed
  | absent => cases typed

/-- Two items have one record just if they show the same at the same path, objects with the same
content type. -/
theorem record_eq_iff : first.record date = second.record date ↔
    first.dest = second.dest ∧ first.target = second.target ∧
      ∀ key, first.target = .object key → first.contentType = second.contentType := by
  constructor
  · intro same
    have sameDest : first.dest = second.dest := by
      simpa using congrArg ItemRecord.webUri same
    have sameTarget : first.target = second.target := by
      simpa [target?_record] using congrArg ItemRecord.target? same
    refine ⟨sameDest, sameTarget, ?_⟩
    intro key isObject
    calc first.contentType
      _ = (first.record date).contentType := (contentType_record_of_object isObject).symm
      _ = (second.record date).contentType := congrArg ItemRecord.contentType same
      _ = second.contentType := contentType_record_of_object (sameTarget ▸ isObject)
  · rcases first with ⟨source, dest, target, contentType⟩
    rcases second with ⟨otherSource, otherDest, otherTarget, otherType⟩
    rintro ⟨sameDest, sameTarget, sameType⟩
    obtain rfl : dest = otherDest := sameDest
    obtain rfl : target = otherTarget := sameTarget
    cases target with
    | object key =>
        obtain rfl : contentType = otherType := sameType key rfl
        rfl
    | link destination => rfl
    | absent => rfl

/-- A record has either something in the place of a content key or the destination of a link. -/
theorem objectKey_or_linkTo (item : Item) (date : String) :
    (∃ word, (item.record date).objectKey = some word ∧ (item.record date).linkTo = none) ∨
    (∃ destination, (item.record date).objectKey = none ∧
      (item.record date).linkTo = some destination) := by
  rcases item with ⟨source, dest, target, contentType⟩
  cases target with
  | object key => exact .inl ⟨key.text, rfl, rfl⟩
  | link destination => exact .inr ⟨destination, rfl, rfl⟩
  | absent => exact .inl ⟨absentWord, rfl, rfl⟩

theorem target_of_absent {path : String} {removal : Item} (made : Item.absent path = .ok removal) :
    removal.target = .absent := by
  rcases bind_eq_ok_iff.mp made with ⟨dest, -, rest⟩
  cases rest
  rfl

/-- Only a removal has the record of a removal. -/
theorem record_eq_absent_iff {path : String} {removal : Item}
    (made : Item.absent path = .ok removal) :
    item.record date = removal.record date ↔ item.dest = removal.dest ∧ item.target = .absent := by
  have removed : removal.target = .absent := target_of_absent made
  rw [record_eq_iff, removed]
  constructor
  · rintro ⟨sameDest, isAbsent, -⟩
    exact ⟨sameDest, isAbsent⟩
  · rintro ⟨sameDest, isAbsent⟩
    refine ⟨sameDest, isAbsent, ?_⟩
    intro key isObject
    rw [isAbsent] at isObject
    cases isObject

/-- The local file behind an item never gets into its record. -/
theorem record_withSource (item : Item) (source : Option LocalPath) (date : String) :
    { item with source := source }.record date = item.record date := by
  rcases item with ⟨_, dest, _ | _ | _, contentType⟩ <;> rfl

/-- What a record, and the text it is sent as, says about an item, and what it does not. -/
theorem record_unambiguous (first second : Item) (date : String) :
    (first.record date = second.record date ↔
      first.dest = second.dest ∧ first.target = second.target ∧
        ∀ key, first.target = .object key → first.contentType = second.contentType) ∧
    ((first.record date).toJson.render = (second.record date).toJson.render ↔
      first.record date = second.record date) ∧
    ((∃ word, (first.record date).objectKey = some word ∧ (first.record date).linkTo = none) ∨
      (∃ destination, (first.record date).objectKey = none ∧
        (first.record date).linkTo = some destination)) ∧
    (∀ contentType, (first.record date).contentType = some contentType →
      ∃ key, first.target = .object key) ∧
    (∀ path removal, Item.absent path = .ok removal →
      (first.record date = removal.record date ↔
        first.dest = removal.dest ∧ first.target = .absent)) ∧
    (∀ source, { first with source := source }.record date = first.record date) := by
  refine ⟨record_eq_iff, ItemRecord.render_inj, objectKey_or_linkTo first date, ?_, ?_, ?_⟩
  · intro contentType typed
    exact object_of_contentType_record typed
  · intro path removal made
    exact record_eq_absent_iff made
  · intro source
    exact record_withSource first source date

/-- A blob of zeros at a path that is also removed: the two records differ. -/
theorem record_unambiguous_zeros :
    Item.absent "gone//old.iso" = .ok ⟨none, "/gone/old.iso", .absent, none⟩ ∧
    Item.record ⟨none, "/gone/old.iso", .object (.ofDigest (.replicate 32 0) rfl), none⟩ "d" ≠
      Item.record ⟨none, "/gone/old.iso", .absent, none⟩ "d" := by
  have removal : Item.absent "gone//old.iso" = .ok ⟨none, "/gone/old.iso", .absent, none⟩ := by
    decide +kernel
  have only := (record_unambiguous
    ⟨none, "/gone/old.iso", .object (.ofDigest (.replicate 32 0) rfl), none⟩
    ⟨none, "/gone/old.iso", .absent, none⟩ "d").2.2.2.2.1 "gone//old.iso" _ removal
  refine ⟨removal, ?_⟩
  intro same
  cases (only.mp same).2

end Item

end CdnPublish
