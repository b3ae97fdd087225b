import CdnPublish.ContentKey
import CdnPublish.Dest

/-!
# Items

An item says what one destination path shall show once a publish is committed: a stored blob,
another published path, or nothing. Its record is the form in which it is sent to the gateway,
where a removal is written as a reserved word in the place of a content key.
-/

namespace CdnPublish

/-- What a destination path shows. -/
inductive Target where
  | object (key : ContentKey)
  | link (destination : String)
  | absent
  deriving DecidableEq, Repr

/-- One entry of a publish; `source` is the local file behind an object. -/
structure Item where
  source : Option LocalPath
  dest : String
  target : Target
  contentType : Option String
  deriving DecidableEq, Repr

/-- An item as the gateway reads it. -/
structure ItemRecord where
  webUri : String
  objectKey : Option String
  linkTo : Option String
  contentType : Option String
  fromDate : String
  deriving DecidableEq, Repr

namespace Item

/-- The removal of whatever a path shows. -/
def absent (path : String) : Except InvalidPath Item := do
  return ⟨none, ← Dest.normalize path, .absent, none⟩

/-- The content key of an object item. -/
def contentKey? (item : Item) : Option ContentKey :=
  match item.target with
  | .object key => some key
  | .link _ => none
  | .absent => none

/-- The word that stands for a content key in the record of a removal. -/
def absentWord : String := "absent"

/-- The record of an item, valid from the given date; only objects carry a content type. -/
def record (item : Item) (fromDate : String) : ItemRecord :=
  match item.target with
  | .object key => ⟨item.dest, some key.text, none, item.contentType, fromDate⟩
  | .link destination => ⟨item.dest, none, some destination, none, fromDate⟩
  | .absent => ⟨item.dest, some absentWord, none, none, fromDate⟩

/-- The word for a removal is not a content key. -/
theorem not_isContentKey_absentWord : ¬ IsContentKey absentWord := by decide

end Item

end CdnPublish
