/-!
# Content keys

A blob is stored under the lower-case hexadecimal form of its SHA-256 digest. A `ContentKey`
carries the proof that its text has that form, so that no other text, in particular not the word
that marks a removal, can ever be taken for a key.
-/

namespace CdnPublish

/-- A lower-case hexadecimal digit. -/
def isLowerHexDigit (character : Char) : Bool :=
  character.isDigit || ('a' ≤ character && character ≤ 'f')

/-- The form of a content key: sixty-four lower-case hexadecimal digits. -/
def IsContentKey (text : String) : Prop :=
  text.toList.length = 64 ∧ text.toList.all isLowerHexDigit = true

instance (text : String) : Decidable (IsContentKey text) :=
  inferInstanceAs (Decidable (_ ∧ _))

/-- The name of a blob. -/
structure ContentKey where
  text : String
  valid : IsContentKey text
  deriving DecidableEq

namespace ContentKey

/-- The key written as this text. -/
def parse? (text : String) : Option ContentKey :=
  if valid : IsContentKey text then some ⟨text, valid⟩ else none

instance : Repr ContentKey := ⟨fun key _ => repr key.text⟩

/-- Reading a key back from its text gives the key. -/
@[simp] theorem parse?_text (key : ContentKey) : parse? key.text = some key := by
  simp [parse?, key.valid]

/-- Only texts of the right form are keys, and a key keeps its text. -/
theorem parse?_eq_some_iff {text : String} {key : ContentKey} :
    parse? text = some key ↔ key.text = text := by
  constructor
  · intro parsed
    unfold parse? at parsed
    split at parsed
    · simp at parsed
      simp [← parsed]
    · simp at parsed
  · rintro rfl
    exact parse?_text key

end ContentKey

end CdnPublish
