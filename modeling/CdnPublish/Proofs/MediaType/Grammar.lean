import CdnPublish.MediaType
import CdnPublish.Proofs.Text.Cut
import Mathlib

/-!
# The grammar of media types

A media type is put together from its parts: a kind, a subtype, perhaps a suffix and perhaps a
parameter. No part holds a separator that stands before or behind it, so cutting at the first
separators takes the text apart into just these parts, and reading accepts exactly the texts that
can be put together.
-/

namespace CdnPublish.MediaType

/-- A letter or a digit of ASCII, an underscore or a hyphen. -/
def IsTokenCharacter (character : Char) : Prop :=
  ('A' ≤ character ∧ character ≤ 'Z') ∨ ('a' ≤ character ∧ character ≤ 'z') ∨
    ('0' ≤ character ∧ character ≤ '9') ∨ character = '_' ∨ character = '-'

instance (character : Char) : Decidable (IsTokenCharacter character) :=
  inferInstanceAs (Decidable (_ ∨ _))

/-- A nonempty text of such characters. -/
def IsToken (text : List Char) : Prop :=
  text ≠ [] ∧ ∀ character ∈ text, IsTokenCharacter character

/-- A nonempty text of such characters and dots. -/
def IsSubtype (text : List Char) : Prop :=
  text ≠ [] ∧ ∀ character ∈ text, IsTokenCharacter character ∨ character = '.'

/-- A suffix is a token or empty. -/
def IsSuffix (text : List Char) : Prop :=
  text = [] ∨ IsToken text

/-- The parts of a media type. -/
@[ext]
structure Parts where
  kind : List Char
  subtype : List Char
  /-- What stands behind the plus sign, if there is one. -/
  suffix : Option (List Char)
  /-- The name and the value behind the semicolon, if there is one. -/
  parameter : Option (List Char × List Char)
  isToken_kind : IsToken kind
  isSubtype_subtype : IsSubtype subtype
  isSuffix_suffix : ∀ word ∈ suffix, IsSuffix word
  isToken_parameter : ∀ pair ∈ parameter, IsToken pair.1 ∧ IsToken pair.2

/-- The media type up to its parameter. -/
def Parts.essence (parts : Parts) : List Char :=
  parts.kind ++ '/' :: Text.attach '+' parts.subtype parts.suffix

/-- The text that the parts are put together to. -/
def Parts.text (parts : Parts) : List Char :=
  Text.attach ';' parts.essence (parts.parameter.map fun pair => pair.1 ++ '=' :: pair.2)

variable {text : List Char} {separator : Char}

theorem isTokenChar_iff (character : Char) :
    isTokenChar character = true ↔ IsTokenCharacter character := by
  simp [isTokenChar, IsTokenCharacter, Char.isAlphanum, Char.isAlpha, Char.isUpper, Char.isLower,
    Char.isDigit, Char.le_def, or_assoc]

theorem isSubtypeChar_iff (character : Char) :
    isSubtypeChar character = true ↔ IsTokenCharacter character ∨ character = '.' := by
  simp [isSubtypeChar, isTokenChar_iff]

theorem isToken_iff : isToken text = true ↔ IsToken text := by
  simp [isToken, IsToken, isTokenChar_iff]

theorem isSubtype_iff : isSubtype text = true ↔ IsSubtype text := by
  simp [isSubtype, IsSubtype, isSubtypeChar_iff]

theorem all_isTokenChar_iff : text.all isTokenChar = true ↔ IsSuffix text := by
  by_cases empty : text = []
  · simp [empty, IsSuffix]
  · simp [empty, IsSuffix, IsToken, isTokenChar_iff]

theorem IsToken.not_mem (token : IsToken text) (outside : ¬IsTokenCharacter separator) :
    separator ∉ text :=
  fun mem => outside (token.2 separator mem)

theorem IsSubtype.not_mem (named : IsSubtype text)
    (outside : ¬(IsTokenCharacter separator ∨ separator = '.')) : separator ∉ text :=
  fun mem => outside (named.2 separator mem)

theorem IsSuffix.not_mem (suffixed : IsSuffix text) (outside : ¬IsTokenCharacter separator) :
    separator ∉ text := by
  rcases suffixed with rfl | token
  · exact List.not_mem_nil
  · exact token.not_mem outside

section Reading

variable {kind subtype name value rest essence : List Char} {suffix parameter : Option (List Char)}

theorem isSubtypeAndSuffix_attach (whole : '+' ∉ subtype) :
    isSubtypeAndSuffix (Text.attach '+' subtype suffix) = true ↔
      IsSubtype subtype ∧ ∀ word ∈ suffix, IsSuffix word := by
  rw [isSubtypeAndSuffix, Text.cut_attach whole]
  cases suffix with
  | none => simp [Text.attach, isSubtype_iff]
  | some word => simp [isSubtype_iff, ← all_isTokenChar_iff]

theorem isParameter_attach (whole : '=' ∉ name) :
    isParameter (Text.attach '=' name parameter) = true ↔
      ∃ value, parameter = some value ∧ IsToken name ∧ IsToken value := by
  rw [isParameter, Text.cut_attach whole]
  cases parameter <;> simp [isToken_iff]

theorem isEssence_attach (whole : '/' ∉ kind) :
    isEssence (Text.attach '/' kind suffix) = true ↔
      ∃ rest, suffix = some rest ∧ IsToken kind ∧ isSubtypeAndSuffix rest = true := by
  rw [isEssence, Text.cut_attach whole]
  cases suffix <;> simp [isToken_iff]

theorem isValid_attach (whole : ';' ∉ essence) :
    isValid (Text.attach ';' essence parameter) = true ↔
      isEssence essence = true ∧ ∀ text ∈ parameter, isParameter text = true := by
  rw [isValid, Text.cut_attach whole]
  cases parameter <;> simp [Text.attach]

end Reading

theorem isParameter_iff :
    isParameter text = true ↔
      ∃ name value, IsToken name ∧ IsToken value ∧ text = name ++ '=' :: value := by
  constructor
  · intro accepted
    rcases Text.exists_eq_attach '=' text with ⟨name, behind, rfl, whole⟩
    rcases (isParameter_attach whole).mp accepted with ⟨value, rfl, isName, isValue⟩
    exact ⟨name, value, isName, isValue, rfl⟩
  · rintro ⟨name, value, isName, isValue, rfl⟩
    exact (isParameter_attach (isName.not_mem (by decide))).mpr ⟨value, rfl, isName, isValue⟩

namespace Parts

theorem essence_eq (parts : Parts) :
    parts.essence =
      Text.attach '/' parts.kind (some (Text.attach '+' parts.subtype parts.suffix)) := rfl

/-- No semicolon stands before the parameter. -/
theorem not_mem_essence (parts : Parts) : ';' ∉ parts.essence := by
  rw [essence_eq]
  simp only [Text.mem_attach_iff, Option.mem_some_iff, exists_eq_left']
  rintro (inKind | isSlash | inSubtype | ⟨word, mem, isPlus | inSuffix⟩)
  · exact parts.isToken_kind.not_mem (by decide) inKind
  · cases isSlash
  · exact parts.isSubtype_subtype.not_mem (by decide) inSubtype
  · cases isPlus
  · exact (parts.isSuffix_suffix word mem).not_mem (by decide) inSuffix

/-- What is put together from parts is accepted. -/
theorem isValid_text (parts : Parts) : isValid parts.text = true := by
  apply (isValid_attach parts.not_mem_essence).mpr
  constructor
  · rw [essence_eq]
    apply (isEssence_attach (parts.isToken_kind.not_mem (by decide))).mpr
    refine ⟨_, rfl, parts.isToken_kind, ?_⟩
    apply (isSubtypeAndSuffix_attach (parts.isSubtype_subtype.not_mem (by decide))).mpr
    exact ⟨parts.isSubtype_subtype, parts.isSuffix_suffix⟩
  · intro text mem
    rcases Option.map_eq_some_iff.mp mem with ⟨pair, isPair, rfl⟩
    rcases parts.isToken_parameter pair isPair with ⟨isName, isValue⟩
    exact isParameter_iff.mpr ⟨pair.1, pair.2, isName, isValue, rfl⟩

/-- What is accepted can be taken apart, at the first separators. -/
theorem exists_text_eq (accepted : isValid text = true) : ∃ parts : Parts, parts.text = text := by
  rcases Text.exists_eq_attach ';' text with ⟨essence, parameter, rfl, whole⟩
  rcases (isValid_attach whole).mp accepted with ⟨isEssence, isParameter⟩
  rcases Text.exists_eq_attach '/' essence with ⟨kind, behind, rfl, kindWhole⟩
  rcases (isEssence_attach kindWhole).mp isEssence with ⟨rest, rfl, isKind, readRest⟩
  rcases Text.exists_eq_attach '+' rest with ⟨subtype, suffix, rfl, subtypeWhole⟩
  rcases (isSubtypeAndSuffix_attach subtypeWhole).mp readRest with ⟨isSubtype, isSuffix⟩
  cases parameter with
  | none => exact ⟨⟨kind, subtype, suffix, none, isKind, isSubtype, isSuffix, by simp⟩, rfl⟩
  | some text =>
      rcases isParameter_iff.mp (isParameter text rfl) with ⟨name, value, isName, isValue, rfl⟩
      refine ⟨⟨kind, subtype, suffix, some (name, value), isKind, isSubtype, isSuffix, ?_⟩, rfl⟩
      rintro _ ⟨⟩
      exact ⟨isName, isValue⟩

/-- The text of a parameter shows its name and its value. -/
theorem parameter_inj {parts other : Parts}
    (same : parts.parameter.map (fun pair => pair.1 ++ '=' :: pair.2) =
      other.parameter.map fun pair => pair.1 ++ '=' :: pair.2) :
    parts.parameter = other.parameter := by
  cases own : parts.parameter with
  | none =>
      rw [own] at same
      exact (Option.map_eq_none_iff.mp same.symm).symm
  | some pair =>
      rw [own] at same
      rcases Option.map_eq_some_iff.mp same.symm with ⟨otherPair, others, spelled⟩
      have whole : '=' ∉ pair.1 := (parts.isToken_parameter pair own).1.not_mem (by decide)
      have otherWhole : '=' ∉ otherPair.1 :=
        (other.isToken_parameter otherPair others).1.not_mem (by decide)
      have attached : Text.attach '=' otherPair.1 (some otherPair.2) =
          Text.attach '=' pair.1 (some pair.2) := spelled
      rcases (Text.attach_inj otherWhole whole).mp attached with ⟨sameName, sameValue⟩
      rw [others, Prod.ext sameName (Option.some.inj sameValue)]

/-- A text is put together from parts in one way only. -/
theorem text_inj {parts other : Parts} : parts.text = other.text ↔ parts = other := by
  constructor
  · intro same
    rcases (Text.attach_inj parts.not_mem_essence other.not_mem_essence).mp same with
      ⟨sameEssence, sameParameter⟩
    rw [essence_eq, essence_eq, Text.attach_inj (parts.isToken_kind.not_mem (by decide))
      (other.isToken_kind.not_mem (by decide))] at sameEssence
    have sameRest := Option.some.inj sameEssence.2
    rw [Text.attach_inj (parts.isSubtype_subtype.not_mem (by decide))
      (other.isSubtype_subtype.not_mem (by decide))] at sameRest
    exact Parts.ext sameEssence.1 sameRest.1 sameRest.2 (parameter_inj sameParameter)
  · exact congrArg Parts.text

end Parts

theorem parse_eq_ok_iff {text accepted : String} :
    parse text = .ok accepted ↔ isValid text.toList = true ∧ accepted = text := by
  unfold parse
  by_cases valid : isValid text.toList = true
  · rw [if_pos valid]
    simp [valid, eq_comm]
  · rw [if_neg valid]
    simp [valid]

/-- Reading accepts exactly what can be put together from parts, leaves it as it is, and the parts
are determined by it. -/
theorem parse_grammar (text : String) :
    ((∃ accepted, parse text = .ok accepted) ↔ ∃ parts : Parts, parts.text = text.toList) ∧
    (∀ accepted, parse text = .ok accepted → accepted = text ∧
      ∃! parts : Parts, parts.text = text.toList) := by
  constructor
  · constructor
    · rintro ⟨accepted, given⟩
      exact Parts.exists_text_eq (parse_eq_ok_iff.mp given).1
    · rintro ⟨parts, same⟩
      exact ⟨text, parse_eq_ok_iff.mpr ⟨same ▸ parts.isValid_text, rfl⟩⟩
  · intro accepted given
    rcases parse_eq_ok_iff.mp given with ⟨valid, same⟩
    rcases Parts.exists_text_eq valid with ⟨parts, spelled⟩
    refine ⟨same, parts, spelled, ?_⟩
    intro other alsoSpelled
    exact Parts.text_inj.mp (alsoSpelled.trans spelled.symm)

/-- The parts of a media type with an empty suffix and a parameter. -/
def vendorParts : Parts where
  kind := ['a', '_']
  subtype := ['.', 'x']
  suffix := some []
  parameter := some (['v'], ['-', '1'])
  isToken_kind := isToken_iff.mp (by decide)
  isSubtype_subtype := isSubtype_iff.mp (by decide)
  isSuffix_suffix := by simp [IsSuffix]
  isToken_parameter := by
    rintro _ ⟨⟩
    exact ⟨isToken_iff.mp (by decide), isToken_iff.mp (by decide)⟩

/-- A suffix may be empty, and then the parts are still found; a second parameter is refused. -/
theorem parse_grammar_vendor :
    (∃ accepted, parse "a_/.x+;v=-1" = .ok accepted ∧ accepted = "a_/.x+;v=-1" ∧
      ∀ parts : Parts, parts.text = "a_/.x+;v=-1".toList → parts = vendorParts) ∧
    ¬∃ parts : Parts, parts.text = "a_/.x+;v=-1;w=2".toList := by
  have spelled : vendorParts.text = "a_/.x+;v=-1".toList := by cbv
  constructor
  · rcases (parse_grammar _).1.mpr ⟨vendorParts, spelled⟩ with ⟨accepted, given⟩
    rcases (parse_grammar _).2 accepted given with ⟨same, parts, -, only⟩
    refine ⟨accepted, given, same, ?_⟩
    intro other alsoSpelled
    exact (only other alsoSpelled).trans (only vendorParts spelled).symm
  · rw [← (parse_grammar _).1]
    rintro ⟨accepted, given⟩
    have refused : isValid "a_/.x+;v=-1;w=2".toList = false := by decide
    exact Bool.false_ne_true (refused.symm.trans (parse_eq_ok_iff.mp given).1)

end CdnPublish.MediaType
