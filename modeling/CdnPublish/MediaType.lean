import CdnPublish.Text.Split

/-!
# Media types

The content type sent with an object has the form `type/subtype`, optionally followed by
`+suffix` and then by `;name=value`, without blanks. `MediaType.isValid` reads a text from left to
right, cutting at the first separator of each kind.
-/

namespace CdnPublish.MediaType

/-- A character of a token: an ASCII letter or digit, an underscore or a hyphen. -/
def isTokenChar (character : Char) : Bool :=
  character.isAlphanum || character == '_' || character == '-'

/-- A character of a subtype: as in a token, or a dot. -/
def isSubtypeChar (character : Char) : Bool :=
  isTokenChar character || character == '.'

/-- A token has at least one character. -/
def isToken (text : List Char) : Bool :=
  text ≠ [] && text.all isTokenChar

/-- A subtype has at least one character. -/
def isSubtype (text : List Char) : Bool :=
  text ≠ [] && text.all isSubtypeChar

/-- What follows the slash: a subtype, with a suffix behind the first plus sign. -/
def isSubtypeAndSuffix (text : List Char) : Bool :=
  match Text.cut '+' text with
  | none => isSubtype text
  | some (subtype, suffix) => isSubtype subtype && suffix.all isTokenChar

/-- A parameter: two tokens around the first equals sign. -/
def isParameter (text : List Char) : Bool :=
  match Text.cut '=' text with
  | none => false
  | some (name, value) => isToken name && isToken value

/-- A media type without parameters: a token and a subtype around the first slash. -/
def isEssence (text : List Char) : Bool :=
  match Text.cut '/' text with
  | none => false
  | some (kind, rest) => isToken kind && isSubtypeAndSuffix rest

/-- A media type: what stands before the first semicolon is one without parameters, what stands
behind it is a parameter. -/
def isValid (text : List Char) : Bool :=
  match Text.cut ';' text with
  | none => isEssence text
  | some (essence, parameter) => isEssence essence && isParameter parameter

/-- The media type written as this text, or the text itself as the fault. -/
def parse (text : String) : Except String String :=
  if isValid text.toList then .ok text else .error text

end CdnPublish.MediaType
