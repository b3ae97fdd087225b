import CdnPublish.Json.Numeral

/-!
# Printing JSON values

A value is written without any blank, or laid out with two blanks for every level of nesting. In
strings only the quote, the backslash and control characters are escaped.
-/

namespace CdnPublish.Json

/-- A digit below sixteen in lower-case hexadecimal. -/
def hexDigit (value : Nat) : Char :=
  if value < 10 then Char.ofNat (0x30 + value) else Char.ofNat (0x57 + value)

/-- A character inside a string. -/
def escaped (character : Char) : List Char :=
  if character = '"' then ['\\', '"']
  else if character = '\\' then ['\\', '\\']
  else if character = '\x08' then ['\\', 'b']
  else if character = '\x0c' then ['\\', 'f']
  else if character = '\n' then ['\\', 'n']
  else if character = '\r' then ['\\', 'r']
  else if character = '\t' then ['\\', 't']
  else if character.toNat < 0x20 then
    ['\\', 'u', '0', '0', hexDigit (character.toNat / 16), hexDigit (character.toNat % 16)]
  else [character]

/-- A string between its quotes. -/
def quoted (text : String) : List Char :=
  '"' :: text.toList.flatMap escaped ++ ['"']

/-- Texts with commas between them. -/
def commaSeparated : List (List Char) → List Char
  | [] => []
  | [text] => text
  | text :: next :: others => text ++ ',' :: commaSeparated (next :: others)

/-- A value that is no array and no object. -/
def scalar : Json → List Char
  | .null => ['n', 'u', 'l', 'l']
  | .bool true => ['t', 'r', 'u', 'e']
  | .bool false => ['f', 'a', 'l', 's', 'e']
  | .natural value => Nat.toDigits 10 value.toNat
  | .negative magnitude => '-' :: Nat.toDigits 10 magnitude.toNat
  | .float value => Double.text value
  | .string text => quoted text
  | .array _ => []
  | .object _ => []

mutual

/-- A value without blanks. -/
def compact : Json → List Char
  | .array elements => '[' :: commaSeparated (compactElements elements) ++ [']']
  | .object members => '\x7b' :: commaSeparated (compactMembers members) ++ ['\x7d']
  | value => scalar value

/-- The elements of an array without blanks. -/
def compactElements : List Json → List (List Char)
  | [] => []
  | element :: rest => compact element :: compactElements rest

/-- The members of an object without blanks. -/
def compactMembers : List (String × Json) → List (List Char)
  | [] => []
  | (name, value) :: rest => (quoted name ++ ':' :: compact value) :: compactMembers rest

end

/-- A line break and the blanks of a level of nesting. -/
def newline (level : Nat) : List Char :=
  '\n' :: List.replicate (2 * level) ' '

/-- Laid-out parts between brackets; each part starts with its own line break. -/
def bracketed (opening closing : Char) (level : Nat) (parts : List (List Char)) : List Char :=
  if parts = [] then [opening, closing]
  else opening :: commaSeparated parts ++ newline level ++ [closing]

mutual

/-- A value laid out at a level of nesting. -/
def prettyAt (level : Nat) : Json → List Char
  | .array elements => bracketed '[' ']' level (prettyElements (level + 1) elements)
  | .object members => bracketed '\x7b' '\x7d' level (prettyMembers (level + 1) members)
  | value => scalar value

/-- The elements of an array, each on a line of its own. -/
def prettyElements (level : Nat) : List Json → List (List Char)
  | [] => []
  | element :: rest => (newline level ++ prettyAt level element) :: prettyElements level rest

/-- The members of an object, each on a line of its own. -/
def prettyMembers (level : Nat) : List (String × Json) → List (List Char)
  | [] => []
  | (name, value) :: rest =>
    (newline level ++ quoted name ++ ':' :: ' ' :: prettyAt level value)
      :: prettyMembers level rest

end

/-- The text of a value without blanks. -/
def render (value : Json) : String :=
  String.ofList value.compact

/-- The text of a value laid out over several lines. -/
def renderPretty (value : Json) : String :=
  String.ofList (value.prettyAt 0)

end CdnPublish.Json
