/-!
# Tokens of YAML texts

A YAML text says by indentation what other formats say by brackets. Its tokens make the structure
explicit again: block collections get a start and an end, and a key gets a mark before it even where
it only shows by the colon behind it.
-/

namespace CdnPublish.Yaml

/-- How a scalar is written. -/
inductive Style where
  | plain
  | quoted
  | literal
  | folded
  deriving DecidableEq, Repr

/-- A tag as it is written: an abbreviation and what follows it. -/
structure TagName where
  handle : List Char
  suffix : List Char
  deriving DecidableEq, Repr

/-- A token of a YAML text. -/
inductive Token where
  | versionDirective (major minor : Nat)
  /-- An abbreviation for the start of tags. -/
  | tagDirective (handle start : List Char)
  | documentStart
  | documentEnd
  | blockSequenceStart
  | blockMappingStart
  | blockEnd
  | flowSequenceStart
  | flowSequenceEnd
  | flowMappingStart
  | flowMappingEnd
  | blockEntry
  | flowEntry
  | key
  | value
  | reference (name : List Char)
  | anchor (name : List Char)
  | tag (name : TagName)
  | scalar (text : List Char) (style : Style)
  deriving DecidableEq, Repr

/-- A blank inside a line. -/
def isBlank (character : Char) : Bool :=
  character = ' ' || character = '\t'

/-- A line break. -/
def isBreak (character : Char) : Bool :=
  character = '\r' || character = '\n' || character = '\u0085' || character = '\u2028'
    || character = '\u2029'

/-- A blank or a line break. -/
def isGap (character : Char) : Bool :=
  isBlank character || isBreak character

/-- A character of a name. -/
def isWordChar (character : Char) : Bool :=
  character.isAlphanum || character = '_' || character = '-'

/-- A character that may stand in a YAML text. -/
def isAllowed (character : Char) : Bool :=
  let code := character.toNat
  code = 0x09 || code = 0x0A || code = 0x0D || (0x20 ≤ code && code ≤ 0x7E) || code = 0x85
    || (0xA0 ≤ code && code ≤ 0xD7FF) || (0xE000 ≤ code && code ≤ 0xFFFD) || 0x10000 ≤ code

/-- A place in a text: what follows, and where that is. -/
structure Cursor where
  rest : List Char
  index : Nat
  line : Nat
  column : Nat
  deriving Repr

namespace Cursor

/-- The start of a text. -/
def start (text : List Char) : Cursor := ⟨text, 0, 0, 0⟩

/-- The next character. -/
def next? (cursor : Cursor) : Option Char := cursor.rest.head?

/-- Whether the character at a distance is this one. -/
def hasAt (cursor : Cursor) (distance : Nat) (character : Char) : Bool :=
  cursor.rest[distance]? = some character

/-- Whether a gap or the end of the text is at a distance. -/
def isGapAt (cursor : Cursor) (distance : Nat) : Bool :=
  match cursor.rest[distance]? with
  | none => true
  | some character => isGap character

/-- Whether the line, and so perhaps the text, ends here. -/
def isLineEnd (cursor : Cursor) : Bool :=
  match cursor.rest with
  | [] => true
  | character :: _ => isBreak character

/-- One character further in the line. -/
def skip (cursor : Cursor) : Cursor :=
  match cursor.rest with
  | [] => cursor
  | _ :: rest => ⟨rest, cursor.index + 1, cursor.line, cursor.column + 1⟩

/-- Several characters further in the line. -/
def skipMany (cursor : Cursor) : Nat → Cursor
  | 0 => cursor
  | count + 1 => cursor.skip.skipMany count

/-- Past the characters of a kind, all in this line. -/
def skipWhile (cursor : Cursor) (kind : Char → Bool) : Cursor :=
  cursor.skipMany (cursor.rest.takeWhile kind).length

/-- What a line break counts as, and the start of the next line. The breaks of Unicode's own are
kept, all others count as one line feed. -/
def skipBreak (cursor : Cursor) : List Char × Cursor :=
  match cursor.rest with
  | '\r' :: '\n' :: rest => (['\n'], ⟨rest, cursor.index + 2, cursor.line + 1, 0⟩)
  | character :: rest =>
    let next : Cursor := ⟨rest, cursor.index + 1, cursor.line + 1, 0⟩
    if character = '\u2028' || character = '\u2029' then ([character], next)
    else if isBreak character then (['\n'], next)
    else ([], cursor)
  | [] => ([], cursor)

/-- Whether three of a character stand at the start of a line with a gap behind them. -/
def hasMarker (cursor : Cursor) (character : Char) : Bool :=
  cursor.column = 0 && cursor.hasAt 0 character && cursor.hasAt 1 character
    && cursor.hasAt 2 character && cursor.isGapAt 3

/-- Whether a document starts or ends here. -/
def atMarker (cursor : Cursor) : Bool :=
  cursor.hasMarker '-' || cursor.hasMarker '.'

/-- Past the comment that may stand here, to the end of the line. -/
def skipComment (cursor : Cursor) : Cursor :=
  if cursor.next? = some '#' then cursor.skipWhile fun character => !isBreak character else cursor

end Cursor

end CdnPublish.Yaml
