import CdnPublish.Yaml.Token

/-!
# Scalars of YAML texts

How the texts of values are written: plainly, between quotes, or as a block of lines. In plain and
quoted scalars and in folded blocks a single line break counts as a blank, and further ones stay.
All readers give the text and the place behind it, or nothing when the scalar is not well written.
-/

namespace CdnPublish.Yaml

/-- The blanks and breaks since the last character of a scalar. -/
inductive Gap where
  /-- Blanks in one line, the last one first. -/
  | blanks (found : List Char)
  /-- A first break and those after it; blanks around them do not count. -/
  | breaks (first later : List Char)
  deriving DecidableEq, Repr

namespace Gap

/-- No gap. -/
def none : Gap := .blanks []

/-- The gap with one more blank. -/
def addBlank (gap : Gap) (blank : Char) : Gap :=
  match gap with
  | .blanks found => .blanks (blank :: found)
  | .breaks first later => .breaks first later

/-- The gap with one more break. -/
def addBreak (gap : Gap) (lineBreak : List Char) : Gap :=
  match gap with
  | .blanks _ => .breaks lineBreak []
  | .breaks first later => .breaks first (later ++ lineBreak)

/-- Whether a line has ended in the gap. -/
def hasBreak : Gap → Bool
  | .blanks _ => false
  | .breaks _ _ => true

/-- What two breaks in a row leave in a text. -/
def fold (first later : List Char) : List Char :=
  if first = ['\n'] then (if later = [] then [' '] else later) else first ++ later

/-- What the gap leaves in a text. -/
def text : Gap → List Char
  | .blanks found => found.reverse
  | .breaks first later => fold first later

end Gap

/-! ### Plain scalars -/

/-- Whether a character at a cursor ends a plain scalar. -/
def endsPlain (inFlow : Bool) (cursor : Cursor) (character : Char) : Bool :=
  (character = ':' && cursor.isGapAt 1)
    || (inFlow && [',', '[', ']', '\x7b', '\x7d'].contains character)

/-- Whether a colon at a cursor cannot be told from the end of a key. -/
def isAmbiguous (inFlow : Bool) (cursor : Cursor) (character : Char) : Bool :=
  inFlow && character = ':' &&
    match cursor.rest[1]? with
    | some next => [',', '?', '[', ']', '\x7b', '\x7d'].contains next
    | Option.none => false

/-- What a plain scalar comes to at its end. -/
def plainEnd (read : List Char) (gap : Gap) (cursor : Cursor) : List Char × Bool × Cursor :=
  (read.reverse, gap.hasBreak, cursor)

/-- Reads a plain scalar that is indented to a column at least. `read` is the text so far, the last
character first. The second part of the result says whether a line has ended behind the text. -/
def plain? (inFlow : Bool) (indent : Int) (read : List Char) (gap : Gap) (cursor : Cursor) :
    Nat → Option (List Char × Bool × Cursor)
  | 0 => Option.none
  | fuel + 1 =>
    match cursor.rest with
    | [] => some (plainEnd read gap cursor)
    | character :: _ =>
      if isBlank character then
        if gap.hasBreak && character = '\t' && (cursor.column : Int) < indent then Option.none
        else plain? inFlow indent read (gap.addBlank character) cursor.skip fuel
      else if isBreak character then
        plain? inFlow indent read (gap.addBreak cursor.skipBreak.1) cursor.skipBreak.2 fuel
      else
        let startsWord := read = [] || gap ≠ .none
        let isOutside := gap ≠ .none && !inFlow && (cursor.column : Int) < indent
        if isOutside || (startsWord && (cursor.atMarker || character = '#')) then
          some (plainEnd read gap cursor)
        else if isAmbiguous inFlow cursor character then Option.none
        else if endsPlain inFlow cursor character then some (plainEnd read gap cursor)
        else
          plain? inFlow indent (character :: (gap.text.reverse ++ read)) .none cursor.skip fuel

/-! ### Quoted scalars -/

/-- The character that an escape of one letter stands for. -/
def escapedLetter? (letter : Char) : Option Char :=
  match letter with
  | '0' => some '\x00'
  | 'a' => some '\x07'
  | 'b' => some '\x08'
  | 't' => some '\t'
  | '\t' => some '\t'
  | 'n' => some '\n'
  | 'v' => some '\x0b'
  | 'f' => some '\x0c'
  | 'r' => some '\r'
  | 'e' => some '\x1b'
  | ' ' => some ' '
  | '"' => some '"'
  | '/' => some '/'
  | '\\' => some '\\'
  | 'N' => some '\u0085'
  | '_' => some '\u00A0'
  | 'L' => some '\u2028'
  | 'P' => some '\u2029'
  | _ => Option.none

/-- How many digits follow the letter of a numeric escape. -/
def escapeWidth? (letter : Char) : Option Nat :=
  match letter with
  | 'x' => some 2
  | 'u' => some 4
  | 'U' => some 8
  | _ => Option.none

/-- The value of a hexadecimal digit. -/
def hexValue? (character : Char) : Option Nat :=
  if '0' ≤ character && character ≤ '9' then some (character.toNat - 0x30)
  else if 'a' ≤ character && character ≤ 'f' then some (character.toNat - 0x57)
  else if 'A' ≤ character && character ≤ 'F' then some (character.toNat - 0x37)
  else Option.none

/-- The character with a number in hexadecimal digits. -/
def numbered? (width : Nat) (digits : List Char) : Option Char := do
  let values ← (digits.take width).mapM hexValue?
  let code := values.foldl (fun number digit => number * 16 + digit) 0
  if values.length = width && (code < 0xD800 || (0xDFFF < code && code ≤ 0x10FFFF)) then
    some (Char.ofNat code)
  else Option.none

/-- Reads the escape at a cursor that stands on a backslash: its character and the place behind. -/
def escape? (cursor : Cursor) : Option (Char × Cursor) :=
  match cursor.rest with
  | _ :: letter :: rest =>
    match escapedLetter? letter, escapeWidth? letter with
    | some character, _ => some (character, cursor.skipMany 2)
    | Option.none, some width =>
      (numbered? width rest).map fun character => (character, cursor.skipMany (2 + width))
    | Option.none, Option.none => Option.none
  | _ => Option.none

/-- Reads a quoted scalar behind its opening quote. In single quotes a quote is written twice; in
double quotes a backslash escapes, and one at the end of a line takes the break away. -/
def quoted? (isSingle : Bool) (read : List Char) (gap : Gap) (cursor : Cursor) :
    Nat → Option (List Char × Cursor)
  | 0 => Option.none
  | fuel + 1 =>
    match cursor.rest with
    | [] => Option.none
    | character :: _ =>
      if isBlank character then
        quoted? isSingle read (gap.addBlank character) cursor.skip fuel
      else if isBreak character then
        quoted? isSingle read (gap.addBreak cursor.skipBreak.1) cursor.skipBreak.2 fuel
      else if gap ≠ .none && cursor.atMarker then Option.none
      else
        let joined := gap.text.reverse ++ read
        if isSingle && character = '\x27' then
          if cursor.hasAt 1 '\x27' then
            quoted? isSingle ('\x27' :: joined) .none (cursor.skipMany 2) fuel
          else some (joined.reverse, cursor.skip)
        else if !isSingle && character = '"' then some (joined.reverse, cursor.skip)
        else if !isSingle && character = '\\' then
          if cursor.rest[1]?.any isBreak then
            quoted? isSingle joined (.breaks [] []) cursor.skip.skipBreak.2 fuel
          else
            match escape? cursor with
            | some (escaped, behind) => quoted? isSingle (escaped :: joined) .none behind fuel
            | Option.none => Option.none
        else quoted? isSingle (character :: joined) .none cursor.skip fuel

/-! ### Block scalars -/

/-- What becomes of the breaks at the end of a block. -/
inductive Chomping where
  /-- They go. -/
  | strip
  /-- One stays. -/
  | clip
  /-- They stay. -/
  | keep
  deriving DecidableEq, Repr

/-- The chomping that a sign stands for. -/
def Chomping.ofSign? : Option Char → Option Chomping
  | some '+' => some .keep
  | some '-' => some .strip
  | _ => Option.none

/-- The indentation that a digit stands for; zero is none. -/
def indentDigit? : Option Char → Option Nat
  | some character =>
    if character.isDigit then some (character.toNat - 0x30) else Option.none
  | Option.none => Option.none

/-- Reads the sign and the digit behind the indicator of a block, in any order; the digit must not
be zero. -/
def header? (cursor : Cursor) : Option (Chomping × Nat × Cursor) :=
  match Chomping.ofSign? cursor.next? with
  | some chomping =>
    match indentDigit? cursor.skip.next? with
    | some 0 => Option.none
    | some digit => some (chomping, digit, cursor.skipMany 2)
    | Option.none => some (chomping, 0, cursor.skip)
  | Option.none =>
    match indentDigit? cursor.next? with
    | some 0 => Option.none
    | some digit =>
      match Chomping.ofSign? cursor.skip.next? with
      | some chomping => some (chomping, digit, cursor.skipMany 2)
      | Option.none => some (.clip, digit, cursor.skip)
    | Option.none => some (.clip, 0, cursor)

/-- Reads empty lines and the indentation of the next line; with an indentation of zero every blank
counts. The result holds the breaks, the greatest column reached, and the place; a tab in the
indentation is a fault. -/
def emptyLines? (indent : Nat) (breaks : List Char) (greatest : Nat) (cursor : Cursor) :
    Nat → Option (List Char × Nat × Cursor)
  | 0 => Option.none
  | fuel + 1 =>
    let blanks := (cursor.rest.takeWhile (· = ' ')).length
    let count := if indent = 0 then blanks else min blanks (indent - cursor.column)
    let behind := cursor.skipMany count
    let reached := max greatest behind.column
    if (indent = 0 || behind.column < indent) && behind.next? = some '\t' then Option.none
    else
      match behind.rest with
      | [] => some (breaks, reached, behind)
      | character :: _ =>
        if isBreak character then
          emptyLines? indent (breaks ++ behind.skipBreak.1) reached behind.skipBreak.2 fuel
        else some (breaks, reached, behind)

/-- What stands between two lines of a block: the break after the first and the breaks of empty
lines. Folding spares lines that start with a blank. -/
def between (isLiteral : Bool) (first later : List Char) (blankBefore blankAfter : Bool) :
    List Char :=
  if !isLiteral && first = ['\n'] && !blankBefore && !blankAfter then
    (if later = [] then [' '] else []) ++ later
  else first ++ later

/-- Reads the lines of a block with the given indentation. `read` is the text so far, the last
character first; `first` and `later` are the breaks since the last line, and `blankBefore` tells
whether that line starts with a blank. -/
def lines? (isLiteral : Bool) (indent patience : Nat) (read first later : List Char)
    (blankBefore : Bool) (cursor : Cursor) :
    Nat → Option (List Char × List Char × List Char × Cursor)
  | 0 => Option.none
  | fuel + 1 =>
    match cursor.rest with
    | [] => some (read, first, later, cursor)
    | character :: _ =>
      if cursor.column = indent then
        let startsBlank := isBlank character
        let joined := (between isLiteral first later blankBefore startsBlank).reverse ++ read
        let line := cursor.rest.takeWhile fun character => !isBreak character
        let (lineBreak, behind) := (cursor.skipMany line.length).skipBreak
        match emptyLines? indent [] 0 behind patience with
        | some (breaks, _, next) =>
          lines? isLiteral indent patience (line.reverse ++ joined) lineBreak breaks startsBlank
            next fuel
        | Option.none => Option.none
      else some (read, first, later, cursor)

/-- Reads a block behind its indicator; `outer` is the indentation of what it stands in. No part of
it takes more than `patience` steps. -/
def block? (isLiteral : Bool) (outer : Int) (cursor : Cursor) (patience : Nat) :
    Option (List Char × Cursor) := do
  let (chomping, digit, cursor) ← header? cursor
  let lineEnd := (cursor.skipWhile isBlank).skipComment
  if !lineEnd.isLineEnd then Option.none
  else
    let content := lineEnd.skipBreak.2
    let base := (max outer 0).toNat
    let fixed := if digit = 0 then 0 else base + digit
    let (breaks, reached, next) ← emptyLines? fixed [] 0 content patience
    let least := (max (outer + 1) 1).toNat
    let indent := if digit = 0 then max reached least else fixed
    let (read, first, later, behind) ←
      lines? isLiteral indent patience [] [] breaks false next patience
    let tail :=
      match chomping with
      | .strip => []
      | .clip => first
      | .keep => first ++ later
    return (read.reverse ++ tail, behind)

end CdnPublish.Yaml
