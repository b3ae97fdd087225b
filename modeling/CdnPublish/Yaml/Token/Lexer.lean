import CdnPublish.Yaml.Tag

/-!
# Reading the tokens of YAML texts

A key before a colon looks like any other scalar until the colon comes. So the reader remembers
where the last key may have started, and puts the mark of the key, and the start of the block that
it opens, in front of it when the colon is found. Such a key has to end in the line where it
started.
-/

namespace CdnPublish.Yaml

/-- A place where a key may have started. -/
structure KeyStart where
  /-- How many tokens stood before it. -/
  number : Nat
  /-- Where it is. -/
  place : Cursor
  /-- Whether nothing but a key can stand there. -/
  isRequired : Bool

/-- What has been read of a text, and what the next tokens depend on. -/
structure Lexer where
  cursor : Cursor
  /-- The columns of the open block collections, the innermost first. -/
  indents : List Int
  /-- Where a key may have started, in each open flow collection and last outside of them, the
  innermost first. -/
  keys : List (Option KeyStart)
  /-- Whether a key may start here. -/
  allowsKey : Bool
  /-- The tokens so far, the last one first. -/
  tokens : List Token
  /-- How many tokens there are. -/
  count : Nat
  /-- How many steps any reader of a part of the text may take. -/
  patience : Nat

namespace Lexer

/-- The start of a text. -/
def start (text : List Char) : Lexer :=
  ⟨.start text, [], [none], true, [], 0, text.length + 1⟩

/-- Whether the place is inside a flow collection. -/
def inFlow (lexer : Lexer) : Bool := !lexer.keys.tail.isEmpty

/-- The column of the innermost block collection; outside of all it is -1. -/
def indent (lexer : Lexer) : Int := lexer.indents.headD (-1)

/-- Where a key of the innermost collection may have started. -/
def key? (lexer : Lexer) : Option KeyStart := lexer.keys.head?.join

/-- With another start of a key in the innermost collection. -/
def withKey (lexer : Lexer) (key : Option KeyStart) : Lexer :=
  { lexer with keys := key :: lexer.keys.tail }

/-- With one more token. -/
def push (lexer : Lexer) (token : Token) : Lexer :=
  { lexer with tokens := token :: lexer.tokens, count := lexer.count + 1 }

/-- With a token before which a number of the present ones stand. -/
def insert (lexer : Lexer) (number : Nat) (token : Token) : Lexer :=
  let later := lexer.tokens.take (lexer.count - number)
  let earlier := lexer.tokens.drop (lexer.count - number)
  { lexer with tokens := later ++ token :: earlier, count := lexer.count + 1 }

/-- Further in the text, with one more token. -/
def emit (lexer : Lexer) (token : Token) (cursor : Cursor) : Lexer :=
  { lexer.push token with cursor }

/-! ### Blocks -/

/-- Closes those of the open block collections that stand to the right of a column. -/
def closeFrom (column : Int) (lexer : Lexer) : List Int → Lexer
  | [] => { lexer with indents := [] }
  | indent :: indents =>
    if column < indent then closeFrom column (lexer.push .blockEnd) indents
    else { lexer with indents := indent :: indents }

/-- Closes the block collections that stand to the right of a column. -/
def closeBlocks (lexer : Lexer) (column : Int) : Lexer :=
  if lexer.inFlow then lexer else closeFrom column lexer lexer.indents

/-- Opens a block collection at a column, if that is to the right of the innermost one. Its start
has a number of tokens before it. -/
def openBlock (lexer : Lexer) (column number : Nat) (token : Token) : Lexer :=
  if !lexer.inFlow && lexer.indent < column then
    { lexer.insert number token with indents := column :: lexer.indents }
  else lexer

/-- Opens a block collection where the reader stands, if a key may start there. -/
def openBlockHere? (lexer : Lexer) (token : Token) : Option Lexer :=
  if lexer.inFlow then some lexer
  else if lexer.allowsKey then
    some (lexer.openBlock lexer.cursor.column lexer.count token)
  else none

/-! ### Starts of keys -/

/-- Forgets a start of a key; one where a key has to stand cannot be forgotten. -/
def forget? (key : Option KeyStart) : Option (Option KeyStart) :=
  if key.any (·.isRequired) then none else some none

/-- Forgets where a key of the innermost collection may have started. -/
def forgetKey? (lexer : Lexer) : Option Lexer :=
  (forget? lexer.key?).map lexer.withKey

/-- Notes that a key may start here, if one may. -/
def noteKey? (lexer : Lexer) : Option Lexer :=
  if lexer.allowsKey then
    let isRequired := !lexer.inFlow && lexer.indent = lexer.cursor.column
    lexer.forgetKey?.map (·.withKey (some ⟨lexer.count, lexer.cursor, isRequired⟩))
  else some lexer

/-- How many characters a key may have before its colon. -/
def longestKey : Nat := 1024

/-- Whether a key that started at a place must have ended before this one. -/
def isPast (cursor : Cursor) (key : KeyStart) : Bool :=
  key.place.line < cursor.line || key.place.index + longestKey < cursor.index

/-- Forgets the starts of keys that must have ended. -/
def dropPastKeys? (lexer : Lexer) : Option Lexer := do
  let keys ← lexer.keys.mapM fun key =>
    if key.any (isPast lexer.cursor) then forget? key else some key
  return { lexer with keys }

/-! ### Tokens -/

/-- Reads past blanks, comments and line breaks. -/
def skipGap (lexer : Lexer) : Nat → Lexer
  | 0 => lexer
  | fuel + 1 =>
    let first := lexer.cursor
    let marked := if first.index = 0 && first.next? = some '\uFEFF' then first.skip else first
    let tabs := lexer.inFlow || !lexer.allowsKey
    let behind :=
      (marked.skipWhile fun character => character = ' ' || (tabs && character = '\t')).skipComment
    if behind.next?.any isBreak then
      let allowsKey := !lexer.inFlow || lexer.allowsKey
      skipGap { lexer with cursor := behind.skipBreak.2, allowsKey } fuel
    else { lexer with cursor := behind }

/-- Ends all blocks and forgets the key. -/
def leaveBlocks? (lexer : Lexer) : Option Lexer :=
  (lexer.closeBlocks (-1)).forgetKey?.map ({ · with allowsKey := false })

/-- Reads a token that may start a key. -/
def keyable? (lexer : Lexer) (read : Cursor → Option (Token × Cursor)) : Option Lexer := do
  let noted ← lexer.noteKey?
  let (token, behind) ← read lexer.cursor
  return { noted.emit token behind with allowsKey := false }

/-- Reads a token of one character that cannot start a key. -/
def indicator? (lexer : Lexer) (token : Token) (allowsKey : Bool) : Option Lexer := do
  let lexer ← lexer.forgetKey?
  return { lexer.emit token lexer.cursor.skip with allowsKey }

/-- Reads the start of a flow collection, which may be a key as a whole. -/
def flowStart? (lexer : Lexer) (token : Token) : Option Lexer := do
  let noted ← lexer.noteKey?
  return { noted.emit token noted.cursor.skip with keys := none :: noted.keys, allowsKey := true }

/-- Reads the end of a flow collection. -/
def flowEnd? (lexer : Lexer) (token : Token) : Option Lexer := do
  let lexer ← lexer.indicator? token false
  return if lexer.inFlow then { lexer with keys := lexer.keys.tail } else lexer

/-- Reads the indicator of an item of a block sequence. -/
def blockEntry? (lexer : Lexer) : Option Lexer := do
  let lexer ← lexer.openBlockHere? .blockSequenceStart
  lexer.indicator? .blockEntry true

/-- Reads the indicator of a key. -/
def keyMark? (lexer : Lexer) : Option Lexer := do
  let lexer ← lexer.openBlockHere? .blockMappingStart
  lexer.indicator? .key (!lexer.inFlow)

/-- Reads the colon before a value. If a key has started in this line, what was read since then is
the key. -/
def valueMark? (lexer : Lexer) : Option Lexer :=
  match lexer.key? with
  | some key =>
    let marked := (lexer.insert key.number .key).openBlock key.place.column key.number
      .blockMappingStart
    some { (marked.withKey none).emit .value lexer.cursor.skip with allowsKey := false }
  | none => do
    let lexer ← lexer.openBlockHere? .blockMappingStart
    return { lexer.emit .value lexer.cursor.skip with allowsKey := !lexer.inFlow }

/-- Reads a block scalar. -/
def blockScalar? (lexer : Lexer) (isLiteral : Bool) : Option Lexer := do
  let lexer ← lexer.forgetKey?
  let (text, behind) ← block? isLiteral lexer.indent lexer.cursor.skip lexer.patience
  let token : Token := .scalar text (if isLiteral then .literal else .folded)
  return { lexer.emit token behind with allowsKey := true }

/-- Reads a quoted scalar. -/
def quotedScalar? (lexer : Lexer) (isSingle : Bool) : Option Lexer :=
  lexer.keyable? fun cursor => do
    let (text, behind) ← quoted? isSingle [] .none cursor.skip lexer.patience
    return (.scalar text .quoted, behind)

/-- Reads a plain scalar. A key may start behind it if its line has ended. -/
def plainScalar? (lexer : Lexer) : Option Lexer := do
  let noted ← lexer.noteKey?
  let cursor := lexer.cursor
  let (text, endsLine, behind) ←
    plain? lexer.inFlow (lexer.indent + 1) [] .none cursor lexer.patience
  return { noted.emit (.scalar text .plain) behind with allowsKey := endsLine }

/-- Whether a plain scalar can start here. -/
def startsPlain (lexer : Lexer) (character : Char) : Bool :=
  let cursor := lexer.cursor
  let indicators := "-?:,[]\x7b\x7d#&*!|>\x27\"%@\x60".toList
  (!isGap character && !indicators.contains character)
    || (character = '-' && !(cursor.rest[1]?.any isBlank))
    || (!lexer.inFlow && (character = '?' || character = ':') && !cursor.isGapAt 1)

/-- Reads the token that starts with a character. -/
def token? (lexer : Lexer) (character : Char) : Option Lexer :=
  let cursor := lexer.cursor
  let atGap := cursor.isGapAt 1
  if cursor.column = 0 && character = '%' then do
    let left ← lexer.leaveBlocks?
    let (token, behind) ← directive? cursor.skip
    return left.emit token behind
  else if cursor.hasMarker '-' then
    lexer.leaveBlocks?.map (·.emit .documentStart (cursor.skipMany 3))
  else if cursor.hasMarker '.' then
    lexer.leaveBlocks?.map (·.emit .documentEnd (cursor.skipMany 3))
  else if character = '[' then lexer.flowStart? .flowSequenceStart
  else if character = '\x7b' then lexer.flowStart? .flowMappingStart
  else if character = ']' then lexer.flowEnd? .flowSequenceEnd
  else if character = '\x7d' then lexer.flowEnd? .flowMappingEnd
  else if character = ',' then lexer.indicator? .flowEntry true
  else if character = '-' && atGap then lexer.blockEntry?
  else if character = '?' && (lexer.inFlow || atGap) then lexer.keyMark?
  else if character = ':' && (lexer.inFlow || atGap) then lexer.valueMark?
  else if character = '*' then
    lexer.keyable? fun cursor => (anchorName? cursor.skip).map fun (name, behind) =>
      (.reference name, behind)
  else if character = '&' then
    lexer.keyable? fun cursor => (anchorName? cursor.skip).map fun (name, behind) =>
      (.anchor name, behind)
  else if character = '!' then
    lexer.keyable? fun cursor => (tagName? lexer.inFlow cursor).map fun (name, behind) =>
      (.tag name, behind)
  else if character = '|' && !lexer.inFlow then lexer.blockScalar? true
  else if character = '>' && !lexer.inFlow then lexer.blockScalar? false
  else if character = '\x27' then lexer.quotedScalar? true
  else if character = '"' then lexer.quotedScalar? false
  else if lexer.startsPlain character then lexer.plainScalar?
  else none

/-- Reads all tokens. -/
def run? (lexer : Lexer) : Nat → Option (List Token)
  | 0 => none
  | fuel + 1 => do
    let lexer ← (lexer.skipGap lexer.patience).dropPastKeys?
    match lexer.cursor.rest with
    | [] => do
      let left ← lexer.leaveBlocks?
      return left.tokens.reverse
    | character :: _ => do
      let lexer ← (lexer.closeBlocks lexer.cursor.column).token? character
      run? lexer fuel

end Lexer

/-- The tokens of a text, if it is made of tokens. -/
def Token.ofText? (text : List Char) : Option (List Token) :=
  let lexer := Lexer.start text
  if text.all isAllowed then lexer.run? lexer.patience else none

end CdnPublish.Yaml
