import CdnPublish.Json.Numeral
import CdnPublish.Text.Utf8

/-!
# Tokens of JSON texts

A JSON text is a sequence of punctuation marks, words, numerals and strings with blanks between
them. A string may be written well and still not be a text: when an escape names half of a pair
without the other half, or when it holds ill-formed bytes. Such a string is a token all the same,
without a text, so that a reader who skips it need not care.
-/

namespace CdnPublish.Json

/-- A token of a JSON text. -/
inductive Token where
  | openArray
  | closeArray
  | openObject
  | closeObject
  | comma
  | colon
  | null
  | bool (value : Bool)
  | numeral (number : Numeral)
  | string (text : Option String)
  deriving DecidableEq, Repr

namespace Token

open Text (Received)

/-- A piece of a string between its quotes. -/
inductive Piece where
  | character (character : Char)
  /-- A code unit of sixteen bits named by an escape. -/
  | escaped (codeUnit : Nat)
  /-- Ill-formed bytes. -/
  | spoiled
  deriving DecidableEq, Repr

/-- The first half of a pair. -/
def isHighHalf (codeUnit : Nat) : Bool :=
  0xD800 ≤ codeUnit && codeUnit ≤ 0xDBFF

/-- The second half of a pair. -/
def isLowHalf (codeUnit : Nat) : Bool :=
  0xDC00 ≤ codeUnit && codeUnit ≤ 0xDFFF

/-- The character that the two halves of a pair stand for. -/
def paired (high low : Nat) : Char :=
  Char.ofNat (0x10000 + (high - 0xD800) * 0x400 + (low - 0xDC00))

/-- The text of the pieces of a string, if it has one; `read` is what is read so far, last first. -/
def assemble (read : List Char) : List Piece → Option (List Char)
  | [] => some read.reverse
  | .character character :: rest => assemble (character :: read) rest
  | .spoiled :: _ => none
  | .escaped high :: .escaped low :: rest =>
    if isHighHalf high then
      if isLowHalf low then assemble (paired high low :: read) rest else none
    else if isLowHalf high then none
    else assemble (Char.ofNat high :: read) (.escaped low :: rest)
  | .escaped unit :: rest =>
    if isHighHalf unit || isLowHalf unit then none else assemble (Char.ofNat unit :: read) rest

/-- The value of a hexadecimal digit. -/
def hexValue? (character : Char) : Option Nat :=
  if '0' ≤ character && character ≤ '9' then some (character.toNat - 0x30)
  else if 'a' ≤ character && character ≤ 'f' then some (character.toNat - 0x57)
  else if 'A' ≤ character && character ≤ 'F' then some (character.toNat - 0x37)
  else none

/-- The character that an escape of one letter stands for. -/
def escapedLetter? (letter : Char) : Option Char :=
  match letter with
  | '"' => some '"'
  | '\\' => some '\\'
  | '/' => some '/'
  | 'b' => some '\x08'
  | 'f' => some '\x0c'
  | 'n' => some '\n'
  | 'r' => some '\r'
  | 't' => some '\t'
  | _ => none

/-- The code unit that four hexadecimal digits name. -/
def codeUnit? (first second third fourth : Char) : Option Nat := do
  return ((← hexValue? first) * 16 + (← hexValue? second)) * 256
    + (← hexValue? third) * 16 + (← hexValue? fourth)

/-- The pieces of a string up to its closing quote and what follows it. A control character may
not stand in a string. -/
def pieces? (read : List Piece) : Received → Option (List Piece × Received)
  | [] => none
  | none :: rest => pieces? (.spoiled :: read) rest
  | some '"' :: rest => some (read.reverse, rest)
  | some '\\' :: some 'u' :: some first :: some second :: some third :: some fourth :: rest =>
    match codeUnit? first second third fourth with
    | some unit => pieces? (.escaped unit :: read) rest
    | none => none
  | some '\\' :: some letter :: rest =>
    match escapedLetter? letter with
    | some character => pieces? (.character character :: read) rest
    | none => none
  | some character :: rest =>
    if character = '\\' || character.toNat < 0x20 then none
    else pieces? (.character character :: read) rest

/-- The value of a decimal digit. -/
def digit? : Option Char → Option Nat
  | some character => if character.isDigit then some (character.toNat - 0x30) else none
  | none => none

/-- The digits at the start and what follows them. -/
def digits (received : Received) : List Nat × Received :=
  ((received.takeWhile fun symbol => (digit? symbol).isSome).filterMap digit?,
    received.dropWhile fun symbol => (digit? symbol).isSome)

/-- The fraction of a numeral, if a point stands next; it has at least one digit. -/
def fraction? : Received → Option (List Nat × Received)
  | some '.' :: rest =>
    match (digits rest).1 with
    | [] => none
    | _ :: _ => some (digits rest)
  | received => some ([], received)

/-- The exponent of a numeral, if its letter stands next; it has at least one digit. -/
def exponent? : Received → Option (Option (Bool × List Nat) × Received)
  | some letter :: rest =>
    if letter = 'e' || letter = 'E' then
      let (isNegative, unsigned) :=
        match rest with
        | some '+' :: unsigned => (false, unsigned)
        | some '-' :: unsigned => (true, unsigned)
        | unsigned => (false, unsigned)
      match (digits unsigned).1 with
      | [] => none
      | first :: others => some (some (isNegative, first :: others), (digits unsigned).2)
    else
      some (none, some letter :: rest)
  | received => some (none, received)

/-- The integral digits of a numeral: a zero alone, or digits of which the first is none. -/
def integer? (received : Received) : Option (List Nat × Received) :=
  match (digits received).1 with
  | [] => none
  | [digit] => some ([digit], (digits received).2)
  | first :: others => if first = 0 then none else some (first :: others, (digits received).2)

/-- The numeral at the start, without its sign, and what follows it. -/
def numeral? (isNegative : Bool) (received : Received) : Option (Numeral × Received) := do
  let (integer, received) ← integer? received
  let (fraction, received) ← fraction? received
  let (exponent, received) ← exponent? received
  return (⟨isNegative, integer, fraction, exponent⟩, received)

/-- What follows a word, if the text starts with it. -/
def word? : List Char → Received → Option Received
  | [], received => some received
  | character :: word, some first :: rest => if first = character then word? word rest else none
  | _ :: _, _ => none

/-- A blank between tokens. -/
def isSpace (character : Char) : Bool :=
  character = ' ' || character = '\n' || character = '\t' || character = '\r'

/-- The token that starts with a character, and what follows it. -/
def next? (character : Char) (rest : Received) : Option (Token × Received) :=
  match character with
  | '[' => some (.openArray, rest)
  | ']' => some (.closeArray, rest)
  | '\x7b' => some (.openObject, rest)
  | '\x7d' => some (.closeObject, rest)
  | ',' => some (.comma, rest)
  | ':' => some (.colon, rest)
  | 'n' => (word? ['u', 'l', 'l'] rest).map (Token.null, ·)
  | 't' => (word? ['r', 'u', 'e'] rest).map (Token.bool true, ·)
  | 'f' => (word? ['a', 'l', 's', 'e'] rest).map (Token.bool false, ·)
  | '"' => (pieces? [] rest).map fun (pieces, left) =>
    (.string ((assemble [] pieces).map String.ofList), left)
  | '-' => (numeral? true rest).map fun (number, left) => (.numeral number, left)
  | _ => (numeral? false (some character :: rest)).map fun (number, left) =>
    (.numeral number, left)

/-- The tokens of a received text, or nothing when it is not made of tokens; `fuel` bounds their
number and `read` holds those read so far, last first. -/
def scan? (read : List Token) : Nat → Received → Option (List Token)
  | _, [] => some read.reverse
  | 0, _ :: _ => none
  | _, none :: _ => none
  | fuel + 1, some character :: rest =>
    if isSpace character then scan? read fuel rest
    else
      match next? character rest with
      | none => none
      | some (token, left) => scan? (token :: read) fuel left

/-- The tokens of a received text. No token is empty, so there are at most as many as characters. -/
def ofReceived? (received : Received) : Option (List Token) :=
  scan? [] received.length received

end Token

end CdnPublish.Json
