import CdnPublish.Yaml.Scalar

/-!
# Names in YAML texts

How the names of tags, anchors and aliases are written, and the directives that shorten tags. All
readers give what they have read and the place behind it, or nothing when it is not well written.
-/

namespace CdnPublish.Yaml

/-- Whether a character may stand in a tag; a tag that is written in full holds a few more. -/
def isTagChar (inFull : Bool) (character : Char) : Bool :=
  isWordChar character || ";/?:@&=+$.%!~*\x27()".toList.contains character
    || (inFull && [',', '[', ']'].contains character)

/-- The octets that a lead octet of UTF-8 announces, itself included. -/
def octetCount? (lead : Nat) : Option Nat :=
  if lead < 0x80 then some 1
  else if lead / 0x20 = 0x6 then some 2
  else if lead / 0x10 = 0xE then some 3
  else if lead / 0x08 = 0x1E then some 4
  else none

/-- The octet that a percent sign and two digits stand for. -/
def escapedOctet? : List Char → Option Nat
  | '%' :: high :: low :: _ => do
    let high ← hexValue? high
    let low ← hexValue? low
    return high * 16 + low
  | _ => none

/-- Reads some further octets of an escaped character. -/
def trailingOctets? (cursor : Cursor) : Nat → Option (List Nat × Cursor)
  | 0 => some ([], cursor)
  | count + 1 => do
    let octet ← escapedOctet? cursor.rest
    if octet / 0x40 ≠ 0x2 then none
    else
      let (octets, behind) ← trailingOctets? (cursor.skipMany 3) count
      return (octet :: octets, behind)

/-- Reads an escaped character of a tag. It counts as its octets. -/
def escapedTagChar? (cursor : Cursor) : Option (List Char × Cursor) := do
  let lead ← escapedOctet? cursor.rest
  let count ← octetCount? lead
  let (octets, behind) ← trailingOctets? (cursor.skipMany 3) (count - 1)
  return ((lead :: octets).map Char.ofNat, behind)

/-- Reads the characters of a tag. -/
def tagChars? (inFull : Bool) (cursor : Cursor) : Nat → Option (List Char × Cursor)
  | 0 => none
  | fuel + 1 =>
    match cursor.rest with
    | '%' :: _ => do
      let (octets, behind) ← escapedTagChar? cursor
      let (rest, behind) ← tagChars? inFull behind fuel
      return (octets ++ rest, behind)
    | character :: _ =>
      if isTagChar inFull character then do
        let (rest, behind) ← tagChars? inFull cursor.skip fuel
        return (character :: rest, behind)
      else some ([], cursor)
    | [] => some ([], cursor)

/-- Reads the characters of a tag to their end. -/
def tagText? (inFull : Bool) (cursor : Cursor) : Option (List Char × Cursor) :=
  tagChars? inFull cursor (cursor.rest.length + 1)

/-- Reads the characters of a tag, of which there must be some. -/
def someTagText? (inFull : Bool) (cursor : Cursor) : Option (List Char × Cursor) := do
  let (text, behind) ← tagText? inFull cursor
  if text = [] then none else some (text, behind)

/-- Reads an exclamation mark, a word, and the second mark that may follow. -/
def handle? (cursor : Cursor) : Option (List Char × Cursor) :=
  match cursor.rest with
  | '!' :: rest =>
    let word := rest.takeWhile isWordChar
    let behind := cursor.skip.skipMany word.length
    if behind.next? = some '!' then some ('!' :: word ++ ['!'], behind.skip)
    else some ('!' :: word, behind)
  | _ => none

/-- Whether a handle has a mark at each end. -/
def isClosed (handle : List Char) : Bool :=
  1 < handle.length && handle.getLast? = some '!'

/-- Reads a tag that is not written in full. A word behind one mark belongs to the tag itself, and a
mark alone is a tag of its own. -/
def shortTag? (cursor : Cursor) : Option (TagName × Cursor) := do
  let (handle, behind) ← handle? cursor
  if isClosed handle then
    let (suffix, behind) ← someTagText? false behind
    return (⟨handle, suffix⟩, behind)
  else
    let (rest, behind) ← tagText? false behind
    let suffix := handle.drop 1 ++ rest
    return (if suffix = [] then ⟨[], ['!']⟩ else ⟨['!'], suffix⟩, behind)

/-- Reads a tag that is written in full between angle brackets. -/
def fullTag? (cursor : Cursor) : Option (TagName × Cursor) := do
  let (suffix, behind) ← someTagText? true (cursor.skipMany 2)
  if behind.next? = some '>' then some (⟨[], suffix⟩, behind.skip) else none

/-- Reads a tag and checks that it ends there. -/
def tagName? (inFlow : Bool) (cursor : Cursor) : Option (TagName × Cursor) := do
  let (name, behind) ← if cursor.hasAt 1 '<' then fullTag? cursor else shortTag? cursor
  if behind.isGapAt 0 || (inFlow && behind.next? = some ',') then some (name, behind) else none

/-- Reads the name of an anchor or an alias behind its indicator. -/
def anchorName? (cursor : Cursor) : Option (List Char × Cursor) :=
  let name := cursor.rest.takeWhile isWordChar
  let behind := cursor.skipMany name.length
  let ends := behind.isGapAt 0
    || behind.next?.any ['?', ':', ',', ']', '\x7d', '%', '@', '\x60'].contains
  if name ≠ [] && ends then some (name, behind) else none

/-! ### Directives -/

/-- Reads a number of at most nine digits. -/
def versionNumber? (cursor : Cursor) : Option (Nat × Cursor) :=
  let digits := cursor.rest.takeWhile Char.isDigit
  if digits = [] || 9 < digits.length then none
  else
    let number := digits.foldl (fun number digit => number * 10 + (digit.toNat - 0x30)) 0
    some (number, cursor.skipMany digits.length)

/-- Reads the value of a version directive. -/
def versionDirective? (cursor : Cursor) : Option (Token × Cursor) := do
  let (major, behind) ← versionNumber? (cursor.skipWhile isBlank)
  if behind.next? ≠ some '.' then none
  else
    let (minor, behind) ← versionNumber? behind.skip
    return (.versionDirective major minor, behind)

/-- Reads the value of a tag directive. -/
def tagDirective? (cursor : Cursor) : Option (Token × Cursor) := do
  let (handle, behind) ← handle? (cursor.skipWhile isBlank)
  if (handle ≠ ['!'] && !isClosed handle) || !behind.next?.any isBlank then none
  else
    let (start, behind) ← someTagText? true (behind.skipWhile isBlank)
    if behind.isGapAt 0 then some (.tagDirective handle start, behind) else none

/-- Reads a directive behind its indicator, to the end of its line. -/
def directive? (cursor : Cursor) : Option (Token × Cursor) := do
  let name := cursor.rest.takeWhile isWordChar
  let behind := cursor.skipMany name.length
  if !behind.isGapAt 0 then none
  else
    let (token, behind) ←
      if name = "YAML".toList then versionDirective? behind
      else if name = "TAG".toList then tagDirective? behind
      else none
    let lineEnd := (behind.skipWhile isBlank).skipComment
    if lineEnd.isLineEnd then some (token, lineEnd.skipBreak.2) else none

end CdnPublish.Yaml
