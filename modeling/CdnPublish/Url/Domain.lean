import CdnPublish.Text.Split
import CdnPublish.Text.Utf8
import CdnPublish.Url.Punycode

/-!
# Domain names

A domain name is written in ASCII and in lower case before it is looked up. Capital letters and
wide forms are mapped to the plain ones, invisible characters vanish, and a label that is not ASCII
takes its encoded form behind the mark `xn--`. The mapping covers the scripts of Europe and leaves
the letters of other scripts, most of which have no case, as they are.
-/

namespace CdnPublish.Url.Domain

/-- The mark of an encoded label. -/
def mark : List Char := ['x', 'n', '-', '-']

/-- ASCII characters that a domain name cannot contain. -/
def isForbidden (character : Char) : Bool :=
  character.toNat ≤ 0x20 || character.toNat = 0x7F
    || "%#/:<>?@[\\]^|".toList.contains character

/-- Characters that vanish from a domain name. -/
def isInvisible (character : Char) : Bool :=
  character = '\u00AD' || character = '\u200B' || character = '\u2060' || character = '\uFEFF'

/-- Characters that separate labels. -/
def isDot (character : Char) : Bool :=
  character = '.' || character = '\u3002' || character = '\uFF0E' || character = '\uFF61'

/-- The distance from a capital letter beyond ASCII to its small letter. -/
def caseDistance (code : Nat) : Nat :=
  if 0xC0 ≤ code && code ≤ 0xDE && code ≠ 0xD7 then 32
  else if 0x100 ≤ code && code ≤ 0x137 && code ≠ 0x130 && code % 2 = 0 then 1
  else if 0x139 ≤ code && code ≤ 0x148 && code % 2 = 1 then 1
  else if 0x14A ≤ code && code ≤ 0x177 && code % 2 = 0 then 1
  else if 0x179 ≤ code && code ≤ 0x17E && code % 2 = 1 then 1
  else if code = 0x386 then 38
  else if 0x388 ≤ code && code ≤ 0x38A then 37
  else if code = 0x38C then 64
  else if code = 0x38E || code = 0x38F then 63
  else if 0x391 ≤ code && code ≤ 0x3AB && code ≠ 0x3A2 then 32
  else if 0x400 ≤ code && code ≤ 0x40F then 80
  else if 0x410 ≤ code && code ≤ 0x42F then 32
  else if 0x460 ≤ code && code ≤ 0x481 && code % 2 = 0 then 1
  else if 0x48A ≤ code && code ≤ 0x4BF && code % 2 = 0 then 1
  else if 0x4D0 ≤ code && code ≤ 0x52F && code % 2 = 0 then 1
  else if 0x531 ≤ code && code ≤ 0x556 then 48
  else 0

/-- The characters that a character of a domain name is mapped to. -/
def mapped (character : Char) : List Char :=
  if isInvisible character then []
  else if isDot character then ['.']
  else if character.toNat < 0x80 then [character.toLower]
  else if 0xFF01 ≤ character.toNat && character.toNat ≤ 0xFF5E then
    [(Char.ofNat (character.toNat - 0xFEE0)).toLower]
  else if character.toNat = 0x178 then ['ÿ']
  else if character.toNat = 0x130 then ['i', '\u0307']
  else [Char.ofNat (character.toNat + caseDistance character.toNat)]

/-- Whether a text is ASCII throughout. -/
def isAscii (text : List Char) : Bool :=
  text.all fun character => character.toNat < 0x80

/-- Whether an encoded label, without its mark, stands for a label that needs encoding. -/
def isSound (encoded : List Char) : Bool :=
  match Punycode.decode? encoded with
  | none => false
  | some label =>
    !isAscii label && label.flatMap mapped = label && !label.contains '.'
      && label.all fun character => character.toNat < 0x80 || 0xA0 < character.toNat

/-- The ASCII form of a label. -/
def label? (label : List Char) : Option (List Char) :=
  if isAscii label then
    if mark.isPrefixOf label && !isSound (label.drop mark.length) then none else some label
  else
    some (mark ++ Punycode.encode label)

/-- The ASCII form of a domain name. -/
def toAscii? (bytes : Bytes) : Option (List Char) := do
  let text ← Text.decode? bytes
  let labels ← (Text.pieces '.' (text.flatMap mapped)).mapM label?
  let name := Text.glue '.' labels
  if name.any isForbidden then none else some name

end CdnPublish.Url.Domain
