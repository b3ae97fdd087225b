/-!
# Blank characters

The characters with the Unicode property `White_Space`, and texts made of nothing else.
-/

namespace CdnPublish.Text

/-- The `White_Space` property of Unicode: twenty-five characters. -/
def isBlank (character : Char) : Bool :=
  let code := character.toNat
  (0x09 ≤ code && code ≤ 0x0D) || code == 0x20 || code == 0x85 || code == 0xA0 || code == 0x1680
    || (0x2000 ≤ code && code ≤ 0x200A) || code == 0x2028 || code == 0x2029 || code == 0x202F
    || code == 0x205F || code == 0x3000

/-- A text that shows nothing: it is empty or blank throughout. -/
def isVoid (text : List Char) : Bool :=
  text.all isBlank

end CdnPublish.Text
