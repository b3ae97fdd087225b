import CdnPublish.Text.Utf8

/-!
# Percent encoding

A character that may not stand in some part of a URL is written as its bytes, each as a percent
sign and two hexadecimal digits. Which ASCII characters that are differs from part to part; every
other character is always encoded. A form value additionally writes a blank as a plus sign.
-/

namespace CdnPublish.Url

/-- The parts of a URL that differ in what they encode. -/
inductive Part where
  | hostText
  | fragment
  | query
  | specialQuery
  | path
  | userinfo
  deriving DecidableEq, Repr

/-- The printable ASCII characters that are encoded in a part. -/
def Part.reserved : Part → List Char
  | .hostText => []
  | .fragment => [' ', '"', '<', '>', '\x60']
  | .query => [' ', '"', '#', '<', '>']
  | .specialQuery => [' ', '"', '#', '<', '>', '\x27']
  | .path => [' ', '"', '<', '>', '\x60', '#', '?', '\x7b', '\x7d']
  | .userinfo =>
    [' ', '"', '<', '>', '\x60', '#', '?', '\x7b', '\x7d', '/', ':', ';', '=', '@', '[', '\\', ']',
      '^', '|']

/-- Whether a character is encoded in a part. -/
def Part.encodes (part : Part) (character : Char) : Bool :=
  character.toNat < 0x20 || 0x7E < character.toNat || part.reserved.contains character

/-- A number below sixteen as an upper-case hexadecimal digit. -/
def upperHexDigit (value : Nat) : Char :=
  if value < 10 then Char.ofNat (0x30 + value) else Char.ofNat (0x37 + value)

/-- An encoded byte. -/
def encodedByte (byte : UInt8) : List Char :=
  ['%', upperHexDigit (byte.toNat / 16), upperHexDigit (byte.toNat % 16)]

/-- A text as it is written in a part. -/
def percentEncode (part : Part) (text : List Char) : List Char :=
  text.flatMap fun character =>
    if part.encodes character then (Text.encode [character]).flatMap encodedByte else [character]

/-- The value of a hexadecimal digit. -/
def hexDigitValue? (character : Char) : Option Nat :=
  if '0' ≤ character && character ≤ '9' then some (character.toNat - 0x30)
  else if 'a' ≤ character && character ≤ 'f' then some (character.toNat - 0x57)
  else if 'A' ≤ character && character ≤ 'F' then some (character.toNat - 0x37)
  else none

/-- The bytes of a text in which encoded bytes are decoded. A percent sign without two digits stands
for itself. -/
def percentDecode : List Char → Bytes
  | [] => []
  | '%' :: high :: low :: rest =>
    match hexDigitValue? high, hexDigitValue? low with
    | some high, some low => UInt8.ofNat (high * 16 + low) :: percentDecode rest
    | _, _ => 0x25 :: percentDecode (high :: low :: rest)
  | character :: rest => Text.encode [character] ++ percentDecode rest
termination_by text => text.length

/-- Whether a byte stands for itself in a form value. -/
def isFormSafe (byte : UInt8) : Bool :=
  (Char.ofNat byte.toNat).isAlphanum || byte = 0x2A || byte = 0x2D || byte = 0x2E || byte = 0x5F

/-- A text as a form value. -/
def formEncode (text : List Char) : List Char :=
  (Text.encode text).flatMap fun byte =>
    if isFormSafe byte then [Char.ofNat byte.toNat]
    else if byte = 0x20 then ['+']
    else encodedByte byte

end CdnPublish.Url
