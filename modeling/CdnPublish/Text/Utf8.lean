/-!
# UTF-8

File names and file contents are byte strings; texts are lists of characters. `decode?` reads a
byte string that is well formed, `decodeLossy` reads any byte string and writes one replacement
character for every maximal ill-formed sequence, which is how names are shown and put into
destination paths. Both are readings of the same scan.
-/

namespace CdnPublish

/-- A string of bytes: a file name, a file's content, a message body. -/
abbrev Bytes := List UInt8

namespace Text

/-- What the first byte of a sequence promises: how many bytes follow, the range of the first of
them, and the bits that the byte itself contributes. -/
structure Lead where
  following : Nat
  low : UInt8
  high : UInt8
  bits : Nat

/-- The lead bytes of well-formed sequences; the ranges rule out overlong forms, surrogates and
values beyond the last code point. -/
def Lead.of? (byte : UInt8) : Option Lead :=
  if byte < 0x80 then some ⟨0, 0x80, 0xBF, byte.toNat⟩
  else if byte < 0xC2 then none
  else if byte < 0xE0 then some ⟨1, 0x80, 0xBF, byte.toNat % 32⟩
  else if byte == 0xE0 then some ⟨2, 0xA0, 0xBF, 0⟩
  else if byte == 0xED then some ⟨2, 0x80, 0x9F, 13⟩
  else if byte < 0xF0 then some ⟨2, 0x80, 0xBF, byte.toNat % 16⟩
  else if byte == 0xF0 then some ⟨3, 0x90, 0xBF, 0⟩
  else if byte < 0xF4 then some ⟨3, 0x80, 0xBF, byte.toNat % 8⟩
  else if byte == 0xF4 then some ⟨3, 0x80, 0x8F, 4⟩
  else none

/-- Reads the promised continuation bytes: the code point, or nothing when one of them is out of
range, together with the bytes that are left. -/
def continuation : Nat → UInt8 → UInt8 → Nat → Bytes → Option Nat × Bytes
  | 0, _, _, value, rest => (some value, rest)
  | _ + 1, _, _, _, [] => (none, [])
  | following + 1, low, high, value, byte :: rest =>
    if low ≤ byte && byte ≤ high then
      continuation following 0x80 0xBF (value * 64 + byte.toNat % 64) rest
    else
      (none, byte :: rest)

theorem continuation_length_le (following : Nat) (low high : UInt8) (value : Nat) (rest : Bytes) :
    (continuation following low high value rest).2.length ≤ rest.length := by
  fun_induction continuation following low high value rest with
  | case1 => simp
  | case2 => simp
  | case3 _ _ _ _ _ _ _ shorter => simp; omega
  | case4 => simp

/-- The first character of a byte string, or nothing when it starts with an ill-formed sequence,
and the bytes after it. -/
def firstCharacter (byte : UInt8) (rest : Bytes) : Option Char × Bytes :=
  match Lead.of? byte with
  | none => (none, rest)
  | some lead =>
    let (value, left) := continuation lead.following lead.low lead.high lead.bits rest
    (value.map Char.ofNat, left)

theorem firstCharacter_length_le (byte : UInt8) (rest : Bytes) :
    (firstCharacter byte rest).2.length ≤ rest.length := by
  unfold firstCharacter
  split
  · simp
  · exact continuation_length_le ..

/-- A text as it was received: characters, and nothing in the place of each maximal ill-formed
sequence of bytes. -/
abbrev Received := List (Option Char)

/-- The scan behind both readings: `read` keeps what was read so far, last character first. -/
def scan (read : Received) : Bytes → Received
  | [] => read.reverse
  | byte :: rest => scan ((firstCharacter byte rest).1 :: read) (firstCharacter byte rest).2
termination_by bytes => bytes.length
decreasing_by
  have := firstCharacter_length_le byte rest
  simp
  omega

/-- A byte string as a received text. -/
def receive (bytes : Bytes) : Received :=
  scan [] bytes

/-- The characters of a byte string, with U+FFFD for every maximal ill-formed sequence. -/
def decodeLossy (bytes : Bytes) : List Char :=
  (receive bytes).map (·.getD '\uFFFD')

/-- The characters of a byte string, if all of it is well formed. -/
def decode? (bytes : Bytes) : Option (List Char) :=
  (receive bytes).mapM id

/-- The bytes of a text. -/
def encode (text : List Char) : Bytes :=
  (String.ofList text).toUTF8.toList

end Text

/-- A byte string as shown to a reader. -/
def Bytes.shown (bytes : Bytes) : String :=
  String.ofList (Text.decodeLossy bytes)

/-- The bytes of a string. -/
def Bytes.ofString (text : String) : Bytes :=
  text.toUTF8.toList

end CdnPublish
