/-!
# Labels of international host names

A label of a host name that is not ASCII is sent in an ASCII form: its ASCII characters, and behind
a hyphen the other characters in the order of their code points, each as a difference to the one
before it. A difference is written in base thirty-six with digits whose thresholds adapt to the
differences seen so far.
-/

namespace CdnPublish.Url.Punycode

/-- The number of digits. -/
def base : Nat := 36

/-- The first code point that is not ASCII, where counting starts. -/
def firstCodePoint : Nat := 0x80

/-- The bias before anything is encoded. -/
def firstBias : Nat := 72

/-- The digit of a value below thirty-six. -/
def digit (value : Nat) : Char :=
  if value < 26 then Char.ofNat (0x61 + value) else Char.ofNat (0x30 + value - 26)

/-- The value of a digit. -/
def digitValue? (character : Char) : Option Nat :=
  if 'a' ≤ character && character ≤ 'z' then some (character.toNat - 0x61)
  else if 'A' ≤ character && character ≤ 'Z' then some (character.toNat - 0x41)
  else if '0' ≤ character && character ≤ '9' then some (character.toNat - 0x30 + 26)
  else none

/-- The threshold of the digit at a position, which is a multiple of the base. -/
def threshold (position bias : Nat) : Nat :=
  if position ≤ bias then 1 else min (position - bias) 26

/-- Divides until small; `position` counts the divisions. -/
def settle (delta position : Nat) : Nat × Nat :=
  if delta ≤ 455 then (delta, position) else settle (delta / 35) (position + base)
termination_by delta

/-- The bias after a difference. -/
def adapt (delta count : Nat) (isFirst : Bool) : Nat :=
  let damped := if isFirst then delta / 700 else delta / 2
  let (rest, position) := settle (damped + damped / count) 0
  position + 36 * rest / (rest + 38)

theorem threshold_bounds (position bias : Nat) :
    1 ≤ threshold position bias ∧ threshold position bias ≤ 26 := by
  unfold threshold
  split <;> omega

/-- A difference in digits. -/
def variableLength (bias position value : Nat) : List Char :=
  let limit := threshold position bias
  if value < limit then [digit value]
  else
    digit (limit + (value - limit) % (base - limit))
      :: variableLength bias (position + base) ((value - limit) / (base - limit))
termination_by value
decreasing_by
  have bounds := threshold_bounds position bias
  have smaller : (value - threshold position bias) / (base - threshold position bias)
      ≤ value - threshold position bias := Nat.div_le_self _ _
  omega

/-- Where an encoder stands: the code point reached, the pending difference, the bias, and the
number of characters dealt with. -/
structure Encoder where
  codePoint : Nat
  delta : Nat
  bias : Nat
  handled : Nat
  output : List Char

/-- One pass over the label for one code point: characters below it are counted, and each
occurrence of it is written. `plain` is the number of ASCII characters. -/
def pass (plain : Nat) (encoder : Encoder) : List Nat → Encoder
  | [] => encoder
  | code :: rest =>
    if code < encoder.codePoint then
      pass plain { encoder with delta := encoder.delta + 1 } rest
    else if code = encoder.codePoint then
      pass plain { encoder with
        delta := 0
        bias := adapt encoder.delta (encoder.handled + 1) (encoder.handled = plain)
        handled := encoder.handled + 1
        output := encoder.output ++ variableLength encoder.bias base encoder.delta } rest
    else
      pass plain encoder rest

/-- Passes for the distinct code points beyond ASCII, in order. -/
def passes (codes : List Nat) (plain : Nat) (encoder : Encoder) : List Nat → Encoder
  | [] => encoder
  | next :: others =>
    let ready := { encoder with
      codePoint := next
      delta := encoder.delta + (next - encoder.codePoint) * (encoder.handled + 1) }
    let done := pass plain ready codes
    passes codes plain { done with codePoint := next + 1, delta := done.delta + 1 } others

/-- The encoded form of a label, without a mark that it is encoded. -/
def encode (label : List Char) : List Char :=
  let codes := label.map Char.toNat
  let plain := label.filter fun character => character.toNat < firstCodePoint
  let others := ((codes.filter (firstCodePoint ≤ ·)).mergeSort (· ≤ ·)).eraseDups
  let start := if plain = [] then [] else plain ++ ['-']
  (passes codes plain.length ⟨firstCodePoint, 0, firstBias, plain.length, start⟩ others).output

/-- Reads a difference: its value and the digits that follow it. -/
def readDifference (bias position weight value : Nat) : List Char → Option (Nat × List Char)
  | [] => none
  | character :: rest =>
    match digitValue? character with
    | none => none
    | some found =>
      let limit := threshold position bias
      let sum := value + found * weight
      if found < limit then some (sum, rest)
      else readDifference bias (position + base) (weight * (base - limit)) sum rest

/-- The characters with one more put at an index. -/
def insertAt (characters : List Char) (index : Nat) (character : Char) : List Char :=
  characters.take index ++ character :: characters.drop index

/-- Reads differences and puts their characters into place; `fuel` bounds their number. -/
def readAll (characters : List Char) (codePoint index bias : Nat) (isFirst : Bool) :
    Nat → List Char → Option (List Char)
  | _, [] => some characters
  | 0, _ :: _ => none
  | fuel + 1, digits =>
    match readDifference bias base 1 0 digits with
    | none => none
    | some (delta, rest) =>
      let count := characters.length + 1
      let position := index + delta
      let code := codePoint + position / count
      if 0x10FFFF < code || (0xD800 ≤ code && code ≤ 0xDFFF) then none
      else
        readAll (insertAt characters (position % count) (Char.ofNat code)) code
          (position % count + 1) (adapt delta count isFirst) false fuel rest

/-- The label of an encoded form. -/
def decode? (encoded : List Char) : Option (List Char) :=
  let digits := (encoded.reverse.takeWhile (· ≠ '-')).reverse
  let plain := encoded.take (encoded.length - digits.length - 1)
  readAll plain firstCodePoint 0 firstBias true digits.length digits

end CdnPublish.Url.Punycode
