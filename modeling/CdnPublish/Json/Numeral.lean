import CdnPublish.Decimal.Shortest
import CdnPublish.Json.Basic

/-!
# Numbers in JSON texts

A numeral is a number as it is written. Its value is an integer of sixty-four bits if it is written
as one and fits; otherwise it is the double that the leading digits give after scaling by one power
of ten. A numeral beyond all doubles has no value. In the other direction a double is written with
the fewest digits that read back, positionally where that is short.
-/

namespace CdnPublish.Json

/-- A number as it is written, in digits; `exponent` is its sign and its digits. -/
structure Numeral where
  isNegative : Bool
  integer : List Nat
  fraction : List Nat
  exponent : Option (Bool × List Nat)
  deriving DecidableEq, Repr

namespace Numeral

/-- Digits appended to a number below `2 ^ 64`, as long as it stays there, and how many digits are
left over. -/
def gather (number : Nat) : List Nat → Nat × Nat
  | [] => (number, 0)
  | digit :: rest =>
    if number * 10 + digit < 0x10000000000000000 then gather (number * 10 + digit) rest
    else (number, rest.length + 1)

/-- The largest power of ten that is used at once. -/
def largestPower : Nat := 308

/-- A power of ten as a double. -/
def powerOfTen (exponent : Nat) : Float :=
  Float.ofScientific 1 false exponent

/-- A double divided by a power of ten. -/
def scaleDown (value : Float) (exponent : Nat) : Float :=
  if exponent ≤ largestPower then value / powerOfTen exponent
  else if value == 0.0 then value
  else scaleDown (value / powerOfTen largestPower) (exponent - largestPower)
termination_by exponent
decreasing_by simp [largestPower] at *; omega

/-- A double multiplied by a power of ten, if the result is finite. -/
def scaleUp? (value : Float) (exponent : Nat) : Option Float :=
  if value == 0.0 then some value
  else if largestPower < exponent then none
  else
    let scaled := value * powerOfTen exponent
    if scaled.isInf then none else some scaled

/-- The double `number · 10 ^ exponent`, if it is finite. -/
def scale? (number : Nat) (exponent : Int) : Option Float :=
  let value := number.toUInt64.toFloat
  if exponent < 0 then some (scaleDown value exponent.natAbs) else scaleUp? value exponent.natAbs

/-- The number that a list of digits stands for. -/
def ofDigits (digits : List Nat) : Nat :=
  digits.foldl (fun number digit => number * 10 + digit) 0

/-- The value of the exponent. -/
def exponentValue (numeral : Numeral) : Int :=
  match numeral.exponent with
  | none => 0
  | some (isNegative, digits) =>
    if isNegative then -(ofDigits digits : Int) else ofDigits digits

/-- The absolute value of a numeral as a double, if it is finite. -/
def magnitude? (numeral : Numeral) : Option Float :=
  let (integer, left) := gather 0 numeral.integer
  let (digits, ignored) := gather integer numeral.fraction
  let shift : Int := (left : Int) - ((numeral.fraction.length : Int) - ignored)
  scale? digits (shift + numeral.exponentValue)

/-- The value of a numeral that is not an integer of sixty-four bits. -/
def double? (numeral : Numeral) : Option Json :=
  numeral.magnitude?.map fun value => .float (if numeral.isNegative then -value else value)

/-- The value of a numeral, if it has one. A negative zero is a double. -/
def value? (numeral : Numeral) : Option Json :=
  if numeral.fraction = [] && numeral.exponent = none then
    let number := ofDigits numeral.integer
    if numeral.isNegative then
      if 0 < number && number ≤ 0x8000000000000000 then some (.negative number.toUInt64)
      else numeral.double?
    else if number < 0x10000000000000000 then some (.natural number.toUInt64)
    else numeral.double?
  else
    numeral.double?

end Numeral

namespace Double

/-- The positions of the decimal point for which a double is written positionally: from this one. -/
def plainFrom : Int := -4

/-- The last position of the decimal point for which a double is written positionally. -/
def plainTo : Int := 16

/-- The text of a positive decimal, whose point stands before the digit `point` of its digits. -/
def layout (digits : List Char) (point : Int) : List Char :=
  let count : Int := digits.length
  if plainFrom ≤ point && point ≤ plainTo then
    if count ≤ point then
      digits ++ List.replicate (point - count).toNat '0' ++ ['.', '0']
    else if 0 < point then
      digits.take point.toNat ++ '.' :: digits.drop point.toNat
    else
      ['0', '.'] ++ List.replicate (-point).toNat '0' ++ digits
  else
    let mantissa := if count = 1 then digits else digits.take 1 ++ '.' :: digits.drop 1
    let exponent := point - 1
    mantissa ++ ['e', if exponent < 0 then '-' else '+'] ++ Nat.toDigits 10 exponent.natAbs

/-- The text of a finite double. -/
def text (value : Float) : List Char :=
  let bits := Decimal.magnitudeBits value
  let magnitude :=
    if bits = 0 then ['0', '.', '0']
    else
      let decimal := (Decimal.Binary.ofBits bits).shortest
      let digits := Nat.toDigits 10 decimal.digits
      layout digits (decimal.power + digits.length)
  if Decimal.isNegative value then '-' :: magnitude else magnitude

end Double

end CdnPublish.Json
