/-!
# The fewest digits that read back

A double stands for every real number that is nearer to it than to its neighbours. Among the
decimals in that interval `shortest` picks one with the fewest digits, of these the nearest, and of
two equally near the one with an even last digit. All arithmetic is exact and on naturals.
-/

namespace CdnPublish.Decimal

/-- A positive binary number `quarters · 2 ^ exponent` between the ends, in the same units, of the
interval that rounds to it; the ends belong to the interval when it is `closed`. -/
structure Binary where
  below : Nat
  quarters : Nat
  above : Nat
  exponent : Int
  closed : Bool
  deriving Repr

/-- The bits of a double without its sign. -/
def magnitudeBits (value : Float) : Nat :=
  value.toBits.toNat % 0x8000000000000000

/-- Whether the sign bit of a double is set. -/
def isNegative (value : Float) : Bool :=
  0x8000000000000000 ≤ value.toBits.toNat

/-- The finite double with these magnitude bits. The neighbour below a power of two is half as far
away as the one above. -/
def Binary.ofBits (bits : Nat) : Binary :=
  let field : Nat := bits / 0x10000000000000
  let fraction : Nat := bits % 0x10000000000000
  let significand := if field = 0 then fraction else 0x10000000000000 + fraction
  let narrow := fraction = 0 && 1 < field
  { below := 4 * significand - (if narrow then 1 else 2)
    quarters := 4 * significand
    above := 4 * significand + 2
    exponent := ((max field 1 : Nat) : Int) - 1077
    closed := significand % 2 = 0 }

/-- A positive decimal: `digits · 10 ^ power`. -/
structure Scientific where
  digits : Nat
  power : Int
  deriving DecidableEq, Repr

/-- `quarters · 2 ^ exponent` and `digits · 10 ^ power` over a common denominator. -/
def binarySide (quarters : Nat) (exponent power : Int) : Nat :=
  quarters * Nat.pow 2 exponent.toNat * Nat.pow 10 (-power).toNat

/-- The decimal side of `binarySide`; the first factor is the number of digits' units. -/
def decimalSide (digits : Nat) (exponent power : Int) : Nat :=
  digits * Nat.pow 10 power.toNat * Nat.pow 2 (-exponent).toNat

/-- Whether a decimal lies in the interval that rounds to a binary number. -/
def Binary.readsBack (binary : Binary) (decimal : Scientific) : Bool :=
  let point := decimalSide decimal.digits binary.exponent decimal.power
  let low := binarySide binary.below binary.exponent decimal.power
  let high := binarySide binary.above binary.exponent decimal.power
  (low < point || (binary.closed && low = point))
    && (point < high || (binary.closed && point = high))

/-- The multiples of a power of ten next to a binary number, the better one first. -/
def Binary.neighbours (binary : Binary) (power : Int) : List Scientific :=
  let unit := decimalSide 1 binary.exponent power
  let exact := binarySide binary.quarters binary.exponent power
  let digits := exact / unit
  let distance := exact % unit
  let lower : Scientific := ⟨digits, power⟩
  let upper : Scientific := ⟨digits + 1, power⟩
  if 2 * distance < unit || (2 * distance = unit && digits % 2 = 0) then [lower, upper]
  else [upper, lower]

/-- The least number of integral digits, between zero and `fuel`, that a binary number fits in. -/
def Binary.magnitudeFrom (binary : Binary) (start : Int) : Nat → Int
  | 0 => start
  | fuel + 1 =>
    if binarySide binary.quarters binary.exponent start < decimalSide 1 binary.exponent start then
      start
    else
      binary.magnitudeFrom (start + 1) fuel

/-- The position of the decimal point: the least `p` with the number below `10 ^ p`. -/
def Binary.magnitude (binary : Binary) : Int :=
  binary.magnitudeFrom (-330) 650

/-- The decimal without the zeros at the end of its digits. -/
def Scientific.strip (decimal : Scientific) : Nat → Scientific
  | 0 => decimal
  | fuel + 1 =>
    if decimal.digits % 10 = 0 then
      (⟨decimal.digits / 10, decimal.power + 1⟩ : Scientific).strip fuel
    else
      decimal

/-- The decimal with the fewest digits that reads back as a positive binary number. -/
def Binary.shortest (binary : Binary) : Scientific :=
  let magnitude := binary.magnitude
  let candidates := (List.range 17).findSome? fun digits =>
    (binary.neighbours (magnitude - ((digits + 1 : Nat) : Int))).find? binary.readsBack
  match candidates with
  | some decimal => decimal.strip 20
  | none => ⟨binary.quarters, 0⟩

end CdnPublish.Decimal
