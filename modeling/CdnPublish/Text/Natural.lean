/-!
# Natural numbers as texts

Decimal digits, with a plus sign before them or without, for a number that is stored in 64 bits. The
reader goes from left to right and stops at the first character that makes the text no such number.
-/

namespace CdnPublish.Text

/-- Why a text is no natural number of 64 bits. -/
inductive NaturalFault where
  | empty
  | badDigit
  | tooLarge
  deriving DecidableEq, Repr

/-- The wording of such a fault. -/
def NaturalFault.message : NaturalFault → String
  | .empty => "cannot parse integer from empty string"
  | .badDigit => "invalid digit found in string"
  | .tooLarge => "number too large to fit in target type"

/-- The numbers of 64 bits are below this one. -/
def naturalBound : Nat := 0x10000000000000000

/-- Reads digits behind those that make up a number. -/
def naturalFrom (number : Nat) : List Char → Except NaturalFault Nat
  | [] => .ok number
  | character :: rest =>
    if !character.isDigit then .error .badDigit
    else
      let next := number * 10 + (character.toNat - 0x30)
      if next < naturalBound then naturalFrom next rest else .error .tooLarge

/-- The number that a text stands for. -/
def natural (text : List Char) : Except NaturalFault Nat :=
  match text with
  | [] => .error .empty
  | ['+'] => .error .badDigit
  | '+' :: digits => naturalFrom 0 digits
  | digits => naturalFrom 0 digits

end CdnPublish.Text
