import CdnPublish.Text.Blank

/-!
# Deadlines

A deadline is a date and a time of day, written as in `2030-01-31T23:59:59Z`. It is read leniently:
blanks may stand before each number, a number may have fewer digits than usual, and behind a sign a
year may have any number of digits. What is read has to be a date of the calendar.
-/

namespace CdnPublish

/-- A date and a time of day, to the second. -/
structure Moment where
  year : Int
  month : Nat
  day : Nat
  hour : Nat
  minute : Nat
  second : Nat
  deriving DecidableEq, Repr

namespace Moment

/-- Whether a year has a leap day. -/
def isLeapYear (year : Int) : Bool :=
  year % 4 = 0 && (year % 100 ≠ 0 || year % 400 = 0)

/-- The days of a month. -/
def daysIn (year : Int) (month : Nat) : Nat :=
  if month = 2 then (if isLeapYear year then 29 else 28)
  else if month = 4 || month = 6 || month = 9 || month = 11 then 30
  else 31

/-- The first and the last year of the calendar. -/
def years : Int × Int := (-262143, 262142)

/-- Whether the date is one of the calendar. -/
def hasDate (moment : Moment) : Bool :=
  years.1 ≤ moment.year && moment.year ≤ years.2
    && 1 ≤ moment.month && moment.month ≤ 12
    && 1 ≤ moment.day && moment.day ≤ daysIn moment.year moment.month

end Moment

/-- Why a text is no deadline. -/
inductive Deadline.Fault where
  | premature
  | unexpected
  | trailing
  | outOfRange
  deriving DecidableEq, Repr

/-- The wording of such a fault. -/
def Deadline.Fault.message : Deadline.Fault → String
  | .premature => "premature end of input"
  | .unexpected => "input contains invalid characters"
  | .trailing => "trailing input"
  | .outOfRange => "input is out of range"

namespace Deadline

/-- Reads from the start of a text. -/
abbrev Reader := StateT (List Char) (Except Fault)

/-- Reads one given character. -/
def exactly (character : Char) : Reader Unit := do
  match ← get with
  | [] => throw .premature
  | next :: rest => if next = character then set rest else throw .unexpected

/-- Goes past blanks. -/
def skipBlanks : Reader Unit :=
  modify (·.dropWhile Text.isBlank)

/-- Reads the digits that follow, of which there must be one, up to `most` if that is given. -/
def digits (most : Option Nat) : Reader Nat := do
  let text ← get
  let all := text.takeWhile Char.isDigit
  let read := (most.map all.take).getD all
  if text = [] then throw .premature
  else if read = [] then throw .unexpected
  else
    set (text.drop read.length)
    return read.foldl (fun number digit => number * 10 + (digit.toNat - 0x30)) 0

/-- Reads a number of at most two digits between two bounds. -/
def field (least greatest : Nat) : Reader Nat := do
  skipBlanks
  let number ← digits (some 2)
  if least ≤ number && number ≤ greatest then return number else throw .outOfRange

/-- Reads a number with a sign and any number of digits, or without one and with up to four. -/
def signedNumber : Reader Int := do
  match ← get with
  | '-' :: rest =>
    set rest
    return -(← digits none)
  | '+' :: rest =>
    set rest
    return (← digits none)
  | _ => return (← digits (some 4))

/-- Reads a year, which has to fit in 32 bits. -/
def year : Reader Int := do
  skipBlanks
  let number ← signedNumber
  if -0x80000000 ≤ number && number < 0x80000000 then return number else throw .outOfRange

/-- Reads a date and a time of day. -/
def moment : Reader Moment := do
  let year ← year
  exactly '-'
  let month ← field 1 12
  exactly '-'
  let day ← field 1 31
  exactly 'T'
  let hour ← field 0 23
  exactly ':'
  let minute ← field 0 59
  exactly ':'
  let second ← field 0 60
  exactly 'Z'
  return { year, month, day, hour, minute, second }

/-- What a text means as a deadline. -/
def parse (text : String) : Except Fault Moment := do
  let (moment, rest) ← moment.run text.toList
  if rest ≠ [] then throw .trailing
  else if moment.hasDate then return moment
  else throw .outOfRange

end Deadline

end CdnPublish
