import CdnPublish.Url.Domain
import CdnPublish.Url.Fault
import CdnPublish.Url.Percent

/-!
# Hosts

The host of a URL of the web is a domain name or an address. A name whose last label is a number is
an address of four bytes, which has many spellings and one canonical form; an address in brackets
has sixteen bytes. The host of any other URL is kept as it is written.
-/

namespace CdnPublish.Url

/-- A host. -/
inductive Host where
  /-- No name at all. -/
  | empty
  | domain (name : List Char)
  | ipv4 (address : Nat)
  /-- Eight groups of sixteen bits. -/
  | ipv6 (groups : List Nat)
  /-- A name that means something only to its scheme. -/
  | verbatim (name : List Char)
  deriving DecidableEq, Repr

/-- The number that a list of digits stands for in a base. -/
def ofDigits (base : Nat) (digits : List Nat) : Nat :=
  digits.foldl (fun number digit => number * base + digit) 0

/-- The number that a text stands for in a base; it must be made of digits of that base. -/
def numberIn? (base : Nat) (text : List Char) : Option Nat := do
  let digits ← text.mapM hexDigitValue?
  if digits.all (· < base) then some (ofDigits base digits) else none

namespace Ipv4

/-- A part of an address: decimal, or octal behind a `0`, or hexadecimal behind `0x`. -/
def part? : List Char → Option Nat
  | [] => none
  | '0' :: 'x' :: digits => numberIn? 16 digits
  | '0' :: 'X' :: digits => numberIn? 16 digits
  | '0' :: digit :: digits => numberIn? 8 (digit :: digits)
  | digits => numberIn? 10 digits

/-- The labels of a name, without an empty one at the end. -/
def labels (name : List Char) : List (List Char) :=
  let all := Text.pieces '.' name
  if all.getLast? = some [] && 1 < all.length then all.dropLast else all

/-- Whether a name must be an address: its last label is a number. -/
def isMeant (name : List Char) : Bool :=
  match (labels name).getLast? with
  | none => false
  | some last => (last ≠ [] && last.all Char.isDigit) || (part? last).isSome

/-- The address whose leading bytes are given one by one and whose last part fills the rest. -/
def combine? : List Nat → Option Nat
  | [] => none
  | parts =>
    let leading := parts.dropLast
    let last := parts.getLastD 0
    let room := 4 - leading.length
    if leading.length ≤ 3 && leading.all (· ≤ 255) && last < Nat.pow 256 room then
      some (ofDigits 256 leading * Nat.pow 256 room + last)
    else none

/-- The address that a name stands for. -/
def parse? (name : List Char) : Option Nat :=
  ((labels name).mapM part?).bind combine?

/-- The canonical form of an address. -/
def text (address : Nat) : List Char :=
  Text.glue '.' ([3, 2, 1, 0].map fun byte => Nat.toDigits 10 (address / Nat.pow 256 byte % 256))

end Ipv4

namespace Ipv6

/-- A group: one to four hexadecimal digits. -/
def group? (text : List Char) : Option Nat :=
  if text ≠ [] && text.length ≤ 4 then numberIn? 16 text else none

/-- A byte in decimal digits, without a leading zero. -/
def byte? (text : List Char) : Option Nat :=
  match text with
  | [] => none
  | ['0'] => some 0
  | '0' :: _ => none
  | digits =>
    match numberIn? 10 digits with
    | some value => if value ≤ 255 then some value else none
    | none => none

/-- The two groups that an address of four bytes makes. -/
def embedded? (text : List Char) : Option (List Nat) :=
  match (Text.pieces '.' text).mapM byte? with
  | some [first, second, third, fourth] => some [first * 256 + second, third * 256 + fourth]
  | _ => none

/-- Groups between colons; the last may be an address of four bytes where that is allowed. -/
def groups? (mayEmbed : Bool) : List (List Char) → Option (List Nat)
  | [] => some []
  | [last] =>
    if mayEmbed && last.contains '.' then embedded? last else (group? last).map ([·])
  | group :: next :: others => do
    return (← group? group) :: (← groups? mayEmbed (next :: others))

/-- The groups of a text, which may be empty. -/
def side? (mayEmbed : Bool) (text : List Char) : Option (List Nat) :=
  if text = [] then some [] else groups? mayEmbed (Text.pieces ':' text)

/-- What stands before and after the first pair of colons. -/
def cutAtPair : List Char → Option (List Char × List Char)
  | ':' :: ':' :: rest => some ([], rest)
  | character :: rest =>
    (cutAtPair rest).map fun (before, after) => (character :: before, after)
  | [] => none

/-- The eight groups of an address; a pair of colons stands for one or more groups of zeros. -/
def parse? (text : List Char) : Option (List Nat) :=
  match cutAtPair text with
  | none => do
    let groups ← side? true text
    if groups.length = 8 then some groups else none
  | some (before, after) => do
    let left ← side? false before
    let right ← side? true after
    let given := left.length + right.length
    if given ≤ 7 then some (left ++ List.replicate (8 - given) 0 ++ right) else none

/-- How many groups at the start are zero. -/
def zeros (groups : List Nat) : Nat :=
  (groups.takeWhile (· = 0)).length

/-- Where the longest run of zeros starts, the first of several, and how long it is. -/
def longestZeros (index : Nat) (best : Nat × Nat) : List Nat → Nat × Nat
  | [] => best
  | group :: rest =>
    let run := zeros (group :: rest)
    longestZeros (index + 1) (if best.2 < run then (index, run) else best) rest

/-- A group in hexadecimal digits. -/
def groupText (group : Nat) : List Char :=
  Nat.toDigits 16 group

/-- The canonical form of an address: the longest run of two or more zeros is a pair of colons. -/
def text (groups : List Nat) : List Char :=
  let (start, run) := longestZeros 0 (0, 0) groups
  if run < 2 then Text.glue ':' (groups.map groupText)
  else
    Text.glue ':' ((groups.take start).map groupText) ++ [':', ':']
      ++ Text.glue ':' ((groups.drop (start + run)).map groupText)

end Ipv6

namespace Host

/-- The text between brackets. -/
def inBrackets? (text : List Char) : Option (List Char) :=
  if text.getLast? = some ']' then some (text.drop 1).dropLast else none

/-- The host in brackets. -/
def bracketed (text : List Char) : Except Fault Host :=
  match (inBrackets? text).bind Ipv6.parse? with
  | some groups => .ok (.ipv6 groups)
  | none => .error .invalidIpv6

/-- The host of a URL of the web. -/
def parse (text : List Char) : Except Fault Host :=
  if text.head? = some '[' then bracketed text
  else
    match Domain.toAscii? (percentDecode text) with
    | none => .error .invalidDomain
    | some [] => .error .emptyHost
    | some name =>
      if Ipv4.isMeant name then
        match Ipv4.parse? name with
        | some address => .ok (.ipv4 address)
        | none => .error .invalidIpv4
      else .ok (.domain name)

/-- Characters that no host contains. -/
def isForbidden (character : Char) : Bool :=
  "\x00\t\n\r #/:<>?@[\\]^|".toList.contains character

/-- The host of a URL whose scheme has no rules for hosts. -/
def parseVerbatim (text : List Char) : Except Fault Host :=
  if text.head? = some '[' then bracketed text
  else if text.any isForbidden then .error .invalidDomainCharacter
  else if text = [] then .ok .empty
  else .ok (.verbatim (percentEncode .hostText text))

/-- A host as it is written in a URL. -/
def text : Host → List Char
  | .empty => []
  | .domain name => name
  | .ipv4 address => Ipv4.text address
  | .ipv6 groups => '[' :: Ipv6.text groups ++ [']']
  | .verbatim name => name

end Host

end CdnPublish.Url
