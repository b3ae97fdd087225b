import CdnPublish.CommandLine.Notice

/-!
# Reading a command line

A command line is read word by word. Options stand before the command or behind it, and an option
may hold its value or be followed by it. An option whose value is still open, and values with a
place, are looked at when the next argument starts or the line ends; so of two mistakes the one that
is found first is not always the one that stands first.
-/

namespace CdnPublish.CommandLine

/-- What can stand in a part of the line: in front of the command, or behind it. -/
structure Section where
  options : List Argument
  places : List Argument
  /-- Whether a command can follow. -/
  leadsToVerb : Bool

namespace Section

/-- The part of the line up to the command. -/
def front : Section := ⟨Argument.everywhere ++ [.help, .version], [], true⟩

/-- The part of the line behind a command. -/
def behind (verb : Verb) : Section :=
  ⟨Argument.optionsOf verb ++ Argument.everywhere ++ [.help], Argument.placesOf verb, false⟩

end Section

/-- What has been read of a part of the line. -/
structure Reading where
  /-- The arguments so far with their values; one without a value has an empty one. -/
  given : List (Argument × String)
  /-- An argument whose values have not been looked at. -/
  pending : Option (Argument × List String)
  /-- Whether the next word is a value for it. -/
  awaitsValue : Bool
  /-- How many places are filled. -/
  filled : Nat
  /-- Whether all words are values from here on. -/
  isVerbatim : Bool

namespace Reading

/-- The start of a part of the line. -/
def start : Reading := ⟨[], none, false, 0, false⟩

/-- Whether an argument is there. -/
def has (reading : Reading) (argument : Argument) : Bool :=
  reading.given.any (·.1 = argument)

/-- The value of an argument. -/
def value? (reading : Reading) (argument : Argument) : Option String :=
  reading.given.lookup argument

/-- All values of an argument. -/
def values (reading : Reading) (argument : Argument) : List String :=
  (reading.given.filter (·.1 = argument)).map (·.2)

/-- One more argument, unless it may be given only once and has been. -/
def add (reading : Reading) (argument : Argument) (values : List String) :
    Except Notice Reading :=
  if reading.has argument && !argument.isRepeatable then .error (.fault (.repeated argument))
  else .ok { reading with given := reading.given ++ values.map (argument, ·) }

/-- The fault of a value. -/
def valueNotice (argument : Argument) (value : String) : ValueFault → Notice
  | .missing => .fault (.noValue argument)
  | .invalid cause => .fault (.invalidValue argument value cause)

/-- Looks at the values of an argument that is pending. -/
def settle (reading : Reading) : Except Notice Reading :=
  match reading.pending with
  | none => .ok reading
  | some (argument, []) => .error (.fault (.noValue argument))
  | some (argument, values) => do
    let settled ← { reading with pending := none, awaitsValue := false }.add argument values
    values.forM fun value => (argument.check value).mapError (valueNotice argument value)
    return settled

/-- One more option that has no value. -/
def raise (reading : Reading) (option : Argument) (verb : Option Verb) : Except Notice Reading := do
  let settled ← reading.settle
  match option with
  | .help => .error (.help verb)
  | .version => .error .version
  | option => settled.add option [""]

/-- One more option that has a value, in the same word or in the next one. -/
def expect (reading : Reading) (option : Argument) (attached : Option String) :
    Except Notice Reading := do
  let settled ← reading.settle
  match attached with
  | some value => settle { settled with pending := some (option, [value]) }
  | none => return { settled with pending := some (option, []), awaitsValue := true }

/-- A word that starts with two hyphens, without them: the name of an option and what is attached to
it behind an equals sign. -/
def long (part : Section) (verb : Option Verb) (reading : Reading) (word : List Char) :
    Except Notice Reading :=
  let (name, attached) := (Text.cut '=' word).elim (word, none) fun (name, value) =>
    (name, some (String.ofList value))
  match part.options.find? (·.name? = some (String.ofList name)), attached with
  | none, _ => .error (.fault (.unknownArgument ("--" ++ String.ofList name)))
  | some option, attached =>
    if option.valueName?.isSome then reading.expect option attached
    else
      match attached with
      | none => reading.raise option verb
      | some value => .error (.fault (.needlessValue option value))

/-- A word that starts with one hyphen, without it: letters that are short for options. -/
def letters (part : Section) (verb : Option Verb) (reading : Reading) :
    List Char → Except Notice Reading
  | [] => .ok reading
  | letter :: rest =>
    match part.options.find? (·.letter? = some letter) with
    | none => .error (.fault (.unknownArgument ("-" ++ letter.toString)))
    | some option => do letters part verb (← reading.raise option verb) rest

/-- A word for which there is no place. -/
def surplus (part : Section) (reading : Reading) (word : String) : Notice :=
  let isVerb := (Verb.ofWord? word).isSome || word = helpWord
  if part.leadsToVerb && !(reading.isVerbatim && isVerb) then .fault (.unknownCommand word)
  else .fault (.unknownArgument word)

/-- A value with a place. -/
def placed (part : Section) (reading : Reading) (word : String) : Except Notice Reading :=
  match part.places[reading.filled]?, reading.pending with
  | none, _ => .error (surplus part reading word)
  | some place, some (argument, values) =>
    if place = argument then
      .ok { reading with pending := some (place, values ++ [word]) }
    else do
      let settled ← reading.settle
      let filled := if place.isRepeatable then reading.filled else reading.filled + 1
      return { settled with pending := some (place, [word]), awaitsValue := false, filled }
  | some place, none =>
    let filled := if place.isRepeatable then reading.filled else reading.filled + 1
    .ok { reading with pending := some (place, [word]), awaitsValue := false, filled }

/-- One word that is not the name of a command. -/
def word (part : Section) (verb : Option Verb) (reading : Reading) (word : String) :
    Except Notice Reading :=
  let value : Except Notice Reading :=
    match reading.awaitsValue, reading.pending with
    | true, some (argument, values) =>
      .ok { reading with pending := some (argument, values ++ [word]), awaitsValue := false }
    | _, _ => placed part reading word
  if reading.isVerbatim then placed part reading word
  else
    match word.toList with
    | ['-', '-'] => .ok { reading with isVerbatim := true }
    | ['-'] => value
    | '-' :: '-' :: rest => long part verb reading rest
    | '-' :: rest => letters part verb reading rest
    | _ => value

/-- Reads the words behind a command. -/
def readBehind (verb : Verb) (words : List String) : Except Notice Reading :=
  words.foldlM (word (.behind verb) (some verb)) .start

/-- Reads the words up to a command, and what comes then. -/
def readFront (reading : Reading) :
    List String → Except Notice (Reading × Option (String × List String))
  | [] => .ok (reading, none)
  | next :: rest =>
    let isVerb := (Verb.ofWord? next).isSome || next = helpWord
    if isVerb && !reading.isVerbatim && !reading.awaitsValue then .ok (reading, some (next, rest))
    else do readFront (← word .front none reading next) rest

/-- The arguments that should be there and are not. -/
def absent (part : Section) (reading : Reading) : List Argument :=
  let companions := part.options.filter fun option =>
    option.companion?.any reading.has && !reading.has option
  companions ++ part.places.filter fun place => !reading.has place

/-- Ends a part of the line. -/
def finish (part : Section) (reading : Reading) : Except Notice Reading :=
  let absent := absent part reading
  if absent = [] then .ok reading else .error (.fault (.incomplete absent))

/-- What help is asked for by the words behind the word for help. -/
def helpFor (words : List String) : Notice :=
  match words with
  | [] => .help none
  | first :: rest =>
    match Verb.ofWord? first, rest with
    | some verb, [] => .help (some verb)
    | some _, second :: _ => .fault (.unknownCommand second)
    | none, _ =>
      if first ≠ helpWord then .fault (.unknownCommand first)
      else (rest.head?.map fun word => Notice.fault (.unknownCommand word)).getD (.help none)

end Reading

end CdnPublish.CommandLine
