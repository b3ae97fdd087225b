import CdnPublish.CommandLine.Argument

/-!
# Notices

What the program has to say before it does anything: a command line that cannot be carried out, or a
question about the program itself.
-/

namespace CdnPublish.CommandLine

/-- Why a command line cannot be carried out. -/
inductive UsageFault where
  /-- Nothing is asked for. -/
  | nothingGiven
  | noCommand
  | unknownCommand (word : String)
  | unknownArgument (text : String)
  | noValue (argument : Argument)
  | needlessValue (argument : Argument) (value : String)
  | repeated (argument : Argument)
  | invalidValue (argument : Argument) (value cause : String)
  | incomplete (absent : List Argument)
  deriving DecidableEq, Repr

/-- What a command line leads to if not to a command. -/
inductive Notice where
  | fault (cause : UsageFault)
  /-- What the program or one of its commands is for. -/
  | help (verb : Option Verb)
  | version
  deriving DecidableEq, Repr

/-- The name of the program. -/
def programName : String := "exodus"

/-- The version of the program. -/
def programVersion : String := "0.1.11"

/-- What the program is for. -/
def programSummary : String := "Publish content and flush CDN caches through exodus-gw"

/-- The word that asks for help where a command could stand. -/
def helpWord : String := "help"

/-! ### Help -/

/-- A name and what it stands for, in two columns. -/
def row (width : Nat) (name summary : String) : String :=
  "  " ++ name ++ String.ofList (List.replicate (width - name.length + 2) ' ') ++ summary ++ "\n"

/-- Rows below a title. -/
def table (title : String) (rows : List (String × String)) : String :=
  let width := (rows.map (·.1.length)).foldl max 0
  if rows = [] then ""
  else
    "\n" ++ title ++ ":\n"
      ++ String.join (rows.map fun (name, summary) => row width name summary)

/-- An option with the letter that is short for it. -/
def optionColumn (argument : Argument) : String :=
  match argument.letter? with
  | some letter => "-" ++ letter.toString ++ ", " ++ argument.shown
  | none => "    " ++ argument.shown

/-- Options as rows. -/
def optionRows (options : List Argument) : List (String × String) :=
  options.map fun argument => (optionColumn argument, argument.summary)

/-- The help on the program as a whole. -/
def programHelp : String :=
  programSummary ++ "\n\nUsage: " ++ programName ++ " [OPTIONS] <COMMAND>\n"
    ++ table "Commands" (Verb.all.map (fun verb => (verb.word, verb.summary))
      ++ [(helpWord, "Print this message or the help of the given subcommand(s)")])
    ++ table "Options" (optionRows (Argument.everywhere ++ [.help, .version]))

/-- The help on one command. -/
def verbHelp (verb : Verb) : String :=
  let places := Argument.placesOf verb
  verb.summary ++ "\n\nUsage: " ++ programName ++ " " ++ verb.word ++ " [OPTIONS]"
    ++ String.join (places.map (" " ++ ·.shown)) ++ "\n"
    ++ table "Arguments" (places.map fun place => (place.shown, place.summary))
    ++ table "Options" (optionRows (Argument.optionsOf verb ++ Argument.everywhere ++ [.help]))

/-! ### Wording -/

namespace UsageFault

/-- The wording of a fault, but for the case that nothing is asked for. -/
def wording : UsageFault → String
  | .nothingGiven => ""
  | .noCommand =>
    let words := String.intercalate ", " (Verb.all.map (·.word) ++ [helpWord])
    s!"'{programName}' requires a subcommand but one was not provided\n  [subcommands: {words}]"
  | .unknownCommand word => s!"unrecognized subcommand '{word}'"
  | .unknownArgument text => s!"unexpected argument '{text}' found"
  | .noValue argument => s!"a value is required for '{argument.shown}' but none was supplied"
  | .needlessValue argument value =>
    s!"unexpected value '{value}' for '{argument.shown}' found; no more were expected"
  | .repeated argument => s!"the argument '{argument.shown}' cannot be used multiple times"
  | .invalidValue argument value cause =>
    s!"invalid value '{value}' for '{argument.shown}': {cause}"
  | .incomplete absent =>
    "the following required arguments were not provided:"
      ++ String.join (absent.map ("\n  " ++ ·.shown))

/-- Whether a character is shown: controls of a terminal are not, blanks are. -/
def isShown (character : Char) : Bool :=
  (0x20 ≤ character.toNat && character.toNat ≠ 0x7F)
    || ['\t', '\n', '\x0c', '\r'].contains character

/-- What is said about a fault. Who asks for nothing is told what can be asked for. -/
def message (fault : UsageFault) : String :=
  if fault = .nothingGiven then programHelp
  else String.ofList (("error: " ++ fault.wording).toList.filter isShown)

end UsageFault

/-- What a notice says. -/
def Notice.message : Notice → String
  | .fault cause => cause.message
  | .help none => programHelp
  | .help (some verb) => verbHelp verb
  | .version => programName ++ " " ++ programVersion ++ "\n"

end CdnPublish.CommandLine
