/-!
# Log entries

What the workflows tell an observer while they run: a message with named values, at a level. The
values are texts already; an entry is rendered as one line.
-/

namespace CdnPublish.Log

/-- How important an entry is. -/
inductive Level where
  | error
  | warn
  | info
  | debug
  deriving DecidableEq, Repr

/-- The name of a level in a rendered line. -/
def Level.word : Level → String
  | .error => "ERROR"
  | .warn => "WARN"
  | .info => "INFO"
  | .debug => "DEBUG"

/-- The rank of a level, the most important first. -/
def Level.rank : Level → Nat
  | .error => 0
  | .warn => 1
  | .info => 2
  | .debug => 3

/-- Whether an entry of this level is shown to an observer who asked for the given one. -/
def Level.isShownAt (level asked : Level) : Bool :=
  level.rank ≤ asked.rank

/-- One thing told to an observer. -/
structure Entry where
  level : Level
  message : String
  fields : List (String × String)
  deriving DecidableEq, Repr

/-- An entry as a line: level, message, then each field as `name=value`. -/
def Entry.render (entry : Entry) : String :=
  let fields := entry.fields.map fun (name, value) => s!" {name}={value}"
  s!"{entry.level.word} {entry.message}" ++ String.join fields

end CdnPublish.Log
