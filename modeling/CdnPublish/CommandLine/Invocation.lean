import CdnPublish.CommandLine.Reading
import CdnPublish.Settings
import CdnPublish.Sync.Plan

/-!
# Invocations

What a command line asks for once it has been read: a command with its arguments, and the settings
that it overrides.
-/

namespace CdnPublish.CommandLine

/-- A command with its arguments. -/
inductive Command where
  | sync (source : LocalPath) (destination : String) (options : Sync.Options)
  | flush (paths : List String)
  | task (link : String)
  | whoami

/-- A command and the settings given with it. -/
structure Invocation where
  overrides : Overrides
  /-- The least important log entries that are shown. -/
  level : Log.Level
  command : Command

namespace Invocation

/-- The value of an argument, the one behind the command before the one in front of it. -/
def value? (front behind : Reading) (argument : Argument) : Option String :=
  (behind.value? argument).or (front.value? argument)

/-- The settings given in the two parts of a line. -/
def overridesOf (front behind : Reading) : Overrides :=
  let value := value? front behind
  let path (argument : Argument) := (value argument).map LocalPath.ofString
  { env := value .env
    gwUrl := value .gwUrl
    uploadUrl := value .uploadUrl
    cert := path .cert
    key := path .key
    caBundle := path .caBundle
    pollIntervalSecs := (value .pollInterval).bind fun text => (Text.natural text.toList).toOption }

/-- The level at which a run is shown: details only when they are asked for. -/
def levelOf (front behind : Reading) : Log.Level :=
  if front.has .verbose || behind.has .verbose then .debug else .info

/-- The choices of a sync. -/
def optionsOf (reading : Reading) : Sync.Options where
  dryRun := reading.has .dryRun
  wait := !reading.has .noWait
  keepLinks := reading.has .links
  checkExisting := reading.has .checkExisting
  commitDeadline := reading.value? .commitDeadline
  fromDate := none
  contentType := reading.value? .contentType
  remove := reading.values .remove

/-- The command that a part of a line is about; all its places are filled. -/
def commandOf (verb : Verb) (reading : Reading) : Command :=
  let text (argument : Argument) := (reading.value? argument).getD ""
  match verb with
  | .sync => .sync (.ofString (text .source)) (text .destination) (optionsOf reading)
  | .flush => .flush (reading.values .paths)
  | .task => .task (text .link)
  | .whoami => .whoami

/-- What is wrong with a line that has no command. -/
def withoutVerb (front : Reading) : Notice :=
  if front.given = [] then .fault .nothingGiven else .fault .noCommand

/-- Reads the words of a command line. What stands behind the command is judged before what stands
in front of it. -/
def ofWords (words : List String) : Except Notice Invocation := do
  match ← Reading.readFront .start words with
  | (front, none) => .error (withoutVerb (← front.settle))
  | (front, some (word, rest)) =>
    match Verb.ofWord? word with
    | none => .error (Reading.helpFor rest)
    | some verb =>
      let read ← Reading.readBehind verb rest
      let behind ← Reading.finish (.behind verb) (← read.settle)
      let front ← Reading.finish .front (← front.settle)
      return ⟨overridesOf front behind, levelOf front behind, commandOf verb behind⟩

end Invocation

end CdnPublish.CommandLine
