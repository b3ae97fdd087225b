import CdnPublish.Deadline
import CdnPublish.LocalFault
import CdnPublish.MediaType
import CdnPublish.Text.Natural

/-!
# Arguments

What may stand on the command line: the commands, the options of all commands and of single ones,
and the values that have no name but a place. This module says how each is spelled and what it may
hold; how a line is read is another matter.
-/

namespace CdnPublish.CommandLine

/-- What the program is asked to do. -/
inductive Verb where
  | sync
  | flush
  | task
  | whoami
  deriving DecidableEq, Repr

namespace Verb

/-- All commands, in the order in which they are listed. -/
def all : List Verb := [.sync, .flush, .task, .whoami]

/-- The name of a command. -/
def word : Verb → String
  | .sync => "sync"
  | .flush => "flush"
  | .task => "task"
  | .whoami => "whoami"

/-- What a command does. -/
def summary : Verb → String
  | .sync => "Upload a directory tree and publish it atomically under a destination path"
  | .flush => "Invalidate published paths in the CDN cache"
  | .task => "Wait for an existing commit or flush task to finish"
  | .whoami => "Show the caller's authentication context"

/-- The command of a name. -/
def ofWord? (word : String) : Option Verb :=
  all.find? (·.word = word)

end Verb

/-- One kind of argument. -/
inductive Argument where
  | env
  | gwUrl
  | uploadUrl
  | cert
  | key
  | caBundle
  | pollInterval
  | verbose
  | dryRun
  | noWait
  | links
  | checkExisting
  | commitDeadline
  | contentType
  | remove
  | help
  | version
  /-- The local tree of a sync. -/
  | source
  /-- Where a sync publishes. -/
  | destination
  /-- What a flush is about. -/
  | paths
  /-- What is watched. -/
  | link
  deriving DecidableEq, Repr

namespace Argument

/-- The options that every command takes, behind its name or before it. -/
def everywhere : List Argument :=
  [.env, .gwUrl, .uploadUrl, .cert, .key, .caBundle, .pollInterval, .verbose]

/-- The options that only one command takes. -/
def optionsOf : Verb → List Argument
  | .sync => [.dryRun, .noWait, .links, .checkExisting, .commitDeadline, .contentType, .remove]
  | .flush => []
  | .task => []
  | .whoami => []

/-- The values that a command needs, by their places. -/
def placesOf : Verb → List Argument
  | .sync => [.source, .destination]
  | .flush => [.paths]
  | .task => [.link]
  | .whoami => []

/-- The name of an option; a value with a place has none. -/
def name? : Argument → Option String
  | .env => some "env"
  | .gwUrl => some "gw-url"
  | .uploadUrl => some "upload-url"
  | .cert => some "cert"
  | .key => some "key"
  | .caBundle => some "ca-bundle"
  | .pollInterval => some "poll-interval"
  | .verbose => some "verbose"
  | .dryRun => some "dry-run"
  | .noWait => some "no-wait"
  | .links => some "links"
  | .checkExisting => some "check-existing"
  | .commitDeadline => some "commit-deadline"
  | .contentType => some "content-type"
  | .remove => some "remove"
  | .help => some "help"
  | .version => some "version"
  | .source => none
  | .destination => none
  | .paths => none
  | .link => none

/-- The letter that is short for an option. -/
def letter? : Argument → Option Char
  | .verbose => some 'v'
  | .links => some 'l'
  | .help => some 'h'
  | .version => some 'V'
  | _ => none

/-- What the value of an argument is called, if it has one. -/
def valueName? : Argument → Option String
  | .env => some "ENV"
  | .gwUrl => some "URL"
  | .uploadUrl => some "URL"
  | .cert => some "PEM"
  | .key => some "PEM"
  | .caBundle => some "PEM"
  | .pollInterval => some "SECS"
  | .commitDeadline => some "TIMESTAMP"
  | .contentType => some "MIME"
  | .remove => some "PATH"
  | .source => some "SRC"
  | .destination => some "DEST"
  | .paths => some "PATH"
  | .link => some "LINK"
  | .verbose => none
  | .dryRun => none
  | .noWait => none
  | .links => none
  | .checkExisting => none
  | .help => none
  | .version => none

/-- What an argument is for. -/
def summary : Argument → String
  | .env => "Target environment (e.g. live, pre)"
  | .gwUrl => "Base URL of the gateway"
  | .uploadUrl => "Base URL for blob uploads (default: <gw-url>/upload)"
  | .cert => "PEM client certificate for mutual TLS"
  | .key => "PEM private key matching --cert"
  | .caBundle => "Extra PEM CA certificate to trust"
  | .pollInterval => "Seconds between task status checks"
  | .verbose => "Increase log verbosity"
  | .dryRun => "Hash and list what would be published without contacting the gateway"
  | .noWait => "Return once commit is requested instead of waiting for the task"
  | .links => "Publish symlinks as links instead of following them"
  | .checkExisting => "Skip uploading blobs the store already has"
  | .commitDeadline => "Abandon the commit if not done by this UTC time (YYYY-MM-DDTHH:MM:SSZ)"
  | .contentType => "MIME type to record for every published file"
  | .remove => "Unpublish this destination path in the same publish (repeatable)"
  | .help => "Print help"
  | .version => "Print version"
  | .source => "Local directory (or single file) to publish"
  | .destination => "Destination path prefix on the CDN (e.g. /content/dist/rhel8)"
  | .paths => "Published paths to invalidate (e.g. /content/dist/repodata/repomd.xml)"
  | .link => "The task's `self` link as printed by `sync --no-wait` (e.g. /task/<id>)"

/-- Whether an argument may be given more than once. -/
def isRepeatable : Argument → Bool
  | .verbose => true
  | .remove => true
  | .paths => true
  | _ => false

/-- The argument that must be there as well. -/
def companion? : Argument → Option Argument
  | .cert => some .key
  | .key => some .cert
  | _ => none

/-- An argument as it is called in messages. -/
def shown (argument : Argument) : String :=
  let name := (argument.name?.map ("--" ++ ·)).getD ""
  let value := (argument.valueName?.map fun value => s!"<{value}>").getD ""
  let gap := if name = "" || value = "" then "" else " "
  let more := if argument = .verbose || argument = .paths then "..." else ""
  name ++ gap ++ value ++ more

end Argument

/-- What is wrong with a value. -/
inductive ValueFault where
  /-- It is empty where it must not be. -/
  | missing
  | invalid (cause : String)
  deriving DecidableEq, Repr

/-- Checks a value that is meant for an argument. -/
def Argument.check (argument : Argument) (value : String) : Except ValueFault Unit :=
  match argument with
  | .cert | .key | .caBundle | .source => if value = "" then .error .missing else .ok ()
  | .pollInterval =>
    match Text.natural value.toList with
    | .ok _ => .ok ()
    | .error fault => .error (.invalid fault.message)
  | .contentType =>
    match MediaType.parse value with
    | .ok _ => .ok ()
    | .error text => .error (.invalid (LocalFault.invalidContentType text).message)
  | .commitDeadline =>
    match Deadline.parse value with
    | .ok _ => .ok ()
    | .error fault => .error (.invalid s!"expected YYYY-MM-DDTHH:MM:SSZ: {fault.message}")
  | _ => .ok ()

end CdnPublish.CommandLine
