import CdnPublish.CommandLine.Invocation
import CdnPublish.ConfigFile
import CdnPublish.Http.Connection
import CdnPublish.Json.Printer
import CdnPublish.Sync.Run

/-!
# Runs of the program

An invocation is carried out in surroundings and ends with lines of output and an exit status. The
status of a task that the gateway reports as failed is one of its own; every fault, whatever it is,
leads to the same other status.
-/

namespace CdnPublish.CommandLine

/-- What a run finds around it. -/
structure Surroundings where
  tree : FileTree
  home : Option LocalPath
  user : Option String

/-- How a run ends. -/
inductive Exit where
  | success
  | failure
  /-- The gateway reports that the task has failed. -/
  | taskFailed
  | usage
  deriving DecidableEq, Repr

/-- The exit status. -/
def Exit.status : Exit → Nat
  | .success => 0
  | .failure => 1
  | .taskFailed => 41
  | .usage => 2

/-- The exit after a notice. -/
def Notice.exit : Notice → Exit
  | .fault _ => .usage
  | .help _ => .success
  | .version => .success

/-- What a run leaves: its output and its exit. -/
structure Finish where
  output : String
  exit : Exit
  deriving DecidableEq, Repr

/-- Why a command failed: what was being done, and the wordings of what went wrong, the nearest
first. -/
structure Failure where
  context : String
  reasons : List String
  deriving DecidableEq, Repr

namespace Failure

/-- The failure in one line. -/
def chain (failure : Failure) : String :=
  String.intercalate ": " (failure.context :: failure.reasons)

/-- A local fault during something. -/
def ofLocal (context : String) (fault : LocalFault) : Failure :=
  ⟨context, fault.message :: fault.causes⟩

/-- The fault of a workflow during something. -/
def ofSync (context : String) (fault : SyncFault) : Failure :=
  ⟨context, fault.message :: fault.causes⟩

/-- What is told about a failure. -/
def entry (failure : Failure) : Log.Entry :=
  ⟨.error, "command failed", [("error", failure.chain)]⟩

end Failure

/-- A program of exchanges that may end with a failure. -/
abbrev Job := ExceptT Failure Http.WebProgram

namespace Job

/-- A computation that asks nothing. -/
def ofNarrated {Result : Type} (computation : Narrated Failure Result) : Job Result :=
  ExceptT.mk (Program.ofNarrated computation)

/-- A result that is known without asking. -/
def ofExcept {Result : Type} (result : Except Failure Result) : Job Result :=
  ExceptT.mk (.done result)

/-- A workflow over a connection, during something. -/
def ofWorkflow {Result : Type} (connection : Http.Connection) (context : String)
    (workflow : Workflow Result) : Job Result :=
  ExceptT.mk do
    return (← connection.carry workflow.run).mapError (Failure.ofSync context)

end Job

/-! ### Connections -/

/-- The settings of a run. -/
def settings (surroundings : Surroundings) (overrides : Overrides) : Narrated Failure Settings := do
  match surroundings.home with
  | none => Narrated.silent (.error ⟨"could not determine home directory", []⟩)
  | some home =>
    let config ← (ConfigFile.load surroundings.tree home).mapFault
      (Failure.ofLocal "failed to load config")
    (config.resolve surroundings.tree overrides home surroundings.user).mapFault
      (Failure.ofLocal "incomplete connection settings")

/-- A client and the connection that it uses. -/
structure Link where
  client : Client
  connection : Http.Connection

/-- Sets up a client. `patience` is the number of rounds after which it no longer waits. -/
def connect (surroundings : Surroundings) (overrides : Overrides) (patience : Nat) : Job Link := do
  let settings ← Job.ofNarrated (settings surroundings overrides)
  let connection ← Job.ofExcept ((Http.Connection.ofSettings surroundings.tree settings).mapError
    (Failure.ofSync "failed to set up gateway client"))
  return ⟨⟨settings.env, settings.pollInterval, settings.fetchRetries, patience⟩, connection⟩

/-- Carries out a workflow of the client. -/
def Link.carry {Result : Type} (link : Link) (context : String) (workflow : Workflow Result) :
    Job Result :=
  Job.ofWorkflow link.connection context workflow

/-! ### Reports -/

/-- A line of output and the exit. -/
def line (text : String) (exit : Exit) : Finish :=
  ⟨text ++ "\n", exit⟩

/-- Reports how a task ended. -/
def reportTask (what : String) (task : Task) : Finish :=
  let updated := task.updated.getD "unknown time"
  if task.state = .complete then
    line s!"✓ {what} complete (task {task.id}, {updated})" .success
  else line s!"✗ {what} failed (task {task.id}, {updated})" .taskFailed

/-- A planned item as a line. -/
def itemLine (item : Item) : String :=
  match item.target with
  | .object key => s!"  ~  {item.dest}  {key.text}"
  | .link target => s!"  →  {item.dest} -> {target}"
  | .absent => s!"  ✗  {item.dest}"

/-- Reports a plan. -/
def reportPlan (items : List Item) : Finish :=
  let title := s!"[dry-run] {items.length} item(s) would be published"
  ⟨String.join ((title :: items.map itemLine).map (· ++ "\n")), .success⟩

/-- Reports what a sync did. -/
def reportSync (source : LocalPath) (destination : String) (report : Sync.Report) : Finish :=
  let uploads := report.uploads
  let what := s!"publish of {report.items.length} item(s) to {destination} ({uploads.uploaded} "
    ++ s!"uploaded, {uploads.alreadyPresent} already present)"
  match report.outcome, report.task with
  | .nothingToDo, _ => line s!"✓ nothing to publish under '{source.shown}'" .success
  | .committing, some task => line s!"~ {what} committing (task {task.id})" .success
  | _, some task => reportTask what task
  | _, none => ⟨"", .success⟩

/-! ### Commands -/

/-- Publishes a tree, or only makes the plan. -/
def sync (surroundings : Surroundings) (laterTree : FileTree) (overrides : Overrides)
    (patience : Nat) (given : LocalPath) (destination : String) (options : Sync.Options) :
    Job Finish := do
  let source ← Job.ofExcept ((surroundings.tree.canonicalPath given).mapError fun cause =>
    ⟨s!"cannot resolve path '{given.shown}'", [cause.message]⟩)
  if options.dryRun then
    let items ← Job.ofNarrated ((Sync.plan surroundings.tree source destination options).mapFault
      (Failure.ofLocal s!"failed to plan sync of '{source.shown}'"))
    return reportPlan items
  else
    let link ← connect surroundings overrides patience
    let report ← link.carry s!"sync of '{source.shown}' to '{destination}' failed"
      (link.client.sync surroundings.tree source destination options laterTree)
    return reportSync source destination report

/-- Flushes paths. -/
def flush (surroundings : Surroundings) (overrides : Overrides) (patience : Nat)
    (paths : List String) : Job Finish := do
  let link ← connect surroundings overrides patience
  let task ← link.carry s!"flush failed in '{link.client.env}'" (link.client.flush paths)
  return reportTask s!"flush of {paths.length} path(s)" task

/-- Follows a task. -/
def task (surroundings : Surroundings) (overrides : Overrides) (patience : Nat)
    (address : String) : Job Finish := do
  let link ← connect surroundings overrides patience
  let task ← link.carry s!"could not follow task '{address}'" (link.client.watch address)
  return reportTask "task" task

/-- Shows who the caller is. -/
def whoami (surroundings : Surroundings) (overrides : Overrides) (patience : Nat) :
    Job Finish := do
  let link ← connect surroundings overrides patience
  let caller ← link.carry "whoami request failed" (Workflow.ofAnswer Gateway.whoami)
  return line caller.renderPretty .success

namespace Invocation

/-- Carries out the command. -/
def job (invocation : Invocation) (surroundings : Surroundings) (patience : Nat)
    (laterTree : FileTree) : Job Finish :=
  match invocation.command with
  | .sync source destination options =>
    sync surroundings laterTree invocation.overrides patience source destination options
  | .flush paths => flush surroundings invocation.overrides patience paths
  | .task address => task surroundings invocation.overrides patience address
  | .whoami => whoami surroundings invocation.overrides patience

/-- Carries out an invocation to its end; a failure is told and leaves no output. What is sent is
read from the tree as it stands by then. -/
def run (invocation : Invocation) (surroundings : Surroundings) (patience : Nat)
    (laterTree : FileTree := surroundings.tree) : Http.WebProgram Finish := do
  match ← (invocation.job surroundings patience laterTree).run with
  | .ok finish => return finish
  | .error failure =>
    Program.note failure.entry
    return ⟨"", .failure⟩

end Invocation

end CdnPublish.CommandLine
