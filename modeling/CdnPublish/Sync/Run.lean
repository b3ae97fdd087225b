import CdnPublish.Flush
import CdnPublish.Poll
import CdnPublish.Session
import CdnPublish.Sync.Plan
import CdnPublish.Text.Quoted
import CdnPublish.Upload

/-!
# Syncs

A sync publishes a local tree: make the plan, send every distinct blob, and only then create a
publish, add every item, commit, and wait for the commit task. Nothing becomes visible before the
commit, so a sync that ends early has published nothing. A `Client` also flushes paths and watches
tasks.
-/

namespace CdnPublish

/-- How many blobs were sent and how many were there already. -/
structure Sync.Uploads where
  uploaded : Nat
  alreadyPresent : Nat
  deriving DecidableEq, Repr

/-- How a sync ended, as far as is known. -/
inductive Sync.Outcome where
  | nothingToDo
  | dryRun
  | committing
  | complete
  | failed
  deriving DecidableEq, Repr

/-- What a sync did. -/
structure Sync.Report where
  items : List Item
  uploads : Sync.Uploads
  publish : Option Publish
  task : Option Task
  dryRun : Bool
  deriving DecidableEq, Repr

namespace Sync

/-- No blob at all. -/
def Uploads.none : Uploads := ⟨0, 0⟩

/-- One more blob. -/
def Uploads.add (uploads : Uploads) : Upload.Outcome → Uploads
  | .uploaded => { uploads with uploaded := uploads.uploaded + 1 }
  | .alreadyPresent => { uploads with alreadyPresent := uploads.alreadyPresent + 1 }

/-- The report of a plan that nothing has been done about. -/
def Report.planned (items : List Item) (dryRun : Bool) : Report :=
  ⟨items, .none, none, none, dryRun⟩

/-- How the commit task leaves a sync. -/
def Outcome.ofState : TaskState → Outcome
  | .complete => .complete
  | .failed => .failed
  | .notStarted => .committing
  | .inProgress => .committing
  | .unknown => .committing

/-- How the reported sync ended. -/
def Report.outcome (report : Report) : Outcome :=
  if report.dryRun then .dryRun
  else
    match report.task with
    | none => .nothingToDo
    | some task => .ofState task.state

/-- The blob behind an item: its key and the local file. -/
def blob? (item : Item) : Option (ContentKey × LocalPath) :=
  match item.source, item.contentKey? with
  | some source, some key => some (key, source)
  | _, _ => none

/-- Sends the blobs behind items in order, each key once; `seen` are the keys already dealt with. -/
def uploadAll (tree : FileTree) (env : String) (checkExisting : Bool) (seen : List ContentKey)
    (uploads : Uploads) : List Item → Workflow Uploads
  | [] => pure uploads
  | item :: rest =>
    match blob? item with
    | none => uploadAll tree env checkExisting seen uploads rest
    | some (key, source) =>
      if key ∈ seen then uploadAll tree env checkExisting seen uploads rest
      else do
        let outcome ← Upload.ensure tree env checkExisting key source
        uploadAll tree env checkExisting (key :: seen) (uploads.add outcome) rest

/-- The date from which the items are valid. -/
def startDate (options : Options) : Workflow String :=
  match options.fromDate with
  | some date => pure date
  | none => ExceptT.lift Gateway.currentDate

/-- The result of a session's step, with the session after it. -/
def afterStep {Result : Type} (step : GatewayProgram (Session.Step Result)) :
    Workflow (Session × Result) :=
  .ofAnswer do
    match ← step with
    | (session, .ok result) => return .ok (session, result)
    | (_, .error fault) => return .error fault

/-- What is told when a commit is not waited for. -/
def unattendedEntry (task : Task) (link : String) : Log.Entry :=
  ⟨.info, "not waiting for commit task", [("task", task.id), ("link", Text.quoted link)]⟩

end Sync

/-- A client of a gateway: the environment that it works on and its way of waiting. -/
structure Client where
  env : String
  poller : Poller
  deriving DecidableEq, Repr

namespace Client

open Sync

/-- Waits for the commit task of a session, or only sees to it that someone else can. -/
def conclude (client : Client) (options : Options) (session : Session) (task : Task) :
    Workflow Task := do
  if options.wait then
    let ended ← client.poller.awaitTask task
    let _ ← Workflow.ofExcept (session.finish ended).2
    return ended
  else
    let link ← Workflow.ofExcept (task.links.require "task" task.id "self")
    Workflow.note (unattendedEntry task link)
    return task

/-- Publishes planned items whose blobs are stored. -/
def publishItems (client : Client) (options : Options) (items : List Item) :
    Workflow (Publish × Task) := do
  let fromDate ← startDate options
  let created ← Session.create client.env items.length
  let (filled, _) ← afterStep (created.addItems fromDate items)
  let (committed, task) ← afterStep (filled.commit options.commitDeadline)
  let ended ← client.conclude options committed task
  return (committed.publish, ended)

/-- Publishes a local tree under a destination. The files behind the planned items are opened again
to be sent, and by then the tree may have become another one. -/
def sync (client : Client) (tree : FileTree) (source : LocalPath) (destination : String)
    (options : Options) (laterTree : FileTree := tree) : Workflow Report := do
  let items ← Workflow.ofNarrated
    ((plan tree source destination options).mapFault .ofLocal)
  if options.dryRun || items.isEmpty then
    return .planned items options.dryRun
  else
    let uploads ← uploadAll laterTree client.env options.checkExisting [] .none items
    let (publish, task) ← client.publishItems options items
    return ⟨items, uploads, some publish, some task, options.dryRun⟩

/-- Flushes paths from the caches and waits until that is done. -/
def flush (client : Client) (paths : List String) : Workflow Task := do
  client.poller.awaitTask (← Flush.request client.env paths)

/-- Follows a task from a link to it. -/
def watch (client : Client) (link : String) : Workflow Task := do
  let task ← Workflow.ofAnswer (Gateway.getTask link)
  Workflow.note ⟨.info, "watching task", [("task", task.id), ("state", task.state.word)]⟩
  client.poller.awaitTask task

end Client

end CdnPublish
