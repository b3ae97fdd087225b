import CdnPublish.Gateway

/-!
# Publish sessions

A session is one publish from its creation to the end of its commit. It knows how many items it
is meant to carry and refuses to commit any other number of them; the first item that the gateway
refuses ends it for good. A publish that is never committed has no effect.

Every step gives the session as it is afterwards beside the step's result, because a failed step
may still have changed it.
-/

namespace CdnPublish

/-- Where a session is in its life. -/
inductive Session.State where
  | opened
  | commitRequested
  | done
  | failed
  | abandoned
  deriving DecidableEq, Repr

/-- The word for a state in messages. -/
def Session.State.word : Session.State → String
  | .opened => "open"
  | .commitRequested => "committing"
  | .done => "committed"
  | .failed => "failed"
  | .abandoned => "abandoned"

/-- A publish, where it is in its life, and how many of the intended items have been added. -/
structure Session where
  publish : Publish
  state : Session.State
  intended : Nat
  added : Nat
  deriving DecidableEq, Repr

namespace Session

/-- A step's result with the session after it. -/
abbrev Step (Result : Type) := Session × Except SyncFault Result

/-- The session of a publish that the gateway has just created. -/
def ofPublish (publish : Publish) (intended : Nat) : Session :=
  ⟨publish, .opened, intended, 0⟩

/-- Creates a publish for a number of items. -/
def create (env : String) (intended : Nat) : Workflow Session := do
  let publish ← Workflow.ofAnswer (Gateway.createPublish env)
  Workflow.note ⟨.info, "created publish", [("publish", publish.id), ("env", env)]⟩
  return ofPublish publish intended

/-- The fault of a step that the state forbids. -/
def forbidden (session : Session) (action : String) : SyncFault :=
  .invalidState session.publish.id session.state.word action

/-- The session after the gateway has taken an item. -/
def withAdded (session : Session) : Session :=
  { session with added := session.added + 1 }

/-- The session in another state. -/
def withState (session : Session) (state : State) : Session :=
  { session with state := state }

/-- The fault of a session whose next item was refused. -/
def abandonment (session : Session) (cause : SyncFault) : SyncFault :=
  .partialPublish session.publish session.added session.intended cause

/-- What is told about a refused item. -/
def abandonmentEntry (session : Session) (item : Item) (cause : SyncFault) : Log.Entry :=
  ⟨.error, "publish abandoned",
    [("publish", session.publish.id), ("dest", item.dest), ("error", cause.message)]⟩

/-- Adds one item; a refusal abandons the session. -/
def addItem (session : Session) (fromDate : String) (item : Item) : GatewayProgram (Step Unit) := do
  if session.state ≠ .opened then
    return (session, .error (session.forbidden "add items"))
  else
    match ← Gateway.addItem session.publish (item.record fromDate) with
    | .ok () =>
      Program.note ⟨.debug, "added item",
        [("publish", session.publish.id), ("dest", item.dest)]⟩
      return (session.withAdded, .ok ())
    | .error cause =>
      Program.note (session.abandonmentEntry item cause)
      return (session.withState .abandoned, .error (session.abandonment cause))

/-- Adds items in order until one fails. -/
def addItems (session : Session) (fromDate : String) : List Item → GatewayProgram (Step Unit)
  | [] => return (session, .ok ())
  | item :: rest => do
    match ← session.addItem fromDate item with
    | (session, .ok ()) => session.addItems fromDate rest
    | (session, .error fault) => return (session, .error fault)

/-- What is told about a commit. -/
def commitEntry (session : Session) (task : Task) : Log.Entry :=
  ⟨.info, "committing publish",
    [("publish", session.publish.id), ("items", toString session.added), ("task", task.id)]⟩

/-- Requests the commit once every intended item has been added. -/
def commit (session : Session) (deadline : Option String) : GatewayProgram (Step Task) := do
  if session.state ≠ .opened then
    return (session, .error (session.forbidden "commit"))
  else if session.added ≠ session.intended then
    return (session, .error (.incompletePublish session.publish.id session.added session.intended))
  else
    match ← Gateway.commitPublish session.publish deadline with
    | .ok task =>
      Program.note (session.commitEntry task)
      return (session.withState .commitRequested, .ok task)
    | .error fault => return (session, .error fault)

/-- The state in which a commit task leaves its session, if the task has come to an end. -/
def finalState? : TaskState → Option State
  | .complete => some .done
  | .failed => some .failed
  | .notStarted => none
  | .inProgress => none
  | .unknown => none

/-- Records how the commit task ended. -/
def finish (session : Session) (task : Task) : Step State :=
  if session.state ≠ .commitRequested then
    (session, .error (session.forbidden "finish"))
  else
    match finalState? task.state with
    | some state => (session.withState state, .ok state)
    | none => (session, .error (.invalidState task.id "still running" "finish"))

end Session

end CdnPublish
