import CdnPublish.Gateway

/-!
# Waiting for a task

A task is waited for in rounds: sleep for a fixed time, ask for the task again, and look at the
answer. A transient failure costs one of a number of retries, which every answer restores; any other
failure ends the wait. A failure to learn of a task is never reported as a failed task.

Nothing bounds the number of rounds that the gateway may demand. The `patience` of a poller is the
number of rounds after which the program stands still instead of asking again.
-/

namespace CdnPublish

/-- How to wait: the seconds between questions, the transient failures in a row that are put up
with, and the number of rounds before giving up watching. -/
structure Poller where
  interval : Nat
  retries : Nat
  patience : Nat
  deriving DecidableEq, Repr

namespace Poller

/-- A way to ask for a task again. -/
abbrev Fetch := Task → GatewayProgram (Except SyncFault Task)

/-- What is told when a task has been seen again. -/
def observation (before after : Task) : Log.Entry :=
  if after.state ≠ before.state then
    ⟨.info, "task state changed",
      [("task", after.id), ("from", before.state.word), ("to", after.state.word)]⟩
  else
    ⟨.debug, "task unchanged", [("task", after.id), ("state", after.state.word)]⟩

/-- What is told when a transient failure is put up with. -/
def retryEntry (poller : Poller) (task : Task) (attempt : Nat) (fault : SyncFault) : Log.Entry :=
  ⟨.warn, "task status fetch failed",
    [("task", task.id), ("attempt", toString attempt), ("retries", toString poller.retries),
      ("error", fault.message)]⟩

/-- Waits with the given patience for a task, after `failures` transient failures in a row. -/
def rounds (poller : Poller) (fetch : Fetch) (patience failures : Nat) (task : Task) :
    GatewayProgram (Except SyncFault Task) := do
  if task.state.isTerminal then
    return .ok task
  else
    match patience with
    | 0 => .stalled
    | patience + 1 =>
      Gateway.sleep poller.interval
      match ← fetch task with
      | .ok next =>
        Program.note (observation task next)
        poller.rounds fetch patience 0 next
      | .error fault =>
        if fault.isTransient && failures < poller.retries then
          Program.note (poller.retryEntry task (failures + 1) fault)
          poller.rounds fetch patience (failures + 1) task
        else
          return .error fault

/-- Waits until a task is terminal. -/
def awaitTerminal (poller : Poller) (fetch : Fetch) (task : Task) : Workflow Task :=
  .ofAnswer (poller.rounds fetch poller.patience 0 task)

/-- Asks for a task through the link that it carries itself. -/
def fetchSelf : Fetch := fun task =>
  match task.links.require "task" task.id "self" with
  | .ok link => Gateway.getTask link
  | .error fault => return .error fault

/-- What is told about a task that has come to an end. -/
def endEntry (task : Task) : Log.Entry :=
  if task.state = .complete then ⟨.info, "task complete", [("task", task.id)]⟩
  else ⟨.error, "task failed", [("task", task.id)]⟩

/-- Waits for the end of a task of the gateway. -/
def awaitTask (poller : Poller) (task : Task) : Workflow Task := do
  let ended ← poller.awaitTerminal fetchSelf task
  Workflow.note (endEntry ended)
  return ended

end Poller

end CdnPublish
