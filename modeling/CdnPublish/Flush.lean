import CdnPublish.Gateway

/-!
# Flushing caches

One request names every path whose cached copies shall go. The paths are brought into their
canonical form first, and one that has none keeps the request from being sent at all.
-/

namespace CdnPublish.Flush

/-- The canonical forms of paths, or the first path that has none. -/
def normalizeAll (paths : List String) : Except InvalidPath (List String) :=
  paths.mapM Dest.normalize

/-- What is told about a requested flush. -/
def requestEntry (env : String) (paths : List String) (task : Task) : Log.Entry :=
  ⟨.info, "requested cache flush",
    [("env", env), ("paths", toString paths.length), ("task", task.id), ("state", task.state.word)]⟩

/-- Requests the flush of paths; the result is the task that carries it out. -/
def request (env : String) (paths : List String) : Workflow Task := do
  if paths = [] then
    throw .nothingToFlush
  else
    let canonical ← Workflow.ofExcept
      ((normalizeAll paths).mapError fun fault => .ofLocal (.invalidPath fault))
    let task ← Workflow.ofAnswer (Gateway.flushCache env canonical)
    Workflow.note (requestEntry env canonical task)
    return task

end CdnPublish.Flush
