import CdnPublish.Gateway

/-!
# Uploading blobs

Every blob is stored under its content key, so sending it twice changes nothing. A caller who
would rather ask than send first has the store asked for the key; a key that is present is then
not sent.
-/

namespace CdnPublish.Upload

/-- What was done for one blob. -/
inductive Outcome where
  | uploaded
  | alreadyPresent
  deriving DecidableEq, Repr

/-- Whether a blob need not be sent: the caller wants the store asked, and the store has it. -/
def isPresent (env : String) (key : ContentKey) (checkExisting : Bool) : Workflow Bool :=
  if checkExisting then .ofAnswer (Gateway.blobExists env key) else pure false

/-- Opens a local file for sending. -/
def openSource (tree : FileTree) (source : LocalPath) : Except SyncFault FileTree.Opened :=
  (tree.openAt source).mapError fun cause => .ofLocal (.unreadable source cause)

/-- Sends a local file under a key. -/
def send (tree : FileTree) (env : String) (key : ContentKey) (source : LocalPath) :
    Workflow Unit := do
  let opened ← Workflow.ofExcept (openSource tree source)
  Workflow.ofAnswer (Gateway.putBlob env key opened)
  Workflow.note ⟨.info, "uploaded",
    [("path", source.shown), ("key", key.text), ("bytes", toString opened.length)]⟩

/-- Sees to it that the store has the content of a local file under a key. -/
def ensure (tree : FileTree) (env : String) (checkExisting : Bool) (key : ContentKey)
    (source : LocalPath) : Workflow Outcome := do
  if ← isPresent env key checkExisting then
    Workflow.note ⟨.debug, "blob already present", [("key", key.text)]⟩
    return .alreadyPresent
  else
    send tree env key source
    return .uploaded

end CdnPublish.Upload
