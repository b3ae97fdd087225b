import CdnPublish.FileTree
import CdnPublish.Item
import CdnPublish.Json.Basic
import CdnPublish.Program
import CdnPublish.SyncFault

/-!
# What a workflow asks

The questions that publishing workflows put to their surroundings: to the gateway, to the store of
blobs, and to the clock. A question may be answered by a fault. `Workflow` is a program of such
questions that itself may end with a fault.
-/

namespace CdnPublish

/-- One question of a workflow. -/
inductive Question where
  | createPublish (env : String)
  | addItem (publish : Publish) (record : ItemRecord)
  | commitPublish (publish : Publish) (deadline : Option String)
  | getTask (link : String)
  | flushCache (env : String) (paths : List String)
  | whoami
  | blobExists (env : String) (key : ContentKey)
  | putBlob (env : String) (key : ContentKey) (source : FileTree.Opened)
  | sleep (seconds : Nat)
  /-- The current date and time, to the second. -/
  | currentDate

/-- The answers to a question. -/
def Question.Answer : Question → Type
  | .createPublish _ => Except SyncFault Publish
  | .addItem _ _ => Except SyncFault Unit
  | .commitPublish _ _ => Except SyncFault Task
  | .getTask _ => Except SyncFault Task
  | .flushCache _ _ => Except SyncFault Task
  | .whoami => Except SyncFault Json
  | .blobExists _ _ => Except SyncFault Bool
  | .putBlob _ _ _ => Except SyncFault Unit
  | .sleep _ => Unit
  | .currentDate => String

/-- A program of gateway questions. -/
abbrev GatewayProgram := Program Question Question.Answer

namespace Gateway

/-- Asks for a new publish. -/
def createPublish (env : String) : GatewayProgram (Except SyncFault Publish) :=
  Program.question (Question.createPublish env)

/-- Asks to add an item to a publish. -/
def addItem (publish : Publish) (record : ItemRecord) : GatewayProgram (Except SyncFault Unit) :=
  Program.question (Question.addItem publish record)

/-- Asks to commit a publish. -/
def commitPublish (publish : Publish) (deadline : Option String) :
    GatewayProgram (Except SyncFault Task) :=
  Program.question (Question.commitPublish publish deadline)

/-- Asks for the task behind a link. -/
def getTask (link : String) : GatewayProgram (Except SyncFault Task) :=
  Program.question (Question.getTask link)

/-- Asks to flush paths from the caches. -/
def flushCache (env : String) (paths : List String) : GatewayProgram (Except SyncFault Task) :=
  Program.question (Question.flushCache env paths)

/-- Asks who the caller is. -/
def whoami : GatewayProgram (Except SyncFault Json) :=
  Program.question Question.whoami

/-- Asks whether the store has a blob. -/
def blobExists (env : String) (key : ContentKey) : GatewayProgram (Except SyncFault Bool) :=
  Program.question (Question.blobExists env key)

/-- Asks to store a blob. -/
def putBlob (env : String) (key : ContentKey) (source : FileTree.Opened) :
    GatewayProgram (Except SyncFault Unit) :=
  Program.question (Question.putBlob env key source)

/-- Sleeps. -/
def sleep (seconds : Nat) : GatewayProgram Unit :=
  Program.question (Question.sleep seconds)

/-- Asks for the current date. -/
def currentDate : GatewayProgram String :=
  Program.question Question.currentDate

end Gateway

/-- A program of gateway questions that may end with a fault. -/
abbrev Workflow := ExceptT SyncFault GatewayProgram

namespace Workflow

/-- Asks a question whose answer may be a fault, which then ends the workflow. -/
def ofAnswer {Result : Type} (answered : GatewayProgram (Except SyncFault Result)) :
    Workflow Result :=
  ExceptT.mk answered

/-- Tells one entry. -/
def note (entry : Log.Entry) : Workflow Unit :=
  ExceptT.lift (Program.note entry)

/-- A result that is known without asking. -/
def ofExcept {Result : Type} (result : Except SyncFault Result) : Workflow Result :=
  ExceptT.mk (.done result)

/-- A narrated computation. -/
def ofNarrated {Result : Type} (computation : Narrated SyncFault Result) : Workflow Result :=
  ExceptT.mk (Program.ofNarrated computation)

end Workflow

end CdnPublish
