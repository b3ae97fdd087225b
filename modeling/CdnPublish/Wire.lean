import CdnPublish.Item
import CdnPublish.Json.Printer
import CdnPublish.Json.Tree
import CdnPublish.Task

/-!
# Records on the wire

How the objects of the gateway are written as JSON and read back. A record is an object of named
fields, or an array of its fields in their declared order. A reader passes over names it does not
know, whatever stands under them; a known name may stand only once. An optional field may be left
out or be `null`.
-/

namespace CdnPublish

namespace Wire

open Json (Tree)

/-- What a record holds under each of its declared field names. -/
def fields? (names : List String) : Tree → Option (List (Option Tree))
  | .array elements =>
    if elements.length ≤ names.length then
      some (elements.map some ++ List.replicate (names.length - elements.length) none)
    else none
  | .object members => do
    let named ← members.mapM fun (name, tree) => name.map (·, tree)
    if names.all fun name => (named.filter (·.1 = name)).length ≤ 1 then
      some (names.map fun name => named.lookup name)
    else none
  | _ => none

/-- A field that has to be there. -/
def required {Value : Type} (read? : Tree → Option Value) (field : Option Tree) : Option Value :=
  field.bind read?

/-- A field with a value for the case that it is left out. -/
def defaulted {Value : Type} (value : Value) (read? : Tree → Option Value) :
    Option Tree → Option Value
  | none => some value
  | some tree => read? tree

/-- A string. -/
def text? : Tree → Option String
  | .string text => text
  | _ => none

/-- A string or `null`. -/
def nullable? : Tree → Option (Option String)
  | .null => some none
  | tree => (text? tree).map some

/-- An optional string in a field that may be left out. -/
def optional? (field : Option Tree) : Option (Option String) :=
  defaulted none nullable? field

/-- The member for an optional string, which is left out when there is none. -/
def present (name : String) : Option String → List (String × Json)
  | none => []
  | some text => [(name, .string text)]

/-- What a gateway says about a refusal: the value of `detail`, as it is if it is a string and as
a JSON text otherwise. -/
def detail? (tree : Tree) : Option String := do
  let [detail] ← fields? ["detail"] tree | none
  match ← required (Tree.valueWithin? (Tree.maxDepth - 1)) detail with
  | .string text => return text
  | value => return value.render

end Wire

open Json (Tree)

namespace Links

/-- Reads one link. -/
def entry? : Option String × Tree → Option (String × String)
  | (name, tree) => do return (← name, ← Wire.text? tree)

/-- Reads links. -/
def ofTree? : Tree → Option Links
  | .object members => (members.mapM entry?).map ofList
  | _ => Option.none

/-- Writes links. -/
def toJson (links : Links) : Json :=
  .object (links.entries.map fun (name, target) => (name, .string target))

end Links

namespace TaskState

/-- Reads a state: its word, or an object with the word as its only name and `null` under it. -/
def ofTree? : Tree → Option TaskState
  | .string text => text.map ofWord
  | .object [(name, .null)] => name.map ofWord
  | _ => none

/-- Writes a state. -/
def toJson (state : TaskState) : Json :=
  .string state.word

end TaskState

namespace Task

/-- Reads a task. -/
def ofTree? (tree : Tree) : Option Task := do
  let [id, state, links, updated, publishId, deadline] ←
    Wire.fields? ["id", "state", "links", "updated", "publish_id", "deadline"] tree | none
  return {
    id := ← Wire.required Wire.text? id
    state := ← Wire.required TaskState.ofTree? state
    links := ← Wire.defaulted Links.none Links.ofTree? links
    updated := ← Wire.optional? updated
    publishId := ← Wire.optional? publishId
    deadline := ← Wire.optional? deadline }

/-- Writes a task; the time of its last change is always written. -/
def toJson (task : Task) : Json :=
  .object ([("id", .string task.id), ("state", task.state.toJson), ("links", task.links.toJson),
      ("updated", task.updated.elim .null .string)]
    ++ Wire.present "publish_id" task.publishId ++ Wire.present "deadline" task.deadline)

end Task

namespace Publish

/-- Reads a publish. -/
def ofTree? (tree : Tree) : Option Publish := do
  let [id, links, env, state] ← Wire.fields? ["id", "links", "env", "state"] tree | none
  return {
    id := ← Wire.required Wire.text? id
    links := ← Wire.defaulted Links.none Links.ofTree? links
    env := ← Wire.optional? env
    state := ← Wire.optional? state }

/-- Writes a publish. -/
def toJson (publish : Publish) : Json :=
  .object ([("id", .string publish.id), ("links", publish.links.toJson)]
    ++ Wire.present "env" publish.env ++ Wire.present "state" publish.state)

end Publish

namespace ItemRecord

/-- Reads the record of an item. -/
def ofTree? (tree : Tree) : Option ItemRecord := do
  let [webUri, objectKey, linkTo, contentType, fromDate] ←
    Wire.fields? ["web_uri", "object_key", "link_to", "content_type", "from_date"] tree | none
  return {
    webUri := ← Wire.required Wire.text? webUri
    objectKey := ← Wire.optional? objectKey
    linkTo := ← Wire.optional? linkTo
    contentType := ← Wire.optional? contentType
    fromDate := ← Wire.required Wire.text? fromDate }

/-- Writes the record of an item. -/
def toJson (record : ItemRecord) : Json :=
  .object ([("web_uri", .string record.webUri)]
    ++ Wire.present "object_key" record.objectKey ++ Wire.present "link_to" record.linkTo
    ++ Wire.present "content_type" record.contentType ++ [("from_date", .string record.fromDate)])

end ItemRecord

/-- A path to flush, as the gateway reads it. -/
structure FlushRecord where
  webUri : String
  deriving DecidableEq, Repr

namespace FlushRecord

/-- Reads a path to flush. -/
def ofTree? (tree : Tree) : Option FlushRecord := do
  let [webUri] ← Wire.fields? ["web_uri"] tree | none
  return ⟨← Wire.required Wire.text? webUri⟩

/-- Writes a path to flush. -/
def toJson (record : FlushRecord) : Json :=
  .object [("web_uri", .string record.webUri)]

end FlushRecord

/-- Reads a content key. -/
def ContentKey.ofTree? (tree : Tree) : Option ContentKey :=
  (Wire.text? tree).bind ContentKey.parse?

end CdnPublish
