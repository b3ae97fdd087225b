import CdnPublish.Digest
import CdnPublish.Item
import CdnPublish.Walk

/-!
# Plans

A plan is the list of items that a sync registers: every file of the source tree under its content
key, every link that is kept, and a removal for every path that shall show nothing. Making a plan
reads local files and asks no one.
-/

namespace CdnPublish.Sync

/-- The choices of one sync. -/
structure Options where
  /-- Only make the plan. -/
  dryRun : Bool
  /-- Wait for the commit task. -/
  wait : Bool
  /-- Publish links as links instead of following them. -/
  keepLinks : Bool
  /-- Ask the store for a blob before sending it. -/
  checkExisting : Bool
  commitDeadline : Option String
  /-- The date from which the items are valid, if not the current one. -/
  fromDate : Option String
  /-- The media type of every object. -/
  contentType : Option String
  /-- Destination paths that shall show nothing. -/
  remove : List String
  deriving DecidableEq, Repr

/-- The choices of a plain sync. -/
def Options.plain : Options where
  dryRun := false
  wait := true
  keepLinks := false
  checkExisting := false
  commitDeadline := none
  fromDate := none
  contentType := none
  remove := []

/-- The item of one finding; a file is read for its content key. -/
def itemOf (tree : FileTree) : Walk.Found → Narrated LocalFault Item
  | .file source dest => do
    let content ← Narrated.silent
      ((tree.read source).mapError fun cause => .unreadable source cause)
    let key := ContentKey.ofBytes content
    Narrated.tell ⟨.debug, "hashed", [("path", source.shown), ("key", key.text)]⟩
    return ⟨some source, dest, .object key, none⟩
  | .link dest target => return ⟨none, dest, .link target, none⟩

/-- The items of a source tree. -/
def hashTree (tree : FileTree) (source : LocalPath) (destination : String) (keepLinks : Bool) :
    Narrated LocalFault (List Item) := do
  let found ← Walk.collect tree source destination keepLinks
  found.mapM (itemOf tree)

/-- An item with a media type, which only an object can carry. -/
def withContentType (contentType : Option String) (item : Item) : Item :=
  match contentType, item.contentKey? with
  | some contentType, some _ => { item with contentType := some contentType }
  | _, _ => item

/-- What a dry run tells about an item. -/
def dryRunEntry (item : Item) : Log.Entry :=
  match item.target with
  | .object key => ⟨.info, "[dry-run] would publish", [("dest", item.dest), ("key", key.text)]⟩
  | .link target => ⟨.info, "[dry-run] would link", [("dest", item.dest), ("link_to", target)]⟩
  | .absent => ⟨.info, "[dry-run] would remove", [("dest", item.dest)]⟩

/-- What is told about a plan once it is made. -/
def planEntries (source : LocalPath) (dryRun : Bool) (items : List Item) : List Log.Entry :=
  (if items = [] then [⟨.info, "nothing to sync", [("src", source.shown)]⟩] else [])
    ++ if dryRun then items.map dryRunEntry else []

/-- The plan for a source tree, a destination and the paths to remove. -/
def plan (tree : FileTree) (source : LocalPath) (destination : String) (options : Options) :
    Narrated LocalFault (List Item) := do
  let found ← hashTree tree source destination options.keepLinks
  let removals ← Narrated.silent
    ((options.remove.mapM Item.absent).mapError fun fault => .invalidPath fault)
  let items := found.map (withContentType options.contentType) ++ removals
  (planEntries source options.dryRun items).forM Narrated.tell
  return items

end CdnPublish.Sync
