import CdnPublish.FileTree
import CdnPublish.LocalFault
import CdnPublish.Narrated

/-!
# Walking a source tree

`Walk.collect` lists what a source offers for publication: a single file, or everything below a
directory in byte order of names, each with its destination. Links are either followed, and then a
link back into a directory that the walk is inside of is a fault, or kept, and then the target is
carried over to the destination tree.

The walk visits entries depth first and a directory's content at the directory's place. Directories
are listed and kept links are read under their full path, which the system may refuse. The first
fault in that order ends the walk; what was found before stays in the log.
-/

namespace CdnPublish.Walk

/-- Something to publish. -/
inductive Found where
  | file (source : LocalPath) (dest : String)
  | link (dest target : String)
  deriving DecidableEq, Repr

/-- The destination of a finding. -/
def Found.dest : Found → String
  | .file _ dest => dest
  | .link dest _ => dest

/-- The segments left after following the parts of a relative link target. -/
def follow (segments : List Dest.Segment) : List Dest.Segment → Option (List Dest.Segment)
  | [] => some segments
  | part :: rest =>
    if !Dest.isSignificant part then follow segments rest
    else if part = Dest.parentSegment then
      if segments = [] then none else follow segments.dropLast rest
    else follow (segments ++ [part]) rest

/-- The target of a link in the destination tree. A relative target is followed from the link's own
destination directory; an absolute one must lie below the source. -/
def linkTarget (source : LocalPath) (destination linkDest : String) (target : LocalPath) :
    Except InvalidPath String :=
  if target.isAbsolute then
    match target.relativeTo? source with
    | none => .error ⟨target.shown, .linkOutsideTree⟩
    | some inside => Dest.join destination inside
  else
    let start := ((Text.pieces '/' linkDest.toList).filter (· ≠ [])).dropLast
    match follow start (Text.pieces '/' (Text.decodeLossy target.bytes)) with
    | none => .error ⟨target.shown, .linkEscapesDestination⟩
    | some segments => Dest.normalize (String.ofList (Dest.ofSegments segments))

/-- A directory that the walk is inside of: its path as walked and the place it stands at. -/
structure Ancestor where
  path : LocalPath
  place : Place

/-- What a visit hands to the caller: a path and what stands there, as far as links are followed. -/
abbrev Visit := LocalPath × FileEntry

/-- How a visit of an entry continues: the entry itself is reported, and the directory at a place
is entered. -/
structure Step where
  reported : FileEntry
  entered : Option Place

/-- What to do with an entry below the source. A directory that a followed link leads to is opened
and compared with the directories the walk is inside of, the innermost first. -/
def step (tree : FileTree) (followLinks : Bool) (ancestors : List Ancestor) (path : LocalPath)
    (place : Place) (entry : FileEntry) : Except WalkFault Step :=
  match entry, followLinks with
  | .link _, true =>
    match tree.resolve true path with
    | .error cause => .error (.unreadable path cause)
    | .ok target =>
      match tree.entryAt? target with
      | some .directory =>
        match tree.refusalAt? target with
        | some (.opening cause) => .error (.pathless cause)
        | _ =>
          match ancestors.find? (·.place = target) with
          | some ancestor => .error (.loop path ancestor.path)
          | none => .ok ⟨.directory, some target⟩
      | some other => .ok ⟨other, none⟩
      | none => .error (.unreadable path .notFound)
  | .directory, _ => .ok ⟨.directory, some place⟩
  | other, _ => .ok ⟨other, none⟩

/-- The visits of the entries of a directory, the innermost ancestor, up to the first fault; `enter`
visits what is below a directory that an entry leads into. -/
def visitEach (tree : FileTree) (followLinks : Bool) (current : Ancestor) (outer : List Ancestor)
    (enter : Ancestor → List Visit × Option WalkFault) :
    List (Bytes × FileEntry) → List Visit × Option WalkFault
  | [] => ([], none)
  | (name, entry) :: rest =>
    let path := current.path.join ⟨name⟩
    match step tree followLinks (current :: outer) path (current.place ++ [name]) entry with
    | .error fault => ([], some fault)
    | .ok next =>
      let inside :=
        match next.entered with
        | none => ([], none)
        | some place => enter ⟨path, place⟩
      match inside with
      | (visits, some fault) => ((path, next.reported) :: visits, some fault)
      | (visits, none) =>
        let (later, fault) := visitEach tree followLinks current outer enter rest
        ((path, next.reported) :: (visits ++ later), fault)

/-- What is in a directory that the walk enters, in the order of the bytes of the names. -/
def listing (tree : FileTree) (directory : Ancestor) :
    Except WalkFault (List (Bytes × FileEntry)) := do
  (FileTree.checkLength directory.path).mapError (.unreadable directory.path)
  match tree.refusalAt? directory.place with
  | some (.opening cause) => .error (.unreadable directory.path cause)
  | some (.reading cause) => .error (.pathless cause)
  | none => .ok (tree.sortedChildrenAt directory.place)

/-- The visits below a directory, up to the first fault. `fuel` bounds the depth: between two links
that the walk entered lie at most as many directories as the tree has entries, and no place is
entered through a link while the walk is inside of it. -/
def visitsBelow (tree : FileTree) (followLinks : Bool) :
    Nat → Ancestor → List Ancestor → List Visit × Option WalkFault
  | 0, _, _ => ([], none)
  | fuel + 1, current, outer =>
    match listing tree current with
    | .error fault => ([], some fault)
    | .ok children =>
      visitEach tree followLinks current outer
        (fun inner => visitsBelow tree followLinks fuel inner (current :: outer)) children

/-- A bound on the depth of a walk. -/
def depthBound (tree : FileTree) : Nat :=
  (tree.entries.length + 2) * (tree.entries.length + 2)

/-- Why a walk does not begin although its source leads somewhere: a directory that a followed link
leads to is opened before anything is reported. -/
def sourceFault? (tree : FileTree) (followLinks : Bool) (place : Place) :
    FileEntry → Option WalkFault
  | .link _ =>
    match followLinks && tree.isDirectoryAt place, tree.refusalAt? place with
    | true, some (.opening cause) => some (.pathless cause)
    | _, _ => none
  | _ => none

/-- The visits of a walk from a source that leads to the given place. The source itself comes
first; it is entered even if it is a link that is kept. -/
def visits (tree : FileTree) (followLinks : Bool) (source : LocalPath) (place : Place) :
    List Visit × Option WalkFault :=
  match tree.linkStatus source with
  | .error cause => ([], some (.unreadable source cause))
  | .ok own =>
    match sourceFault? tree followLinks place own with
    | some fault => ([], some fault)
    | none =>
      let reported := if followLinks then (tree.entryAt? place).getD own else own
      let (below, fault) :=
        if tree.isDirectoryAt place then
          visitsBelow tree followLinks (depthBound tree) ⟨source, place⟩ []
        else
          ([], none)
      ((source, reported) :: below, fault)

/-- What a visit offers for publication; a directory offers nothing, nor does a socket. -/
def finding (source : LocalPath) (destination : String) (visit : Visit) :
    Except LocalFault (Option Found) := do
  let (path, entry) := visit
  if entry = .directory then
    return none
  match path.relativeTo? source with
  | none => .error (.invalidPath ⟨path.shown, .outsideTree⟩)
  | some relative =>
    let dest ← (Dest.join destination relative).mapError .invalidPath
    match entry with
    | .file _ => return some (.file path dest)
    | .link target =>
      (FileTree.checkLength path).mapError (.unreadable path)
      let target ← (linkTarget source destination dest target).mapError .invalidPath
      return some (.link dest target)
    | .directory => return none
    | .socket => return none

/-- Tells of a link that was found. -/
def Found.tell : Found → Narrated LocalFault Unit
  | .file _ _ => pure ()
  | .link dest target => Narrated.tell ⟨.debug, "link", [("dest", dest), ("target", target)]⟩

/-- The findings of visits in order, and then the fault that ended the walk, if any. -/
def findings (source : LocalPath) (destination : String)
    (fault : Option WalkFault) : List Visit → Narrated LocalFault (List Found)
  | [] =>
    match fault with
    | none => pure []
    | some fault => Narrated.silent (.error (.walk fault))
  | visit :: rest => do
    match ← Narrated.silent (finding source destination visit) with
    | none => findings source destination fault rest
    | some found =>
      found.tell
      return found :: (← findings source destination fault rest)

/-- Everything that a source offers for publication under a destination. -/
def collect (tree : FileTree) (source : LocalPath) (destination : String) (keepLinks : Bool) :
    Narrated LocalFault (List Found) := do
  match tree.resolve true source with
  | .error cause => Narrated.silent (.error (.unreadable source cause))
  | .ok place =>
    match tree.entryAt? place with
    | some (.file _) =>
      match source.fileName? with
      | none => Narrated.silent (.error (.invalidPath ⟨source.shown, .noFileName⟩))
      | some name =>
        let dest ← Narrated.silent ((Dest.join destination ⟨name⟩).mapError .invalidPath)
        return [.file source dest]
    | _ =>
      let (visited, fault) := visits tree (!keepLinks) source place
      findings source destination fault visited

end CdnPublish.Walk
