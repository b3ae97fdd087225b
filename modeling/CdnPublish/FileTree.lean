import CdnPublish.LocalPath
import CdnPublish.OsFault

/-!
# File trees

A snapshot of a file system: what stands at which place, and the directory in which relative paths
start. Places are lists of names from the root, so a place says where something is without links
or `..`, and two paths lead to the same directory exactly when they resolve to the same place.

`resolve` walks a path as the operating system does: every step needs a directory, links on the way
are followed, and a link at the end is followed only when asked. What stands at a place need not be
readable: the system may refuse to open it, or to read on in it.
-/

namespace CdnPublish

/-- Names from the root. -/
abbrev Place := List Bytes

/-- What stands at a place. -/
inductive FileEntry where
  | file (content : Bytes)
  | directory
  | link (target : LocalPath)
  | socket
  deriving DecidableEq, Repr

/-- How the system refuses what stands at a place: it does not open it, or it opens it and does not
read on. -/
inductive Refusal where
  | opening (cause : OsFault)
  | reading (cause : OsFault)
  deriving DecidableEq, Repr

/-- A snapshot of a file system. The root directory is always there. -/
structure FileTree where
  entries : List (Place × FileEntry)
  workingDirectory : Place
  refusals : List (Place × Refusal)
  deriving Repr

namespace FileTree

/-- What stands at a place. -/
def entryAt? (tree : FileTree) (place : Place) : Option FileEntry :=
  if place = [] then some .directory else tree.entries.lookup place

/-- How the system refuses what stands at a place, if it does. -/
def refusalAt? (tree : FileTree) (place : Place) : Option Refusal :=
  tree.refusals.lookup place

/-- Whether a directory stands at a place. -/
def isDirectoryAt (tree : FileTree) (place : Place) : Bool :=
  match tree.entryAt? place with
  | some .directory => true
  | _ => false

/-- The longest name that the system accepts. -/
def maxNameLength : Nat := 255

/-- The longest path that the system accepts. -/
def maxPathLength : Nat := 4095

/-- The system takes no path that is too long. -/
def checkLength (path : LocalPath) : Except OsFault Unit :=
  if maxPathLength < path.bytes.length then .error .nameTooLong else .ok ()

/-- How many links the system follows in one path. -/
def maxLinks : Nat := 40

/-- Where the pieces of a path lead from a place, following at most `links` links on the way. -/
def resolveFrom (tree : FileTree) (followLast : Bool) (links : Nat) (place : Place) :
    List Bytes → Except OsFault Place
  | [] => .ok place
  | piece :: rest =>
    if !tree.isDirectoryAt place then .error .notDirectory
    else if piece = [] || piece = LocalPath.dot then
      resolveFrom tree followLast links place rest
    else if piece = LocalPath.dotDot then
      resolveFrom tree followLast links place.dropLast rest
    else if maxNameLength < piece.length then .error .nameTooLong
    else
      match tree.entryAt? (place ++ [piece]) with
      | none => .error .notFound
      | some (.link target) =>
        if rest = [] && !followLast then .ok (place ++ [piece])
        else
          match links with
          | 0 => .error .tooManyLinks
          | links + 1 =>
            resolveFrom tree followLast links (if target.isAbsolute then [] else place)
              (target.rawPieces ++ rest)
      | some _ => resolveFrom tree followLast links (place ++ [piece]) rest
termination_by pieces => (links, pieces.length)

/-- The place that a path leads to. -/
def resolve (tree : FileTree) (followLast : Bool) (path : LocalPath) : Except OsFault Place :=
  if (0 : UInt8) ∈ path.bytes then .error .nulInPath
  else if path.bytes = [] then .error .notFound
  else if maxPathLength < path.bytes.length then .error .nameTooLong
  else
    let start := if path.isAbsolute then [] else tree.workingDirectory
    resolveFrom tree followLast maxLinks start path.rawPieces

/-- What a path leads to once links are followed. -/
def status (tree : FileTree) (path : LocalPath) : Except OsFault FileEntry := do
  let place ← tree.resolve true path
  match tree.entryAt? place with
  | some entry => .ok entry
  | none => .error .notFound

/-- What a path names itself; a link is not followed. -/
def linkStatus (tree : FileTree) (path : LocalPath) : Except OsFault FileEntry := do
  let place ← tree.resolve false path
  match tree.entryAt? place with
  | some entry => .ok entry
  | none => .error .notFound

/-- Whether a path leads to anything. -/
def hasPath (tree : FileTree) (path : LocalPath) : Bool :=
  (tree.status path).isOk

/-- Whether a path leads to a regular file. -/
def hasFile (tree : FileTree) (path : LocalPath) : Bool :=
  match tree.status path with
  | .ok (.file _) => true
  | _ => false

/-- An entry that has been opened: its length, and its bytes or the refusal to read them. -/
structure Opened where
  length : Nat
  content : Except OsFault Bytes

/-- The length that a directory reports. -/
def directoryLength : Nat := 4096

/-- Opens what stands at a place, unless that is refused. A directory can be opened but not read, a
socket not even that. -/
def openPlace (tree : FileTree) (place : Place) : Except OsFault Opened :=
  match tree.entryAt? place, tree.refusalAt? place with
  | none, _ => .error .notFound
  | some _, some (.opening cause) => .error cause
  | some (.file content), some (.reading cause) => .ok ⟨content.length, .error cause⟩
  | some (.file content), none => .ok ⟨content.length, .ok content⟩
  | some .directory, _ => .ok ⟨directoryLength, .error .isDirectory⟩
  | some .socket, _ => .error .noDevice
  | some (.link _), _ => .error .tooManyLinks

/-- Opens what a path leads to. -/
def openAt (tree : FileTree) (path : LocalPath) : Except OsFault Opened := do
  tree.openPlace (← tree.resolve true path)

/-- The bytes of the file that a path leads to. -/
def read (tree : FileTree) (path : LocalPath) : Except OsFault Bytes := do
  (← tree.openAt path).content

/-- The text of the file that a path leads to. -/
def readText (tree : FileTree) (path : LocalPath) : Except OsFault (List Char) := do
  match Text.decode? (← tree.read path) with
  | some text => .ok text
  | none => .error .notText

/-- The names in the directory at a place, with what stands under each. -/
def childrenAt (tree : FileTree) (place : Place) : List (Bytes × FileEntry) :=
  tree.entries.filterMap fun (other, entry) =>
    match other.getLast? with
    | some name => if other.dropLast = place then some (name, entry) else none
    | none => none

/-- The order of names: byte by byte. -/
def nameLe (first second : Bytes) : Bool :=
  match first, second with
  | [], _ => true
  | _ :: _, [] => false
  | byte :: rest, other :: others => byte < other || (byte == other && nameLe rest others)

/-- The names in the directory at a place, in the order of their bytes. -/
def sortedChildrenAt (tree : FileTree) (place : Place) : List (Bytes × FileEntry) :=
  (tree.childrenAt place).mergeSort fun first second => nameLe first.1 second.1

/-- The absolute path of a place. -/
def pathOf (place : Place) : LocalPath :=
  ⟨LocalPath.slash :: Text.glue LocalPath.slash place⟩

/-- The absolute path without links that a path leads to. -/
def canonicalPath (tree : FileTree) (path : LocalPath) : Except OsFault LocalPath :=
  (tree.resolve true path).map pathOf

/-- The tree with an entry put at a place. -/
def setAt (tree : FileTree) (place : Place) (entry : FileEntry) : FileTree :=
  { tree with entries := tree.entries.filter (·.1 ≠ place) ++ [(place, entry)] }

/-- The tree with directories made wherever the pieces of a path name nothing yet, and the place
they lead to. -/
def makeDirectories (tree : FileTree) (place : Place) : List Bytes → FileTree × Place
  | [] => (tree, place)
  | piece :: rest =>
    match tree.resolveFrom true maxLinks place [piece] with
    | .ok next => makeDirectories tree next rest
    | .error _ => makeDirectories (tree.setAt (place ++ [piece]) .directory) (place ++ [piece]) rest

/-- The tree with an entry put under a path; directories on the way are made as needed. -/
def create (tree : FileTree) (path : LocalPath) (entry : FileEntry) : FileTree :=
  let start := if path.isAbsolute then [] else tree.workingDirectory
  let names := path.rawPieces.filter LocalPath.isSignificant
  match names.getLast? with
  | none => tree
  | some last =>
    let (made, parent) := tree.makeDirectories start names.dropLast
    match entry, made.entryAt? (parent ++ [last]) with
    | .directory, some _ => made
    | .file _, some (.link _) =>
      match made.resolveFrom true maxLinks parent [last] with
      | .ok place => made.setAt place entry
      | .error _ => made.setAt (parent ++ [last]) entry
    | _, _ => made.setAt (parent ++ [last]) entry

/-- The tree without what a path names and everything below it. -/
def remove (tree : FileTree) (path : LocalPath) : FileTree :=
  match tree.resolve false path with
  | .error _ => tree
  | .ok place =>
    { tree with entries := tree.entries.filter fun (other, _) => !place.isPrefixOf other }

/-- A tree that holds only its working directory and the directories above it. -/
def withWorkingDirectory (place : Place) : FileTree :=
  ((⟨[], place, []⟩ : FileTree).makeDirectories [] place).1

end FileTree

end CdnPublish
