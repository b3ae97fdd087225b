import CdnPublish.Text.Split
import CdnPublish.Text.Utf8

/-!
# Local paths

A path on the local file system is a byte string with `/` between names; names need not be text.
Two readings matter. The file system itself walks the raw pieces (`FileTree`). Everything that
compares or cuts paths looks at their components, where repeated slashes, trailing slashes and
inner `.` have vanished.
-/

namespace CdnPublish

/-- A path on the local file system. -/
structure LocalPath where
  bytes : Bytes
  deriving DecidableEq, Repr, Inhabited

namespace LocalPath

/-- The separator between names. -/
def slash : UInt8 := 0x2F

/-- The name of a directory in itself. -/
def dot : Bytes := [0x2E]

/-- The name of the parent in a directory. -/
def dotDot : Bytes := [0x2E, 0x2E]

/-- The path written as a string. -/
def ofString (text : String) : LocalPath :=
  ⟨Bytes.ofString text⟩

/-- The path as shown in messages and destinations: ill-formed bytes are replaced. -/
def shown (path : LocalPath) : String :=
  path.bytes.shown

/-- An absolute path starts with a slash. -/
def isAbsolute (path : LocalPath) : Bool :=
  path.bytes.head? == some slash

/-- The raw pieces between slashes. -/
def rawPieces (path : LocalPath) : List Bytes :=
  Text.pieces slash path.bytes

/-- One step of a path. -/
inductive Component where
  /-- The leading slash. -/
  | root
  /-- A `.` at the very start of a relative path. -/
  | current
  /-- A `..` anywhere. -/
  | parent
  /-- A proper name. -/
  | name (bytes : Bytes)
  deriving DecidableEq, Repr

/-- Whether a raw piece stands for a component: neither empty nor `.`. -/
def isSignificant (piece : Bytes) : Bool :=
  piece ≠ [] && piece ≠ dot

/-- The component that a significant piece stands for. -/
def Component.ofPiece (piece : Bytes) : Component :=
  if piece = dotDot then .parent else .name piece

/-- The steps of a path, in order. -/
def components (path : LocalPath) : List Component :=
  let start :=
    if path.isAbsolute then [Component.root]
    else if path.rawPieces.head? = some dot then [Component.current]
    else []
  start ++ (path.rawPieces.filter isSignificant).map Component.ofPiece

/-- The last component, when it is a name. -/
def fileName? (path : LocalPath) : Option Bytes :=
  match path.components.getLast? with
  | some (.name bytes) => some bytes
  | _ => none

/-- A further path read from inside this one; an absolute one stands alone. -/
def join (path further : LocalPath) : LocalPath :=
  if further.isAbsolute then further
  else if path.bytes = [] || path.bytes.getLast? = some slash then ⟨path.bytes ++ further.bytes⟩
  else ⟨path.bytes ++ slash :: further.bytes⟩

/-- The pieces from the one on that starts the last `count` significant pieces. -/
def lastSignificant (count : Nat) : List Bytes → List Bytes
  | [] => []
  | piece :: rest =>
    if isSignificant piece && (rest.filter isSignificant).length < count then
      piece :: rest
    else
      lastSignificant count rest

/-- The raw pieces without the empty ones and the `.` at the end. -/
def trimInsignificant (rawPieces : List Bytes) : List Bytes :=
  (rawPieces.reverse.dropWhile fun piece => !isSignificant piece).reverse

/-- The part of a path below a base: what follows once the components of the base are taken away,
as it was written but without insignificant pieces at either end. -/
def relativeTo? (path base : LocalPath) : Option LocalPath :=
  if base.components <+: path.components then
    let left := path.components.length - base.components.length
    let count := min left (path.rawPieces.filter isSignificant).length
    some ⟨Text.glue slash (lastSignificant count (trimInsignificant path.rawPieces))⟩
  else
    none

end LocalPath

end CdnPublish
