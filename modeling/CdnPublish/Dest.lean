import CdnPublish.LocalPath
import CdnPublish.Text.Blank

/-!
# Destination paths

Content is published under absolute destination paths. `Dest.normalize` brings any spelling into
the canonical form: one leading slash, no empty segment, no `.`, and `..` is refused rather than
resolved. `Dest.join` puts the name of a local file under a destination. `Dest.Canonical` says
what the canonical form is without reference to either.
-/

namespace CdnPublish

/-- Why a path cannot serve as a destination, or cannot be brought under one. -/
inductive PathFault where
  | empty
  | parentSegment
  | escapesDestination
  | noFileName
  | outsideTree
  | linkOutsideTree
  | linkEscapesDestination
  deriving DecidableEq, Repr

/-- The wording of a path fault. -/
def PathFault.message : PathFault → String
  | .empty => "path is empty"
  | .parentSegment => "'..' segments are not allowed"
  | .escapesDestination => "relative path escapes the destination"
  | .noFileName => "source has no file name"
  | .outsideTree => "entry is outside the source tree"
  | .linkOutsideTree => "symlink points outside the source tree"
  | .linkEscapesDestination => "symlink escapes the destination root"

/-- A path that was refused, as it was written, and the reason. -/
structure InvalidPath where
  path : String
  reason : PathFault
  deriving DecidableEq, Repr

/-- The wording of a refused path. -/
def InvalidPath.message (fault : InvalidPath) : String :=
  s!"invalid destination path '{fault.path}': {fault.reason.message}"

namespace Dest

/-- A segment of a destination, written in characters. -/
abbrev Segment := List Char

/-- The segment `..`. -/
def parentSegment : Segment := ['.', '.']

/-- Whether a segment counts: the empty one and `.` name nothing. -/
def isSignificant (segment : Segment) : Bool :=
  segment ≠ [] && segment ≠ ['.']

/-- The absolute path made of these segments. -/
def ofSegments (segments : List Segment) : List Char :=
  '/' :: Text.glue '/' segments

/-- The segments that count. -/
def significant (text : List Char) : List Segment :=
  (Text.pieces '/' text).filter isSignificant

/-- The canonical spelling of a destination, or the reason why there is none. -/
def normalizeChars (text : List Char) : Except PathFault (List Char) :=
  if Text.isVoid text then .error .empty
  else if parentSegment ∈ significant text then .error .parentSegment
  else .ok (ofSegments (significant text))

/-- The canonical spelling of a destination path. -/
def normalize (path : String) : Except InvalidPath String :=
  match normalizeChars path.toList with
  | .ok canonical => .ok (String.ofList canonical)
  | .error reason => .error ⟨path, reason⟩

/-- A destination followed by one more segment. -/
def extend (base : List Char) (segment : Segment) : List Char :=
  if base.getLast? = some '/' then base ++ segment else base ++ '/' :: segment

/-- A destination extended by the names of a relative path; any other component leads out. -/
def extendAll (base : List Char) : List LocalPath.Component → Option (List Char)
  | [] => some base
  | .name bytes :: rest => extendAll (extend base (Text.decodeLossy bytes)) rest
  | .current :: rest => extendAll base rest
  | .root :: _ => none
  | .parent :: _ => none

/-- The destination of a relative local path below a destination. -/
def join (base : String) (relative : LocalPath) : Except InvalidPath String := do
  let canonical ← normalize base
  match extendAll canonical.toList relative.components with
  | some joined => normalize (String.ofList joined)
  | none => .error ⟨relative.shown, .escapesDestination⟩

/-- The form of a canonical destination: a slash and then segments with slashes between them, each
of which counts and none of which is `..`. -/
def Canonical (text : List Char) : Prop :=
  ∃ segments : List Segment,
    text = ofSegments segments ∧
    ∀ segment ∈ segments, isSignificant segment = true ∧ segment ≠ parentSegment ∧ '/' ∉ segment

end Dest

end CdnPublish
