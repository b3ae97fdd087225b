import CdnPublish.Dest
import CdnPublish.OsFault

/-!
# Local faults

Everything that can go wrong before a request is sent: files, paths, texts of a fixed form, and
settings. A fault is its cause; `message` words it, and `causes` lists the wordings of what lies
behind it, the nearest first.
-/

namespace CdnPublish

/-- Why the walk over a source tree stopped. -/
inductive WalkFault where
  | unreadable (path : LocalPath) (cause : OsFault)
  /-- A refusal that is told without its path. -/
  | pathless (cause : OsFault)
  /-- A followed link led back into a directory that the walk is inside of. -/
  | loop (child ancestor : LocalPath)
  deriving DecidableEq, Repr

namespace WalkFault

/-- The wording of a walk fault. -/
def message : WalkFault → String
  | .unreadable path cause => s!"IO error for operation on {path.shown}: {cause.message}"
  | .pathless cause => cause.message
  | .loop child ancestor =>
    s!"File system loop found: {child.shown} points to an ancestor {ancestor.shown}"

/-- What lies behind a walk fault. -/
def causes : WalkFault → List String
  | .unreadable _ cause => [cause.message]
  | .pathless cause => [cause.message]
  | .loop _ _ => []

end WalkFault

/-- A fault on this side of the network. -/
inductive LocalFault where
  | unreadable (path : LocalPath) (cause : OsFault)
  | malformedConfig (path : LocalPath) (cause : String)
  | invalidPath (fault : InvalidPath)
  | invalidContentKey (text : String)
  | invalidContentType (text : String)
  | missingSetting (setting env : String)
  | incompleteCredentials (env : String)
  | walk (fault : WalkFault)
  deriving DecidableEq, Repr

namespace LocalFault

/-- The wording of a local fault. -/
def message : LocalFault → String
  | .unreadable path cause => s!"I/O error at {path.shown}: {cause.message}"
  | .malformedConfig path cause => s!"failed to parse config at {path.shown}: {cause}"
  | .invalidPath fault => fault.message
  | .invalidContentKey text => s!"invalid content key '{text}'"
  | .invalidContentType text => s!"invalid content type '{text}'"
  | .missingSetting setting env => s!"no {setting} configured for environment '{env}'"
  | .incompleteCredentials env =>
    s!"environment '{env}' needs both a client certificate and a key"
  | .walk fault => s!"walk error: {fault.message}"

/-- The wordings of what lies behind a local fault, the nearest first. -/
def causes : LocalFault → List String
  | .unreadable _ cause => [cause.message]
  | .malformedConfig _ cause => [cause]
  | .walk fault => fault.message :: fault.causes
  | .invalidPath _ => []
  | .invalidContentKey _ => []
  | .invalidContentType _ => []
  | .missingSetting _ _ => []
  | .incompleteCredentials _ => []

end LocalFault

end CdnPublish
