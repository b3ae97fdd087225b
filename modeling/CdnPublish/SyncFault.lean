import CdnPublish.LocalFault
import CdnPublish.Task
import CdnPublish.Url.Fault

/-!
# Faults of a workflow

Everything that can end a workflow: a local fault, a failed exchange with the gateway, or a step
that the state of a publish forbids. Only a failure of the transport is transient: the same request
may succeed when it is sent again.
-/

namespace CdnPublish

/-- Why a workflow ended without a result. -/
inductive SyncFault where
  | ofLocal (fault : LocalFault)
  /-- No answer came back. -/
  | transport (url cause : String)
  /-- The answer was a refusal; `detail` is what the gateway said about it. -/
  | status (url : String) (code : Nat) (detail : Option String)
  /-- The answer could not be read. -/
  | decode (url cause : String)
  | json (cause : String)
  | invalidLink (link : String) (cause : Url.Fault)
  | missingLink (object id name : String)
  | tls (cause : String)
  /-- An item was refused, so the publish was given up. -/
  | partialPublish (publish : Publish) (added intended : Nat) (cause : SyncFault)
  | incompletePublish (id : String) (added intended : Nat)
  | invalidState (id state action : String)
  | nothingToFlush
  deriving DecidableEq, Repr

namespace SyncFault

/-- The wording of a fault. -/
def message : SyncFault → String
  | .ofLocal fault => fault.message
  | .transport url cause => s!"request to {url} failed: {cause}"
  | .status url code none => s!"{url} returned HTTP {code}"
  | .status url code (some detail) => s!"{url} returned HTTP {code}: {detail}"
  | .decode url cause => s!"unexpected response from {url}: {cause}"
  | .json cause => s!"JSON error: {cause}"
  | .invalidLink link cause => s!"invalid link '{link}': {cause.message}"
  | .missingLink object id name => s!"{object} {id} has no '{name}' link"
  | .tls cause => s!"TLS setup failed: {cause}"
  | .partialPublish publish added intended _ =>
    s!"publish {publish.id} abandoned after {added} of {intended} items"
  | .incompletePublish id added intended =>
    s!"refusing to commit publish {id}: {added} of {intended} items added"
  | .invalidState id state action => s!"publish {id} is {state}; cannot {action}"
  | .nothingToFlush => "no paths given to flush"

/-- The wordings of what lies behind a fault, the nearest first. -/
def causes : SyncFault → List String
  | .ofLocal fault => fault.causes
  | .decode _ cause => [cause]
  | .json cause => [cause]
  | .invalidLink _ cause => [cause.message]
  | .partialPublish _ _ _ cause => cause.message :: cause.causes
  | .transport _ _ => []
  | .status _ _ _ => []
  | .missingLink _ _ _ => []
  | .tls _ => []
  | .incompletePublish _ _ _ => []
  | .invalidState _ _ _ => []
  | .nothingToFlush => []

/-- Whether the same request may succeed when it is sent again. -/
def isTransient : SyncFault → Bool
  | .transport _ _ => true
  | _ => false

end SyncFault

/-- The link of a name, or the fault that the object has none. -/
def Links.require (links : Links) (object id name : String) : Except SyncFault String :=
  match links.get? name with
  | .some link => .ok link
  | Option.none => .error (.missingLink object id name)

end CdnPublish
