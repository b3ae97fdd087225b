/-!
# Publishes and tasks

The objects of the gateway that a client holds: a publish, which collects items until it is
committed, and a task, which reports the progress of a commit or of a cache flush. Both carry the
links under which the gateway wants to be addressed next.
-/

namespace CdnPublish

/-- Named links in the order of their names; a name occurs at most once. -/
structure Links where
  entries : List (String × String)
  ordered : entries.Pairwise fun first second => first.1 < second.1
  deriving DecidableEq

instance : Repr Links := ⟨fun links _ => repr links.entries⟩

namespace Links

/-- No links. -/
def none : Links := ⟨[], .nil⟩

instance : Inhabited Links := ⟨none⟩

/-- The link of a name. -/
def get? (links : Links) (name : String) : Option String :=
  links.entries.lookup name

/-- The links with one more at its place, which replaces an earlier one of the same name. -/
def insert (links : Links) (name target : String) : Links where
  entries := links.entries.filter (·.1 < name) ++
    (name, target) :: links.entries.filter (name < ·.1)
  ordered := by
    simp only [List.pairwise_append, List.pairwise_cons, List.mem_cons, List.mem_filter,
      decide_eq_true_eq]
    refine ⟨links.ordered.filter _, ⟨fun entry isLater => isLater.2, links.ordered.filter _⟩, ?_⟩
    rintro entry ⟨-, before⟩ other (rfl | ⟨-, after⟩)
    · exact before
    · exact String.lt_trans before after

/-- The links given by pairs; of two with one name the later one counts. -/
def ofList (pairs : List (String × String)) : Links :=
  pairs.foldl (fun links pair => links.insert pair.1 pair.2) none

end Links

/-- How far a task is. A state this library has no name for is `unknown`. -/
inductive TaskState where
  | notStarted
  | inProgress
  | complete
  | failed
  | unknown
  deriving DecidableEq, Repr, Inhabited

namespace TaskState

/-- The name of a state on the wire and in messages. -/
def word : TaskState → String
  | .notStarted => "NOT_STARTED"
  | .inProgress => "IN_PROGRESS"
  | .complete => "COMPLETE"
  | .failed => "FAILED"
  | .unknown => "UNKNOWN"

/-- The state with this name; every other word is an unknown state. -/
def ofWord (word : String) : TaskState :=
  if word = "NOT_STARTED" then .notStarted
  else if word = "IN_PROGRESS" then .inProgress
  else if word = "COMPLETE" then .complete
  else if word = "FAILED" then .failed
  else .unknown

/-- A state that never changes again. -/
def isTerminal : TaskState → Bool
  | .complete => true
  | .failed => true
  | .notStarted => false
  | .inProgress => false
  | .unknown => false

/-- The words are read back. -/
@[simp] theorem ofWord_word (state : TaskState) : ofWord state.word = state := by
  cases state <;> decide

end TaskState

/-- A commit or flush that the gateway works on. -/
structure Task where
  id : String
  state : TaskState
  links : Links
  updated : Option String
  publishId : Option String
  deadline : Option String
  deriving DecidableEq, Repr, Inhabited

/-- A publish as the gateway describes it. -/
structure Publish where
  id : String
  links : Links
  env : Option String
  state : Option String
  deriving DecidableEq, Repr, Inhabited

end CdnPublish
