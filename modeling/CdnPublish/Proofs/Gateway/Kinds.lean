import CdnPublish.Poll
import CdnPublish.Proofs.Program.Fallible
import CdnPublish.Proofs.Program.Questions
import CdnPublish.Sync.Run

/-!
# Kinds of questions

What a question is about, and which parts of a sync ask which kind. A question about the time is no
call: it goes neither to the gateway nor to the store.
-/

namespace CdnPublish

/-- What a question is about. -/
inductive Question.Kind where
  | blob
  | creation
  | addition
  | commit
  | poll
  | flush
  | identity
  | time
  deriving DecidableEq, Repr

/-- The kind of a question. -/
def Question.kind : Question → Question.Kind
  | .createPublish _ => .creation
  | .addItem _ _ => .addition
  | .commitPublish _ _ => .commit
  | .getTask _ => .poll
  | .flushCache _ _ => .flush
  | .whoami => .identity
  | .blobExists _ _ => .blob
  | .putBlob _ _ _ => .blob
  | .sleep _ => .time
  | .currentDate => .time

/-- The turns taken with the gateway and the store. -/
def calls (turns : List GatewayTurn) : List GatewayTurn :=
  turns.filter fun turn => turn.question.kind ≠ .time

@[simp]
theorem calls_append (before after : List GatewayTurn) :
    calls (before ++ after) = calls before ++ calls after :=
  List.filter_append ..

/-- All these turns are of one kind. -/
def OfKind (kind : Question.Kind) (turns : List GatewayTurn) : Prop :=
  ∀ turn ∈ turns, turn.question.kind = kind

theorem ofKind_nil {kind : Question.Kind} : OfKind kind [] := by
  simp [OfKind]

theorem ofKind_singleton {kind : Question.Kind} {turn : GatewayTurn}
    (same : turn.question.kind = kind) : OfKind kind [turn] := by
  simpa [OfKind] using same

/-- Turns of one kind other than the time are all calls. -/
theorem OfKind.calls_eq {kind : Question.Kind} {turns : List GatewayTurn}
    (same : OfKind kind turns) (timeless : kind ≠ .time) : calls turns = turns := by
  apply List.filter_eq_self.mpr
  intro turn mem
  simpa [same turn mem] using timeless

/-- Where turns are of one kind or about the time, the calls are of the kind. -/
theorem ofKind_calls {kind : Question.Kind} {turns : List GatewayTurn}
    (asked : ∀ turn ∈ turns, turn.question.kind = kind ∨ turn.question.kind = .time) :
    OfKind kind (calls turns) := by
  intro turn mem
  rcases List.mem_filter.mp mem with ⟨taken, timeless⟩
  rcases asked turn taken with same | timed
  · exact same
  · simp [timed] at timeless

theorem OfKind.calls_eq_nil {turns : List GatewayTurn} (timed : OfKind .time turns) :
    calls turns = [] := by
  apply List.filter_eq_nil_iff.mpr
  intro turn mem
  simp [timed turn mem]

open Program

/-- Sending a blob, or seeing to it that it is there, is the business of the store. -/
theorem Upload.asksOnly_ensure (tree : FileTree) (env : String) (checkExisting : Bool)
    (key : ContentKey) (source : LocalPath) :
    (ensure tree env checkExisting key source).run.AsksOnly (·.kind = .blob) := by
  refine asksOnly_run_bind ?_ fun present => ?_
  · unfold isPresent
    split
    · exact asksOnly_question rfl
    · exact asksOnly_pure
  · split
    · trivial
    · refine asksOnly_run_bind (asksOnly_run_bind trivial fun opened => ?_) fun _ => asksOnly_pure
      exact asksOnly_run_bind (asksOnly_question rfl) fun _ => trivial

theorem Sync.asksOnly_uploadAll (tree : FileTree) (env : String) (checkExisting : Bool)
    (seen : List ContentKey) (uploads : Uploads) (items : List Item) :
    (uploadAll tree env checkExisting seen uploads items).run.AsksOnly (·.kind = .blob) := by
  induction items generalizing seen uploads with
  | nil => exact asksOnly_pure
  | cons item items induction_hypothesis =>
      unfold uploadAll
      split
      · exact induction_hypothesis seen uploads
      · split
        · exact induction_hypothesis seen uploads
        · exact asksOnly_run_bind (Upload.asksOnly_ensure ..) fun outcome =>
            induction_hypothesis _ _

theorem Poller.asksOnly_awaitTask (poller : Poller) (task : Task) :
    (poller.awaitTask task).run.AsksOnly fun question =>
      question.kind = .poll ∨ question.kind = .time := by
  have rounds : ∀ patience failures task, (poller.rounds fetchSelf patience failures task).AsksOnly
      fun question => question.kind = .poll ∨ question.kind = .time := by
    intro patience
    induction patience with
    | zero =>
        intro failures task
        unfold Poller.rounds
        split <;> trivial
    | succ patience induction_hypothesis =>
        intro failures task
        unfold Poller.rounds
        split
        · trivial
        · refine asksOnly_bind (asksOnly_question (Or.inr rfl)) fun _ => asksOnly_bind ?_ ?_
          · unfold fetchSelf
            split
            · exact asksOnly_question (Or.inl rfl)
            · trivial
          · intro answer
            split
            · exact induction_hypothesis ..
            · split
              · exact induction_hypothesis ..
              · trivial
  exact asksOnly_run_bind (rounds ..) fun ended => trivial

/-- After the commit, only its task and the time are asked for. -/
theorem Client.asksOnly_conclude (client : Client) (options : Sync.Options) (session : Session)
    (task : Task) :
    (client.conclude options session task).run.AsksOnly fun question =>
      question.kind = .poll ∨ question.kind = .time := by
  unfold conclude
  split
  · apply asksOnly_run_bind
    · exact client.poller.asksOnly_awaitTask task
    · intro ended
      apply asksOnly_run_bind
      · exact trivial
      · exact fun _ => trivial
  · apply asksOnly_run_bind
    · exact trivial
    · exact fun _ => trivial

end CdnPublish
