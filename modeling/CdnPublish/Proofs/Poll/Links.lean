import CdnPublish.Proofs.Gateway.Kinds
import CdnPublish.Proofs.Poll.Resumption

/-!
# Which link a wait follows

A task says itself where it wants to be asked for again, and may say something else every time. A
wait always asks through the link of the task that it has seen last; a failed question shows no
task, so it is repeated through the same link. A task without a link cannot be asked for: unless it
is terminal, it ends the wait, and as that failure is no transient one, no retry is spent on it.
-/

namespace CdnPublish.Poller

open Program

/-- The turn in which the gateway is asked for the task behind a link. -/
def lookOf (link : String) (answer : Fetched) : GatewayTurn :=
  ⟨.getTask link, answer⟩

/-- The task that is known once a turn has been taken. -/
def shownBy (known : Task) : GatewayTurn → Task
  | ⟨.getTask _, .ok next⟩ => next
  | _ => known

/-- The task that was seen last in these turns, or the one that was known before. -/
def newest (task : Task) (turns : List GatewayTurn) : Task :=
  turns.foldl shownBy task

/-- How often the gateway was asked for a task. -/
def looks (turns : List GatewayTurn) : Nat :=
  turns.countP fun turn => turn.question.kind = .poll

/-- How a wait proceeds from a task that it has just come to know, with so many rounds left: a
terminal task is the result, whether it has links or not; for any other one the poller sleeps and
then asks through the link of that task, and if there is none, the wait ends. -/
inductive Proceeds (poller : Poller) :
    Nat → Task → List GatewayTurn → Option Fetched → Prop where
  | terminal (left : Nat) {task : Task} (finished : task.state.isTerminal = true) :
      Proceeds poller left task [] (some (.ok task))
  | impatient {task : Task} (waiting : task.state.isTerminal = false) :
      Proceeds poller 0 task [] none
  | unlinked (left : Nat) {task : Task} (waiting : task.state.isTerminal = false)
      (unlinked : task.links.get? "self" = none) :
      Proceeds poller (left + 1) task [poller.pause]
        (some (.error (.missingLink "task" task.id "self")))
  | linked (left : Nat) {task : Task} {link : String} (waiting : task.state.isTerminal = false)
      (linked : task.links.get? "self" = some link) (answer : Fetched) (later : List GatewayTurn)
      (ending : Option Fetched) :
      Proceeds poller (left + 1) task (poller.pause :: lookOf link answer :: later) ending

/-- The turns of a wait that follows the links: every question goes through the link of the newest
task, and every task that is seen decides how the wait proceeds, as the first one does. -/
structure FollowsLinks (poller : Poller) (patience : Nat) (task : Task) (turns : List GatewayTurn)
    (ending : Option Fetched) : Prop where
  proceeds : Proceeds poller patience task turns ending
  asked : ∀ before link answer after, turns = before ++ lookOf link answer :: after →
    (newest task before).links.get? "self" = some link
  seen : ∀ before link next after, turns = before ++ lookOf link (.ok next) :: after →
    Proceeds poller (patience - (looks before + 1)) next after ending

variable {poller : Poller} {task : Task} {patience failures : Nat} {link : String}
  {answer : Fetched} {turns : List GatewayTurn} {ending : Option Fetched}

/-- A task without a link ends the wait: the fault is no transient one, so no retry is counted. -/
theorem runs_rounds_of_unlinked (waiting : task.state.isTerminal = false)
    (unlinked : task.links.get? "self" = none) :
    Runs (poller.rounds fetchSelf (patience + 1) failures task) turns ending ↔
      turns = [poller.pause] ∧ ending = some (.error (.missingLink "task" task.id "self")) := by
  have lasting : Fetched.endsAfter poller.retries failures
      (.error (.missingLink "task" task.id "self")) = true := rfl
  have ended : ∀ {later}, Runs (poller.afterFetch fetchSelf patience failures task
      (.error (.missingLink "task" task.id "self"))) later ending ↔
      later = [] ∧ ending = some (.error (.missingLink "task" task.id "self")) :=
    runs_afterFetch_of_ends lasting
  rw [rounds_of_waiting waiting, fetchSelf_of_unlinked unlinked]
  constructor
  · intro run
    rcases runs_question_bind_iff.mp run with ⟨-, later, ran, rfl⟩
    rcases ended.mp ran with ⟨rfl, rfl⟩
    exact ⟨rfl, rfl⟩
  · rintro ⟨rfl, same⟩
    exact runs_question_bind_iff.mpr ⟨(), [], ended.mpr ⟨rfl, same⟩, rfl⟩

theorem runs_rounds_of_linked (waiting : task.state.isTerminal = false)
    (linked : task.links.get? "self" = some link) :
    Runs (poller.rounds fetchSelf (patience + 1) failures task) turns ending ↔
      ∃ answer later, turns = poller.pause :: lookOf link answer :: later ∧
        Runs (poller.afterFetch fetchSelf patience failures task answer) later ending := by
  rw [rounds_of_waiting waiting, fetchSelf_of_linked linked]
  constructor
  · intro run
    rcases runs_question_bind_iff.mp run with ⟨-, asking, ran, rfl⟩
    rcases runs_question_bind_iff.mp ran with ⟨answer, later, goesOn, rfl⟩
    exact ⟨answer, later, rfl, goesOn⟩
  · rintro ⟨answer, later, rfl, goesOn⟩
    exact runs_question_bind_iff.mpr
      ⟨(), _, runs_question_bind_iff.mpr ⟨answer, later, goesOn, rfl⟩, rfl⟩

theorem round_split {later before after : List GatewayTurn} {turn : GatewayTurn}
    (split : poller.pause :: lookOf link answer :: later = before ++ turn :: after) :
    turn = poller.pause ∨
      (before = [poller.pause] ∧ turn = lookOf link answer ∧ after = later) ∨
      ∃ earlier, before = poller.pause :: lookOf link answer :: earlier ∧
        later = earlier ++ turn :: after := by
  rcases before with _ | ⟨first, _ | ⟨second, earlier⟩⟩
  · cases split
    exact Or.inl rfl
  · cases split
    exact Or.inr (Or.inl ⟨rfl, rfl, rfl⟩)
  · cases split
    exact Or.inr (Or.inr ⟨earlier, rfl, rfl⟩)

theorem newest_round (task : Task) (earlier : List GatewayTurn) :
    newest task (poller.pause :: lookOf link answer :: earlier) =
      newest (answer.known task) earlier := by
  cases answer <;> rfl

theorem looks_round (earlier : List GatewayTurn) :
    looks (poller.pause :: lookOf link answer :: earlier) = looks earlier + 1 := by
  simp [looks, pause, lookOf, Question.kind]

/-- A round follows the link, and what follows the round is a failure that ends the wait or another
wait for the task that is known by then. -/
theorem followsLinks_round {later : List GatewayTurn} (waiting : task.state.isTerminal = false)
    (linked : task.links.get? "self" = some link)
    (rest : (later = [] ∧ ∃ fault, answer = .error fault) ∨
      FollowsLinks poller patience (answer.known task) later ending) :
    FollowsLinks poller (patience + 1) task (poller.pause :: lookOf link answer :: later)
      ending where
  proceeds := .linked patience waiting linked answer later ending
  asked := by
    intro before other given after split
    rcases round_split split with never | ⟨rfl, same, rfl⟩ | ⟨earlier, rfl, rfl⟩
    · cases never
    · cases same
      exact linked
    · rcases rest with ⟨none, -⟩ | follows
      · simp at none
      · rw [newest_round]
        exact follows.asked earlier other given after rfl
  seen := by
    intro before other next after split
    rcases round_split split with never | ⟨rfl, same, rfl⟩ | ⟨earlier, rfl, rfl⟩
    · cases never
    · cases same
      rcases rest with ⟨-, fault, never⟩ | follows
      · cases never
      · exact follows.proceeds
    · rcases rest with ⟨none, -⟩ | follows
      · simp at none
      · rw [looks_round, Nat.add_sub_add_right]
        exact follows.seen earlier other next after rfl

theorem followsLinks_of_unasked (proceeds : Proceeds poller patience task turns ending)
    (unasked : ∀ turn ∈ turns, turn.question.kind ≠ .poll) :
    FollowsLinks poller patience task turns ending where
  proceeds := proceeds
  asked := by
    rintro before link answer after rfl
    exact absurd rfl (unasked (lookOf link answer) (by simp))
  seen := by
    rintro before link next after rfl
    exact absurd rfl (unasked (lookOf link (.ok next)) (by simp))

theorem followsLinks_of_terminal (finished : task.state.isTerminal = true)
    (run : Runs (poller.rounds fetchSelf patience failures task) turns ending) :
    FollowsLinks poller patience task turns ending := by
  rw [rounds_of_terminal finished] at run
  rcases runs_done_iff.mp run with ⟨rfl, rfl⟩
  exact followsLinks_of_unasked (.terminal patience finished) (by simp)

/-- Which link is followed does not depend on the failures counted so far. -/
theorem followsLinks_of_runs_rounds
    (run : Runs (poller.rounds fetchSelf patience failures task) turns ending) :
    FollowsLinks poller patience task turns ending := by
  induction patience generalizing task failures turns with
  | zero =>
      cases finished : task.state.isTerminal with
      | true => exact followsLinks_of_terminal finished run
      | false =>
          rw [rounds_of_impatient finished] at run
          rcases runs_stalled_iff.mp run with ⟨rfl, rfl⟩
          exact followsLinks_of_unasked (.impatient finished) (by simp)
  | succ patience induction_hypothesis =>
      cases finished : task.state.isTerminal with
      | true => exact followsLinks_of_terminal finished run
      | false =>
          cases linked : task.links.get? "self" with
          | none =>
              rcases (runs_rounds_of_unlinked finished linked).mp run with ⟨rfl, rfl⟩
              apply followsLinks_of_unasked (.unlinked patience finished linked)
              simp [pause, Question.kind]
          | some link =>
              rcases (runs_rounds_of_linked finished linked).mp run with
                ⟨answer, later, rfl, goesOn⟩
              apply followsLinks_round finished linked
              cases ends : answer.endsAfter poller.retries failures with
              | false =>
                  rcases afterFetch_of_goesOn fetchSelf patience task ends with ⟨entry, next⟩
                  rw [next] at goesOn
                  exact Or.inr (induction_hypothesis (runs_tell_iff.mp goesOn))
              | true =>
                  rcases (runs_afterFetch_of_ends ends).mp goesOn with ⟨rfl, rfl⟩
                  cases answer with
                  | error fault => exact Or.inl ⟨rfl, fault, rfl⟩
                  | ok next =>
                      exact Or.inr (followsLinks_of_unasked (.terminal patience ends) (by simp))

/-- A wait for a task follows the newest link. Each of its questions goes through the link of the
task that was seen last, whatever links the tasks before had and whatever failures lie between. A
task that has just come to be known, at the start or by an answer, decides alone how the wait
proceeds: it is the result if it is terminal, it is asked for again through its own link, and if it
has none, the wait ends with that fault after one more sleep. -/
theorem awaitTask_follows_links (poller : Poller) (task : Task) {turns : List GatewayTurn}
    {ending : Option Fetched} (run : Runs (poller.awaitTask task).run turns ending) :
    Proceeds poller poller.patience task turns ending ∧
    (∀ before link answer after, turns = before ++ lookOf link answer :: after →
      (newest task before).links.get? "self" = some link) ∧
    (∀ before link next after, turns = before ++ lookOf link (.ok next) :: after →
      Proceeds poller (poller.patience - (looks before + 1)) next after ending) := by
  have follows := followsLinks_of_runs_rounds (runs_awaitTask_iff.mp run)
  exact ⟨follows.proceeds, follows.asked, follows.seen⟩

section Drifting

/-- A task that does not say where it is. -/
def placeless (state : TaskState) : Task :=
  ⟨"t", state, .none, none, none, none⟩

/-- The turns of a wait in which an answer is lost, the task moves, another answer is lost, and the
task comes back without a link. -/
def driftingTurns (poller : Poller) : List GatewayTurn :=
  [poller.pause, lookOf "/t" (.error (.transport "u" "lost")),
    poller.pause, lookOf "/t" (.ok (taskAt "/u" .inProgress)),
    poller.pause, lookOf "/u" (.error (.transport "u" "late")),
    poller.pause, lookOf "/u" (.ok (placeless .notStarted)), poller.pause]

theorem runs_drifting :
    Runs ((Poller.mk 5 1 9).awaitTask (taskAt "/t" .inProgress)).run (driftingTurns ⟨5, 1, 9⟩)
      (some (.error (.missingLink "task" "t" "self"))) := by
  have ends : Runs ((Poller.mk 5 1 9).rounds fetchSelf 5 0 (placeless .notStarted)) _ _ :=
    (runs_rounds_of_unlinked rfl rfl).mpr ⟨rfl, rfl⟩
  have moved : Runs ((Poller.mk 5 1 9).rounds fetchSelf 7 0 (taskAt "/u" .inProgress)) _ _ :=
    (runs_rounds_of_linked rfl rfl).mpr ⟨.error (.transport "u" "late"), _, rfl,
      .tell ((runs_rounds_of_linked rfl rfl).mpr ⟨.ok (placeless .notStarted), _, rfl, .tell ends⟩)⟩
  have begins : Runs ((Poller.mk 5 1 9).rounds fetchSelf 9 0 (taskAt "/t" .inProgress)) _ _ :=
    (runs_rounds_of_linked rfl rfl).mpr ⟨.error (.transport "u" "lost"), _, rfl,
      .tell ((runs_rounds_of_linked rfl rfl).mpr
        ⟨.ok (taskAt "/u" .inProgress), _, rfl, .tell moved⟩)⟩
  exact runs_awaitTask_iff.mpr begins

/-- The third question goes through the new link, and the wait ends when the link is gone, although
a retry is left. -/
theorem awaitTask_follows_links_drifting :
    Runs ((Poller.mk 5 1 9).awaitTask (taskAt "/t" .inProgress)).run (driftingTurns ⟨5, 1, 9⟩)
      (some (.error (.missingLink "task" "t" "self"))) ∧
    (newest (taskAt "/t" .inProgress) ((driftingTurns ⟨5, 1, 9⟩).take 5)).links.get? "self" =
      some "/u" ∧
    Proceeds ⟨5, 1, 9⟩ 5 (placeless .notStarted) [Poller.pause ⟨5, 1, 9⟩]
      (some (.error (.missingLink "task" "t" "self"))) := by
  have follows := awaitTask_follows_links ⟨5, 1, 9⟩ (taskAt "/t" .inProgress) runs_drifting
  exact ⟨runs_drifting, follows.2.1 _ "/u" (.error (.transport "u" "late")) _ rfl,
    follows.2.2 ((driftingTurns ⟨5, 1, 9⟩).take 7) "/u" _ _ rfl⟩

end Drifting

end CdnPublish.Poller
