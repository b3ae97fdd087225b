import CdnPublish.Proofs.Poll.Rounds
import CdnPublish.Sync.Run

/-!
# Taking up a wait again

Whoever has stopped waiting for a task can go on later from the link that the task carries. Besides
the task, a wait only knows how many failures in a row there have been, and an answer sets that
back. Once the first question is answered, the wait that is taken up stands where the old one would
stand, and the only difference is that it has not slept before that question.
-/

namespace CdnPublish

open Program

namespace Poller

/-- The same way of waiting with another number of rounds before standing still. -/
def withPatience (poller : Poller) (patience : Nat) : Poller :=
  { poller with patience := patience }

/-- The turn in which a task is seen. -/
def sightOf (link : String) (task : Task) : GatewayTurn :=
  ⟨.getTask link, .ok task⟩

variable {poller : Poller} {fetch : Fetch} {task next : Task} {link : String}
  {patience failures : Nat} {turns : List GatewayTurn} {ending : Option Fetched}

/-- The rounds that are left are an argument of the loop, which does not look at the number that the
poller itself has. -/
theorem rounds_withPatience (given : Nat) :
    (poller.withPatience given).rounds fetch patience failures task =
      poller.rounds fetch patience failures task := by
  induction patience generalizing failures task with
  | zero =>
      unfold rounds
      rfl
  | succ patience induction_hypothesis =>
      cases finished : task.state.isTerminal with
      | true => rw [rounds_of_terminal finished, rounds_of_terminal finished]
      | false =>
          rw [rounds_of_waiting finished, rounds_of_waiting finished]
          have same : ∀ answer, (poller.withPatience given).afterFetch fetch patience failures task
              answer = poller.afterFetch fetch patience failures task answer := by
            intro answer
            cases answer with
            | ok next => exact congrArg (Program.tell _) induction_hypothesis
            | error fault =>
                unfold afterFetch
                rw [induction_hypothesis]
                rfl
          rw [funext same]
          rfl

theorem fetchSelf_of_linked (linked : task.links.get? "self" = some link) :
    fetchSelf task = Gateway.getTask link := by
  simp only [fetchSelf, Links.require, linked]

theorem fetchSelf_of_unlinked (unlinked : task.links.get? "self" = none) :
    fetchSelf task = .done (.error (.missingLink "task" task.id "self")) := by
  simp only [fetchSelf, Links.require, unlinked]
  rfl

/-- At the top of a round, a wait for a task with a link sleeps and asks; once it sees the task it
counts no failures. -/
theorem runs_rounds_of_sight (waiting : task.state.isTerminal = false)
    (linked : task.links.get? "self" = some link) :
    Runs (poller.rounds fetchSelf (patience + 1) failures task)
      (poller.pause :: sightOf link next :: turns) ending ↔
      Runs (poller.rounds fetchSelf patience 0 next) turns ending := by
  have top : Leads (poller.rounds fetchSelf (patience + 1) failures task)
      ([poller.pause] ++ ([sightOf link next] ++ []))
      (poller.rounds fetchSelf patience 0 next) := by
    rw [rounds_of_waiting waiting, fetchSelf_of_linked linked]
    have slept : Runs (Gateway.sleep poller.interval) [poller.pause] (some ()) :=
      runs_question_iff.mpr ⟨(), rfl, rfl⟩
    have seen : Runs (Gateway.getTask link) [sightOf link next] (some (.ok next)) :=
      runs_question_iff.mpr ⟨.ok next, rfl, rfl⟩
    exact slept.leads_bind (seen.leads_bind (.tell (.refl _)))
  exact top.runs_iff

end Poller

open Poller

/-- The same client with another number of rounds before standing still. -/
def Client.withPatience (client : Client) (patience : Nat) : Client :=
  { client with poller := client.poller.withPatience patience }

variable {client : Client} {poller : Poller} {task next : Task} {link : String} {patience : Nat}
  {turns : List GatewayTurn} {ending : Option Fetched}

theorem Poller.runs_awaitTask_iff :
    Runs (poller.awaitTask task).run turns ending ↔
      Runs (poller.rounds fetchSelf poller.patience 0 task) turns ending :=
  Workflow.runs_bind_note_iff

/-- Following a link that shows a task is waiting for that task. -/
theorem Client.runs_watch_of_sight :
    Runs ((client.withPatience patience).watch link).run (sightOf link next :: turns) ending ↔
      Runs (client.poller.rounds fetchSelf patience 0 next) turns ending := by
  have seen : Runs (Gateway.getTask link) [sightOf link next] (some (.ok next)) :=
    runs_question_iff.mpr ⟨.ok next, rfl, rfl⟩
  have top : Leads ((client.withPatience patience).watch link).run ([sightOf link next] ++ [])
      ((client.withPatience patience).poller.awaitTask next).run :=
    seen.leads_bind (.tell (.refl _))
  rw [← rounds_withPatience patience]
  exact top.runs_iff.trans runs_awaitTask_iff

/-- A wait that is broken off at the top of a round can be taken up from the link of the task that
it holds. Where the next question is answered, following the link takes the turns that the wait
would have taken, but for the one sleep before that question, and comes to the same end; this holds
whatever the answers before were and however many failures the wait has counted. Either may stand
still only after the same number of rounds that are left. -/
theorem watch_resumes (client : Client) (task : Task) {answers : List Fetched}
    {sofar : List GatewayTurn} {link : String} (waiting : task.state.isTerminal = false)
    (isOpen : ∀ index, ¬EndsAt client.poller.retries answers index)
    (taken : Rounds client.poller fetchSelf task answers sofar)
    (linked : (latest task answers).links.get? "self" = some link) :
    (∀ left, Leads (client.poller.rounds fetchSelf (answers.length + left) 0 task) sofar
      (client.poller.rounds fetchSelf left (streak answers) (latest task answers))) ∧
    (∀ left next later ending,
      Runs ((client.poller.withPatience (answers.length + (left + 1))).awaitTask task).run
        (sofar ++ client.poller.pause :: sightOf link next :: later) ending ↔
      Runs ((client.withPatience left).watch link).run (sightOf link next :: later) ending) := by
  have atTop : ∀ left, Leads (client.poller.rounds fetchSelf (answers.length + left) 0 task) sofar
      (client.poller.rounds fetchSelf left (streak answers) (latest task answers)) ∧
      (latest task answers).state.isTerminal = false := by
    intro left
    have leads := taken.leads (answers.length + left) [] waiting (by simpa using isOpen)
      (Nat.le_add_right ..)
    rw [List.nil_append, Nat.add_sub_cancel_left] at leads
    exact leads
  refine ⟨fun left => (atTop left).1, fun left next later ending => ?_⟩
  rcases atTop (left + 1) with ⟨leads, unfinished⟩
  calc Runs ((client.poller.withPatience (answers.length + (left + 1))).awaitTask task).run
        (sofar ++ client.poller.pause :: sightOf link next :: later) ending
    _ ↔ Runs (client.poller.rounds fetchSelf (answers.length + (left + 1)) 0 task)
          (sofar ++ client.poller.pause :: sightOf link next :: later) ending := by
        rw [runs_awaitTask_iff, rounds_withPatience]
        rfl
    _ ↔ Runs (client.poller.rounds fetchSelf (left + 1) (streak answers) (latest task answers))
          (client.poller.pause :: sightOf link next :: later) ending := leads.runs_iff
    _ ↔ Runs (client.poller.rounds fetchSelf left 0 next) later ending :=
        runs_rounds_of_sight unfinished linked
    _ ↔ Runs ((client.withPatience left).watch link).run (sightOf link next :: later) ending :=
        Client.runs_watch_of_sight.symm

section Moved

/-- A task that says where it is. -/
def taskAt (link : String) (state : TaskState) : Task :=
  ⟨"t", state, ⟨[("self", link)], by simp⟩, none, none, none⟩

/-- An answer that was lost. -/
def lostOnce : List Fetched :=
  [.error (.transport "u" "lost")]

/-- The turns of a wait that has lost its first answer. -/
def lostTurns (poller : Poller) : List GatewayTurn :=
  [poller.pause, ⟨.getTask "/t", Except.error (.transport "u" "lost")⟩]

/-- The turns in which the task is seen to be complete at another link. -/
def movedTurns (poller : Poller) : List GatewayTurn :=
  [poller.pause, sightOf "/u" (taskAt "/u" .complete)]

/-- A wait that has counted a failure is taken up, and the task moves before it is complete. -/
theorem watch_resumes_moved :
    (taskAt "/t" .inProgress).state.isTerminal = false ∧
    (∀ index, ¬EndsAt 1 lostOnce index) ∧
    Rounds ⟨5, 1, 9⟩ fetchSelf (taskAt "/t" .inProgress) lostOnce (lostTurns ⟨5, 1, 9⟩) ∧
    (latest (taskAt "/t" .inProgress) lostOnce).links.get? "self" = some "/t" ∧
    Runs ((Poller.mk 5 1 3).awaitTask (taskAt "/t" .inProgress)).run
      (lostTurns ⟨5, 1, 9⟩ ++ Poller.pause ⟨5, 1, 9⟩ ::
        sightOf "/t" (taskAt "/u" .inProgress) :: movedTurns ⟨5, 1, 9⟩)
      (some (.ok (taskAt "/u" .complete))) ∧
    Runs ((Client.mk "live" ⟨5, 1, 1⟩).watch "/t").run
      (sightOf "/t" (taskAt "/u" .inProgress) :: movedTurns ⟨5, 1, 9⟩)
      (some (.ok (taskAt "/u" .complete))) := by
  have isOpen : ∀ index, ¬EndsAt 1 lostOnce index := by
    intro index ended
    rcases endsAt_iff.mp ended with ⟨answer, fetched, -⟩
    have short : index < 1 := (List.getElem?_eq_some_iff.mp fetched).1
    rw [Nat.lt_one_iff.mp short] at ended
    exact absurd ended (by decide)
  have lost : Runs (fetchSelf (taskAt "/t" .inProgress))
      [⟨.getTask "/t", Except.error (.transport "u" "lost")⟩]
      (some (.error (.transport "u" "lost"))) := .ask _ (.done _)
  have taken : Rounds ⟨5, 1, 9⟩ fetchSelf (taskAt "/t" .inProgress) lostOnce
      (lostTurns ⟨5, 1, 9⟩) := .more lost (.none _)
  have linked : (latest (taskAt "/t" .inProgress) lostOnce).links.get? "self" = some "/t" := rfl
  have moved : Runs ((Poller.mk 5 1 9).rounds fetchSelf 1 0 (taskAt "/u" .inProgress))
      (movedTurns ⟨5, 1, 9⟩) (some (.ok (taskAt "/u" .complete))) :=
    (runs_rounds_of_sight rfl rfl).mpr (.done _)
  have watched : Runs (((Client.mk "live" ⟨5, 1, 9⟩).withPatience 1).watch "/t").run
      (sightOf "/t" (taskAt "/u" .inProgress) :: movedTurns ⟨5, 1, 9⟩)
      (some (.ok (taskAt "/u" .complete))) := Client.runs_watch_of_sight.mpr moved
  have resumed := watch_resumes ⟨"live", ⟨5, 1, 9⟩⟩ _ rfl isOpen taken linked
  exact ⟨rfl, isOpen, taken, linked, (resumed.2 1 _ _ _).mpr watched, watched⟩

end Moved

end CdnPublish
