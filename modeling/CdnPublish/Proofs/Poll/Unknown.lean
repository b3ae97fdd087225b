import CdnPublish.Proofs.Poll.Resumption

/-!
# Waiting while a task has an unknown state

A state without a name is not terminal, and all that a wait asks of a state is whether it is. Where
one gateway says that a task is in progress and another says something that this library has no word
for, the two waits therefore go on and end alike. It makes no difference whether that is the state
that a wait starts with or one that it is told on the way.
-/

namespace CdnPublish.Poller

open Program

/-- Two things that a fetch brings back, which are one, or the same task in an unknown state and in
progress. -/
inductive Fetched.Alike : Fetched → Fetched → Prop where
  | same (answer : Fetched) : Alike answer answer
  | unnamed (task : Task) :
      Alike (.ok { task with state := .unknown }) (.ok { task with state := .inProgress })

variable {poller : Poller} {fetch : Fetch} {task first second : Task} {patience failures : Nat}
  {answer other : Fetched} {answers others : List Fetched}
  {turns otherTurns fetched later : List GatewayTurn} {ending : Option Fetched}

namespace Fetched.Alike

theorem endsAfter_eq (alike : Alike answer other) (retries failures : Nat) :
    answer.endsAfter retries failures = other.endsAfter retries failures := by
  cases alike <;> rfl

theorem failures_eq (alike : Alike answer other) (before : Nat) :
    answer.failures before = other.failures before := by
  cases alike <;> rfl

theorem eq_of_ends {retries failures : Nat} (alike : Alike answer other)
    (ends : answer.endsAfter retries failures = true) : answer = other := by
  cases alike with
  | same => rfl
  | unnamed task => cases ends

end Fetched.Alike

/-- A wait stands before its next round without a turn only if it has no round left. -/
theorem runs_rounds_nil_iff (waiting : task.state.isTerminal = false) :
    Runs (poller.rounds fetch patience failures task) [] ending ↔
      patience = 0 ∧ ending = none := by
  cases patience with
  | zero => simp [rounds_of_impatient waiting]
  | succ patience =>
      rw [rounds_of_waiting waiting]
      constructor
      · intro run
        rcases runs_question_bind_iff.mp run with ⟨answer, later, -, impossible⟩
        cases impossible
      · rintro ⟨impossible, -⟩
        cases impossible

theorem runs_round_iff (waiting : task.state.isTerminal = false)
    (run : Runs (fetch task) fetched (some answer))
    (goesOn : answer.endsAfter poller.retries failures = false) :
    Runs (poller.rounds fetch (patience + 1) failures task) (poller.pause :: (fetched ++ later))
      ending ↔
    Runs (poller.rounds fetch patience (answer.failures failures) (answer.known task)) later
      ending :=
  (leads_round patience waiting run goesOn).runs_iff

theorem Rounds.eq_nil_iff (taken : Rounds poller fetch task answers turns) :
    turns = [] ↔ answers = [] := by
  cases taken with
  | none => simp
  | more first later => simp

/-- Two waits that are told alike come to the same end after their rounds. -/
theorem runs_rounds_iff_of_alike (alike : List.Forall₂ Fetched.Alike answers others)
    (taken : Rounds poller fetch first answers turns)
    (otherTaken : Rounds poller fetch second others otherTurns)
    (waiting : first.state.isTerminal = false) (otherWaiting : second.state.isTerminal = false) :
    Runs (poller.rounds fetch patience failures first) turns ending ↔
      Runs (poller.rounds fetch patience failures second) otherTurns ending := by
  induction alike generalizing first second turns otherTurns patience failures with
  | nil =>
      cases taken
      cases otherTaken
      rw [runs_rounds_nil_iff waiting, runs_rounds_nil_iff otherWaiting]
  | @cons answer other answers others here rest induction_hypothesis =>
      rcases taken with _ | ⟨round, goes⟩
      rcases otherTaken with _ | ⟨otherRound, otherGoes⟩
      cases patience with
      | zero => simp [rounds_of_impatient waiting, rounds_of_impatient otherWaiting]
      | succ patience =>
          cases ends : answer.endsAfter poller.retries failures with
          | true =>
              have same : answer = other := here.eq_of_ends ends
              subst same
              have both : answers = [] ↔ others = [] := by
                cases rest <;> simp
              rw [runs_last_round_iff waiting round ends,
                runs_last_round_iff otherWaiting otherRound ends, goes.eq_nil_iff,
                otherGoes.eq_nil_iff, both]
          | false =>
              have otherEnds : other.endsAfter poller.retries failures = false := by
                rw [← here.endsAfter_eq, ends]
              rw [runs_round_iff waiting round ends,
                runs_round_iff otherWaiting otherRound otherEnds, here.failures_eq]
              exact induction_hypothesis goes otherGoes (waiting_known waiting ends)
                (waiting_known otherWaiting otherEnds)

/-- Where the next question is the same, two waits are the same from then on. -/
theorem runs_rounds_iff_of_fetch_eq (same : fetch first = fetch second)
    (waiting : first.state.isTerminal = false) (otherWaiting : second.state.isTerminal = false) :
    Runs (poller.rounds fetch patience failures first) turns ending ↔
      Runs (poller.rounds fetch patience failures second) turns ending := by
  induction patience generalizing failures turns with
  | zero => rw [rounds_of_impatient waiting, rounds_of_impatient otherWaiting]
  | succ patience induction_hypothesis =>
      have after : ∀ answer turns,
          Runs (poller.afterFetch fetch patience failures first answer) turns ending ↔
            Runs (poller.afterFetch fetch patience failures second answer) turns ending := by
        intro answer turns
        cases answer with
        | ok next => exact runs_tell_iff.trans runs_tell_iff.symm
        | error fault =>
            simp only [afterFetch]
            split
            · exact runs_tell_iff.trans (induction_hypothesis.trans runs_tell_iff.symm)
            · rfl
      rw [rounds_of_waiting waiting, rounds_of_waiting otherWaiting, same]
      exact runs_bind_congr fun _ _ => runs_bind_congr after

/-- A wait for a task of the gateway cannot tell an unknown state from one that is in progress. -/
theorem runs_awaitTask_unknown_iff (poller : Poller) (task : Task) :
    Runs (poller.awaitTask { task with state := .unknown }).run turns ending ↔
      Runs (poller.awaitTask { task with state := .inProgress }).run turns ending := by
  rw [runs_awaitTask_iff, runs_awaitTask_iff]
  exact runs_rounds_iff_of_fetch_eq rfl rfl rfl

end CdnPublish.Poller
