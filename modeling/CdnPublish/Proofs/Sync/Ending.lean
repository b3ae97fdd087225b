import CdnPublish.Proofs.Flush.Requests
import CdnPublish.Proofs.Sync.Commit

/-!
# With which turn a workflow ends

A sync that has published, a flush and a watch all come to a task, and the task that they come to is
the one that their last turn has brought. Nothing is asked after it.
-/

namespace CdnPublish

open Program

/-- The task that a turn with the gateway has brought. -/
def taskOf? : GatewayTurn → Option Task
  | ⟨.commitPublish _ _, .ok task⟩ => some task
  | ⟨.getTask _, .ok task⟩ => some task
  | ⟨.flushCache _ _, .ok task⟩ => some task
  | _ => none

/-- The last turn has brought this task. -/
def EndsWith (turns : List GatewayTurn) (task : Task) : Prop :=
  ∃ before last, turns = before ++ [last] ∧ taskOf? last = some task

variable {turns second : List GatewayTurn} {task ended : Task} {poller : Poller}
  {client : Client}

theorem endsWith_singleton {turn : GatewayTurn} (brought : taskOf? turn = some task) :
    EndsWith [turn] task :=
  ⟨[], turn, rfl, brought⟩

theorem EndsWith.append_left (first : List GatewayTurn) (ends : EndsWith second task) :
    EndsWith (first ++ second) task := by
  rcases ends with ⟨before, last, rfl, brought⟩
  exact ⟨first ++ before, last, (List.append_assoc ..).symm, brought⟩

namespace Poller

theorem endsWith_of_runs_fetchSelf (run : Runs (fetchSelf task) turns (some (.ok ended))) :
    EndsWith turns ended := by
  unfold fetchSelf at run
  split at run
  · rcases runs_question_iff.mp run with ⟨answer, same, rfl⟩
    cases same
    exact endsWith_singleton rfl
  · rcases runs_pure_iff.mp run with ⟨-, never⟩
    cases never

/-- A wait that is not over when it begins ends with the fetch that has brought its result. -/
theorem endsWith_of_runs_rounds {patience failures : Nat} (waiting : task.state.isTerminal = false)
    (run : Runs (poller.rounds fetchSelf patience failures task) turns (some (.ok ended))) :
    EndsWith turns ended := by
  induction patience using Nat.strong_induction_on generalizing task failures turns with
  | _ patience induction_hypothesis =>
      rcases exists_first_round waiting run with
        ⟨remaining, fetched, later, answer, rfl, brought, rfl, ⟨-, rfl, rfl⟩ | ⟨goesOn, ran⟩⟩
      · rw [List.append_nil]
        exact (endsWith_of_runs_fetchSelf brought).append_left [poller.pause]
      · have left := waiting_known waiting goesOn
        have ends := induction_hypothesis remaining (Nat.lt_succ_self remaining) left ran
        exact ends.append_left (poller.pause :: fetched)

/-- A wait for a task that a turn has brought ends with that turn or with one of its own. -/
theorem endsWith_of_runs_awaitTask {turn : GatewayTurn} (brought : taskOf? turn = some task)
    (run : Runs (poller.awaitTask task).run turns (some (.ok ended))) :
    EndsWith (turn :: turns) ended := by
  have rounds := runs_awaitTask_iff.mp run
  cases finished : task.state.isTerminal with
  | true =>
      rw [rounds_of_terminal finished] at rounds
      rcases runs_done_iff.mp rounds with ⟨rfl, same⟩
      cases same
      exact endsWith_singleton brought
  | false => exact (endsWith_of_runs_rounds finished rounds).append_left [turn]

end Poller

open Sync

namespace Client

/-- A commit task that is waited for has ended, and otherwise it is left as it is. -/
theorem runs_conclude_ok {options : Options} {session : Session}
    (run : Runs (client.conclude options session task).run turns (some (.ok ended))) :
    (options.wait = true ∧ Runs (client.poller.awaitTask task).run turns (some (.ok ended))) ∨
      (options.wait = false ∧ turns = [] ∧ ended = task) := by
  unfold conclude at run
  cases waits : options.wait with
  | true =>
      rw [waits, if_pos rfl] at run
      rcases runs_run_bind_ok_iff.mp run with ⟨before, last, after, ran, finishes, rfl⟩
      rcases Workflow.runs_ofExcept_bind_iff.mp finishes with ⟨_, -, kept⟩ | ⟨_, -, -, never⟩
      · rcases runs_run_pure_iff.mp kept with ⟨rfl, same⟩
        cases same
        rw [List.append_nil]
        exact Or.inl ⟨rfl, ran⟩
      · cases never
  | false =>
      rw [waits, if_neg Bool.false_ne_true] at run
      rcases Workflow.runs_ofExcept_bind_iff.mp run with ⟨_, -, told⟩ | ⟨_, -, -, never⟩
      · have noted := Workflow.runs_note_bind_iff.mp told
        rcases runs_run_pure_iff.mp noted with ⟨rfl, same⟩
        cases same
        exact Or.inr ⟨rfl, rfl, rfl⟩
      · cases never

/-- Something is published, and the last turn has brought this task. A publish was created before. A
task that is waited for has ended; otherwise the commit was asked for last. -/
structure Publishes (options : Options) (turns : List GatewayTurn) (task : Task) : Prop where
  brought : ∃ before last, turns = before ++ [last] ∧ taskOf? last = some task ∧
    (∃ turn ∈ before, turn.question.kind = .creation) ∧
    (options.wait = false → last.question.kind = .commit)
  ended : options.wait = true → task.state.isTerminal = true

theorem Publishes.append_left {options : Options} (first : List GatewayTurn)
    (publishes : Publishes options second task) : Publishes options (first ++ second) task := by
  rcases publishes with ⟨⟨before, last, rfl, brought, ⟨turn, mem, creates⟩, commits⟩, ended⟩
  refine ⟨⟨first ++ before, last, (List.append_assoc ..).symm, brought, ?_, commits⟩, ended⟩
  exact ⟨turn, List.mem_append_right first mem, creates⟩

theorem publishes_of_course {options : Options} {items : List Item} {date : String}
    {done : Publish × Task}
    (course : Course client options items date turns (some (.ok done))) :
    Publishes options turns done.2 := by
  generalize given : (some (.ok done) : Option (Except SyncFault (Publish × Task))) = ending
    at course
  cases course with
  | uncreated fault => cases given
  | refused publish split cause => cases given
  | denied publish fault => cases given
  | @granted publish task later _ concluded =>
      rcases concluded with ⟨_ | _ | ended, ran, same⟩
      · cases given.trans same
      · cases given.trans same
      cases given.trans same
      have creates : (Session.creationOf client.env (.ok publish)).question.kind = .creation := rfl
      rcases runs_conclude_ok ran with ⟨waits, polled⟩ | ⟨leaves, rfl, rfl⟩
      · have commits : taskOf? (Session.commitOf publish options.commitDeadline (.ok task)) =
            some task := rfl
        rcases Poller.endsWith_of_runs_awaitTask commits polled with ⟨before, last, split, brought⟩
        refine ⟨⟨_ :: (items.map (Session.additionOf publish date) ++ before), last, ?_, brought,
          ⟨_, .head _, creates⟩, ?_⟩, ?_⟩
        · rw [split, List.cons_append, List.append_assoc]
        · intro leaves
          cases waits.symm.trans leaves
        · exact fun _ => Poller.isTerminal_of_runs_awaitTask polled
      · refine ⟨⟨_ :: items.map (Session.additionOf publish date), _, rfl, rfl,
          ⟨_, .head _, creates⟩, fun _ => rfl⟩, ?_⟩
        intro waits
        cases waits.symm.trans leaves

end Client

end CdnPublish
