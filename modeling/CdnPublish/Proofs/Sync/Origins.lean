import CdnPublish.Proofs.Poll.Resumption
import CdnPublish.Proofs.Sync.Ending
import CdnPublish.Proofs.Sync.Failure

/-!
# Where the fault of a sync comes from

A session checks at every step that the step is due. A sync only ever takes steps that are due, so
none of these checks fails in it: whatever fault a sync ends with was found locally, or is what an
answer was refused with, or says that the commit task has no link. The wait for that task hands it
back only once it has ended, which is what a session asks for before it is finished.
-/

namespace CdnPublish

open Program Sync

/-- The fault of a step that is not due: the state of its publish forbids it, or items are
missing. -/
def SyncFault.isOutOfOrder : SyncFault → Bool
  | .invalidState _ _ _ => true
  | .incompletePublish _ _ _ => true
  | _ => false

/-- Where the fault of a sync with these turns may come from. -/
inductive StemsFrom (turns : List GatewayTurn) : SyncFault → Prop where
  | ofLocal (fault : LocalFault) : StemsFrom turns (.ofLocal fault)
  | unlinked (task : Task) : StemsFrom turns (.missingLink "task" task.id "self")
  | answer {turn : GatewayTurn} {fault : SyncFault} (mem : turn ∈ turns)
      (refused : refusal? turn = some fault) : StemsFrom turns fault
  | item {turn : GatewayTurn} {cause : SyncFault} (mem : turn ∈ turns)
      (refused : refusal? turn = some cause) (publish : Publish) (added intended : Nat) :
      StemsFrom turns (.partialPublish publish added intended cause)

variable {turns more : List GatewayTurn} {fault : SyncFault} {task : Task}

namespace StemsFrom

theorem mono (stems : StemsFrom turns fault) (kept : turns ⊆ more) : StemsFrom more fault := by
  cases stems with
  | ofLocal fault => exact .ofLocal fault
  | unlinked task => exact .unlinked task
  | answer mem refused => exact .answer (kept mem) refused
  | item mem refused publish added intended =>
      exact .item (kept mem) refused publish added intended

theorem append_left (first : List GatewayTurn) (stems : StemsFrom turns fault) :
    StemsFrom (first ++ turns) fault :=
  stems.mono (List.subset_append_right first turns)

theorem cons (first : GatewayTurn) (stems : StemsFrom turns fault) :
    StemsFrom (first :: turns) fault :=
  stems.mono (List.subset_cons_self first turns)

/-- The fault that the last turn was refused with. -/
theorem last {turn : GatewayTurn} (refused : refusal? turn = some fault) :
    StemsFrom (more ++ [turn]) fault :=
  .answer (List.mem_append_right more (List.mem_singleton_self turn)) refused

/-- Only an answer brings a fault that is out of order. -/
theorem exists_answer (stems : StemsFrom turns fault) (outOfOrder : fault.isOutOfOrder = true) :
    ∃ turn ∈ turns, refusal? turn = some fault := by
  cases stems with
  | ofLocal fault => cases outOfOrder
  | unlinked task => cases outOfOrder
  | answer mem refused => exact ⟨_, mem, refused⟩
  | item mem refused publish added intended => cases outOfOrder

end StemsFrom

namespace Poller

variable {poller : Poller}

theorem stemsFrom_of_runs_fetchSelf (run : Runs (fetchSelf task) turns (some (.error fault))) :
    StemsFrom turns fault := by
  cases linked : task.links.get? "self" with
  | some link =>
      rw [fetchSelf_of_linked linked] at run
      rcases runs_question_iff.mp run with ⟨answer, same, rfl⟩
      cases same
      exact .answer (List.mem_singleton_self _) rfl
  | none =>
      rw [fetchSelf_of_unlinked linked] at run
      rcases runs_done_iff.mp run with ⟨-, same⟩
      cases same
      exact .unlinked task

theorem stemsFrom_of_runs_rounds {patience failures : Nat}
    (run : Runs (poller.rounds fetchSelf patience failures task) turns (some (.error fault))) :
    StemsFrom turns fault := by
  induction patience using Nat.strong_induction_on generalizing task failures turns with
  | _ patience induction_hypothesis =>
      cases finished : task.state.isTerminal with
      | true =>
          rw [rounds_of_terminal finished] at run
          rcases runs_done_iff.mp run with ⟨-, never⟩
          cases never
      | false =>
          rcases exists_first_round finished run with
            ⟨remaining, fetched, later, answer, rfl, brought, rfl, ⟨-, rfl, rfl⟩ | ⟨-, goesOn⟩⟩
          · rw [List.append_nil]
            exact (stemsFrom_of_runs_fetchSelf brought).cons poller.pause
          · have stems := induction_hypothesis remaining (Nat.lt_succ_self remaining) goesOn
            exact (stems.append_left fetched).cons poller.pause

end Poller

namespace Upload

variable {tree laterTree : FileTree} {env : String} {checkExisting : Bool} {blob : Blob}

theorem Fails.stemsFrom (fails : Fails tree env checkExisting blob turns fault) :
    StemsFrom turns fault := by
  cases fails with
  | lookup key path asked fault => exact .answer (List.mem_singleton_self _) rfl
  | unopened key closed => exact .ofLocal _
  | put key isOpen fault => exact .last rfl

end Upload

section Syncs

variable {client : Client} {tree laterTree : FileTree} {source : LocalPath} {destination : String}
  {options : Options} {report : Report}

theorem Sync.Failure.stemsFrom
    (failure : Failure client tree laterTree source destination options turns fault) :
    StemsFrom turns fault := by
  cases failure with
  | unplanned unplannable => exact .ofLocal _
  | unstored planned active split supplied fails => exact fails.stemsFrom.append_left _
  | uncreated prepared fault => exact .last rfl
  | refused prepared publish split cause =>
      exact .item (List.mem_append_right _ (List.mem_singleton_self _)) rfl _ _ _
  | denied prepared publish fault => exact .last rfl
  | lost prepared publish task waits polled =>
      have stems := Poller.stemsFrom_of_runs_rounds (Poller.runs_awaitTask_iff.mp polled)
      exact (stems.cons _).append_left _
  | unlinked prepared publish task leaves unlinked => exact .unlinked task

namespace Sync

/-- What the report of a sync says that was no dry run. -/
structure Accounts (options : Options) (items : List Item) (report : Report) : Prop where
  items_eq : report.items = items
  real : report.dryRun = false
  task_iff : (∃ task, report.task = some task) ↔ items ≠ []
  publish_iff : (∃ publish, report.publish = some publish) ↔ ∃ task, report.task = some task
  ended : options.wait = true → ∀ task, report.task = some task → task.state.isTerminal = true

theorem Outcome.ofState_ne_nothingToDo (state : TaskState) :
    Outcome.ofState state ≠ .nothingToDo := by
  cases state <;> decide

theorem Report.outcome_of_task (real : report.dryRun = false) (reported : report.task = some task) :
    report.outcome = .ofState task.state := by
  unfold Report.outcome
  rw [real, reported]
  rfl

theorem Report.outcome_of_taskless (real : report.dryRun = false) (taskless : report.task = none) :
    report.outcome = .nothingToDo := by
  unfold Report.outcome
  rw [real, taskless]
  rfl

/-- There is nothing to do exactly if the plan is empty. -/
theorem Accounts.nothingToDo_iff {items : List Item} (accounts : Accounts options items report) :
    report.outcome = .nothingToDo ↔ items = [] := by
  cases reported : report.task with
  | some task =>
      rw [Report.outcome_of_task accounts.real reported]
      refine iff_of_false (Outcome.ofState_ne_nothingToDo task.state) ?_
      exact accounts.task_iff.mp ⟨task, reported⟩
  | none =>
      refine iff_of_true (Report.outcome_of_taskless accounts.real reported) ?_
      by_contra proper
      rcases accounts.task_iff.mpr proper with ⟨task, never⟩
      cases reported.symm.trans never

theorem accounts_planned (options : Options) : Accounts options [] (.planned [] false) where
  items_eq := rfl
  real := rfl
  task_iff := by simp [Report.planned]
  publish_iff := by simp [Report.planned]
  ended := by simp [Report.planned]

theorem accounts_of_runs_sync (real : options.dryRun = false)
    (run : Runs (client.sync tree source destination options laterTree).run turns
      (some (.ok report))) :
    ∃ items, (plan tree source destination options).result = .ok items ∧
      Accounts options items report := by
  generalize given : (some (.ok report) : Option (Except SyncFault Report)) = ending at run
  cases Client.runs_sync_iff.mp run with
  | unplanned planned => cases given
  | unstored planned active refused => cases given
  | @idle items planned idle =>
      cases given
      have nothing : items = [] := by simpa [real] using idle
      rw [nothing, real]
      exact ⟨[], nothing ▸ planned, accounts_planned options⟩
  | @published items before later uploads ended planned active stored published =>
      rcases Client.runs_publishItems_iff.mp published with ⟨dated, date, rest, -, course, rfl⟩
      rcases ended with _ | _ | done
      · cases given
      · cases given
      cases given
      have publishes := Client.publishes_of_course course
      refine ⟨items, planned, rfl, active.1, ?_, ?_, ?_⟩
      · exact iff_of_true ⟨done.2, rfl⟩ active.2
      · exact iff_of_true ⟨done.1, rfl⟩ ⟨done.2, rfl⟩
      · rintro waits task ⟨⟩
        exact publishes.ended waits

end Sync

end Syncs

end CdnPublish
