import CdnPublish.CommandLine.Run
import CdnPublish.Proofs.Sync.Origins

/-!
# What is reported of a sync

A sync that comes to an end without a fault has a task to report, or it had nothing to do. The
report of a task is a line of output, and so is the report that there was nothing to do; only a
report that fits neither would leave the user without a word, and no sync leaves one.
-/

namespace CdnPublish

open Program Sync

namespace CommandLine

variable {report : Report}

theorem output_line_ne_empty (text : String) (exit : Exit) : (line text exit).output ≠ "" := by
  intro empty
  have characters := congrArg String.toList empty
  simp [line] at characters

theorem output_reportTask_ne_empty (what : String) (task : Task) :
    (reportTask what task).output ≠ "" := by
  unfold reportTask
  split
  · exact output_line_ne_empty _ _
  · exact output_line_ne_empty _ _

/-- Nothing is said about a sync only if there was something to do and there is no task. -/
theorem output_reportSync_eq_empty_iff (source : LocalPath) (destination : String) :
    (reportSync source destination report).output = "" ↔
      report.outcome ≠ .nothingToDo ∧ report.task = none := by
  unfold reportSync
  split
  · rename_i nothing
    exact iff_of_false (output_line_ne_empty _ _) (fun silent => silent.1 nothing)
  · rename_i reported
    refine iff_of_false (output_line_ne_empty _ _) (fun silent => ?_)
    cases reported.symm.trans silent.2
  · rename_i reported _ _
    refine iff_of_false (output_reportTask_ne_empty _ _) (fun silent => ?_)
    cases reported.symm.trans silent.2
  · rename_i taskless something
    exact iff_of_true rfl ⟨something, taskless⟩

end CommandLine

/-- A sync never takes a step that is not due, whatever it is answered. A fault that is out of order
is one that an answer has brought, as every fault stems from the local side, from an answer, or from
a task without a link. The report of a sync that was no dry run has a publish and a task exactly if
the plan is not empty; a task that was waited for has ended; and something is always said about
it. -/
theorem sync_in_order (client : Client) (tree laterTree : FileTree) (source : LocalPath)
    (destination : String) (options : Options) (turns : List GatewayTurn) :
    (∀ fault,
      Runs (client.sync tree source destination options laterTree).run turns (some (.error fault)) →
      StemsFrom turns fault ∧
      ((∀ turn ∈ turns, ∀ cause, refusal? turn = some cause → cause.isOutOfOrder = false) →
        fault.isOutOfOrder = false)) ∧
    (options.dryRun = false → ∀ report,
      Runs (client.sync tree source destination options laterTree).run turns (some (.ok report)) →
      (plan tree source destination options).result = .ok report.items ∧
      ((∃ task, report.task = some task) ↔ report.items ≠ []) ∧
      ((∃ publish, report.publish = some publish) ↔ ∃ task, report.task = some task) ∧
      (options.wait = true → ∀ task, report.task = some task → task.state.isTerminal = true) ∧
      (report.outcome = .nothingToDo ↔ report.items = []) ∧
      (∀ given, (CommandLine.reportSync given destination report).output ≠ "")) := by
  constructor
  · intro fault run
    have stems := (Client.runs_sync_error_iff.mp run).stemsFrom
    refine ⟨stems, fun inOrder => ?_⟩
    by_contra outOfOrder
    rcases stems.exists_answer (Bool.eq_true_of_not_eq_false outOfOrder) with ⟨turn, mem, refused⟩
    exact outOfOrder (inOrder turn mem fault refused)
  · intro real report run
    rcases accounts_of_runs_sync real run with ⟨items, planned, accounts⟩
    have nothing := accounts.nothingToDo_iff
    rcases accounts.items_eq with rfl
    refine ⟨planned, accounts.task_iff, accounts.publish_iff, accounts.ended, nothing, ?_⟩
    intro given
    rw [Ne, CommandLine.output_reportSync_eq_empty_iff]
    rintro ⟨something, taskless⟩
    exact something (Report.outcome_of_taskless accounts.real taskless)

/-- The answer to the one item is lost, and the fault that tells of it is not out of order. Where
the item is taken, the task of its commit is reported, which has ended. -/
theorem sync_in_order_singleFile :
    (SyncFault.partialPublish newPublish 0 1 lostAnswer).isOutOfOrder = false ∧
    StemsFrom refusedTurns (.partialPublish newPublish 0 1 lostAnswer) ∧
    Report.outcome ⟨[singleItem], ⟨1, 0⟩, some newPublish,
      some ⟨"t", .complete, .none, none, none, none⟩, false⟩ ≠ .nothingToDo ∧
    (CommandLine.reportSync singlePath "/d" ⟨[singleItem], ⟨1, 0⟩, some newPublish,
      some ⟨"t", .complete, .none, none, none, none⟩, false⟩).output ≠ "" := by
  have failed := (sync_in_order ⟨"live", ⟨5, 1, 9⟩⟩ singleFile singleFile singlePath "/d" .plain
    refusedTurns).1 _ (Client.runs_sync_error_iff.mpr failure_refusedTurns)
  have ended := (sync_in_order ⟨"live", ⟨5, 1, 9⟩⟩ singleFile singleFile singlePath "/d" .plain
    (singleTurns newPublish)).2 rfl _ (runs_sync_singleFile newPublish)
  refine ⟨failed.2 ?_, failed.1, ?_, ended.2.2.2.2.2 singlePath⟩
  · intro turn mem cause refused
    simp only [refusedTurns, List.mem_cons, List.not_mem_nil, or_false] at mem
    rcases mem with rfl | rfl | rfl | rfl <;> cases refused
    rfl
  · intro nothing
    exact absurd (ended.2.2.2.2.1.mp nothing) (List.cons_ne_nil _ _)

end CdnPublish
