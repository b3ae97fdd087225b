import CdnPublish.Proofs.CommandLine.Jobs

/-!
# What an exit status means

The exit status says what the gateway has said last. A status of its own stands for a task that the
gateway reports as failed; that something went wrong on the way, and be it that the end of a task
was never learnt, is another status. Success means that the last task is complete, or that there was
no task to wait for.
-/

namespace CdnPublish.CommandLine

open Program

/-- The command does not end before its task does. -/
def Command.waits : Command → Bool
  | .sync _ _ options => options.wait
  | .flush _ => true
  | .task _ => true
  | .whoami => false

/-- The command comes to a failure. -/
def Fails (invocation : Invocation) (surroundings : Surroundings) (patience : Nat)
    (laterTree : FileTree) (turns : List Http.WebTurn) : Prop :=
  ∃ failure, Runs (invocation.job surroundings patience laterTree).run turns (some (.error failure))

variable {invocation : Invocation} {surroundings : Surroundings} {patience : Nat}
  {laterTree : FileTree} {command : Command} {turns before : List Http.WebTurn}
  {last : Http.WebTurn} {task : Task} {finish : Finish}

section Received

end Received

/-- What is left when a command has ended: what it reports, or nothing but the failure. -/
def finishOf : Except Failure Finish → Finish
  | .ok finish => finish
  | .error _ => ⟨"", .failure⟩

/-- An invocation takes the turns of its job, and ends as the job does. -/
theorem runs_run_iff {ending : Option Finish} :
    Runs (invocation.run surroundings patience laterTree) turns ending ↔
      ∃ ended, Runs (invocation.job surroundings patience laterTree).run turns ended ∧
        ending = ended.map finishOf := by
  unfold Invocation.run
  constructor
  · intro run
    rcases runs_bind_iff.mp run with ⟨before, result, after, ran, told, rfl⟩ | ⟨ran, rfl⟩
    · have silent : after = [] ∧ ending = some (finishOf result) := by
        cases result with
        | ok given => exact runs_pure_iff.mp told
        | error failure => exact runs_pure_iff.mp (runs_note_bind_iff.mp told)
      rcases silent with ⟨rfl, rfl⟩
      rw [List.append_nil]
      exact ⟨some result, ran, rfl⟩
    · exact ⟨none, ran, rfl⟩
  · rintro ⟨ended, ran, rfl⟩
    cases ended with
    | none => exact runs_bind_iff.mpr (Or.inr ⟨ran, rfl⟩)
    | some result =>
        refine runs_bind_iff.mpr
          (Or.inl ⟨turns, result, [], ran, ?_, (List.append_nil turns).symm⟩)
        cases result with
        | ok given => exact runs_pure_iff.mpr ⟨rfl, rfl⟩
        | error failure => exact runs_note_bind_iff.mpr (runs_pure_iff.mpr ⟨rfl, rfl⟩)

section Commands

variable {overrides : Overrides}

end Commands

namespace Conclusion

variable {exit : Exit}

end Conclusion

section FailedTask

/-- A gateway on the machine itself. -/
def loopback : Http.Connection where
  base := ⟨"http".toList, some ⟨[], [], .ipv6 [0, 0, 0, 0, 0, 0, 0, 1], none⟩, .segments [[]], none,
    none⟩
  gwUrl := "http://[::1]"
  uploadUrl := "http://[::1]/upload"

/-- Only the gateway is named. -/
def loopbackOverrides : Overrides :=
  ⟨none, some "http://[::1]", none, none, none, none, none⟩

/-- The settings that are left to the defaults but for the gateway. -/
def loopbackSettings : Settings :=
  ⟨"live", "http://[::1]", "http://[::1]/upload", none, none, none, 5, 3, 120⟩

/-- The surroundings of someone who has configured nothing. -/
def unconfigured : Surroundings :=
  ⟨singleFile, some (.ofString "/home"), none⟩

theorem resolve_loopback :
    (Config.empty.resolve unconfigured.tree loopbackOverrides (.ofString "/home")
      unconfigured.user).result = .ok loopbackSettings := by
  cbv

theorem connected_loopback :
    connected unconfigured loopbackOverrides 9 = .ok ⟨⟨"live", ⟨5, 3, 9⟩⟩, loopback⟩ := by
  have absent : unconfigured.tree.hasPath (Config.pathAt (.ofString "/home")) = false := by cbv
  have usable : Http.Connection.ofSettings unconfigured.tree loopbackSettings = .ok loopback := by
    cbv
  exact connected_of_settings rfl (result_load_of_absent absent) resolve_loopback usable

end FailedTask

end CdnPublish.CommandLine
