import CdnPublish.Gateway
import CdnPublish.Proofs.Program.Runs

/-!
# Runs of programs that may fail

The runs of a program whose result is a value or a fault: a sequence stops at the first fault and
ends with it. The steps that a workflow is built from, its questions, its notes and the results
that are known without asking, are described one by one, so that the runs of a workflow can be read
off its text.
-/

namespace CdnPublish

namespace Program

variable {Question : Type} {Answer : Question → Type} {Result Other Fault : Type}
  {turns : List (Turn Question Answer)} {ending : Option (Except Fault Result)}

/-- A sequence that may fail goes on after a value, ends with the first fault, and stalls with its
first part. -/
theorem runs_run_bind_iff {first : ExceptT Fault (Program Question Answer) Other}
    {next : Other → ExceptT Fault (Program Question Answer) Result} :
    Runs (first >>= next).run turns ending ↔
      (∃ before value after, Runs first.run before (some (.ok value)) ∧
        Runs (next value).run after ending ∧ turns = before ++ after) ∨
      (∃ fault, Runs first.run turns (some (.error fault)) ∧ ending = some (.error fault)) ∨
      (Runs first.run turns none ∧ ending = none) := by
  rw [ExceptT.run_bind, runs_bind_iff]
  constructor
  · rintro (⟨before, value | value, after, ran, goesOn, rfl⟩ | ⟨ran, rfl⟩)
    · rcases runs_pure_iff.mp goesOn with ⟨rfl, rfl⟩
      exact Or.inr (Or.inl ⟨value, by simpa using ran, rfl⟩)
    · exact Or.inl ⟨before, value, after, ran, goesOn, rfl⟩
    · exact Or.inr (Or.inr ⟨ran, rfl⟩)
  · rintro (⟨before, value, after, ran, goesOn, rfl⟩ | ⟨fault, ran, rfl⟩ | ⟨ran, rfl⟩)
    · exact Or.inl ⟨before, .ok value, after, ran, goesOn, rfl⟩
    · exact Or.inl ⟨turns, .error fault, [], ran, runs_pure_iff.mpr ⟨rfl, rfl⟩, by simp⟩
    · exact Or.inr ⟨ran, rfl⟩

/-- A sequence comes to a value when both parts do. -/
theorem runs_run_bind_ok_iff {first : ExceptT Fault (Program Question Answer) Other}
    {next : Other → ExceptT Fault (Program Question Answer) Result} {value : Result} :
    Runs (first >>= next).run turns (some (.ok value)) ↔
      ∃ before between after, Runs first.run before (some (.ok between)) ∧
        Runs (next between).run after (some (.ok value)) ∧ turns = before ++ after := by
  rw [runs_run_bind_iff]
  simp

/-- A sequence fails with its first part, or with its second one after a value. -/
theorem runs_run_bind_error_iff {first : ExceptT Fault (Program Question Answer) Other}
    {next : Other → ExceptT Fault (Program Question Answer) Result} {fault : Fault} :
    Runs (first >>= next).run turns (some (.error fault)) ↔
      (∃ before between after, Runs first.run before (some (.ok between)) ∧
        Runs (next between).run after (some (.error fault)) ∧ turns = before ++ after) ∨
      Runs first.run turns (some (.error fault)) := by
  rw [runs_run_bind_iff]
  simp

@[simp]
theorem runs_run_pure_iff {value : Result} :
    Runs (pure value : ExceptT Fault (Program Question Answer) Result).run turns ending ↔
      turns = [] ∧ ending = some (.ok value) :=
  runs_done_iff

/-- A program whose value is only looked at has the runs of the program. -/
theorem runs_run_bind_pure_iff {first : ExceptT Fault (Program Question Answer) Other}
    {view : Other → Result} :
    Runs (first >>= fun value => pure (view value)).run turns ending ↔
      ∃ ended, Runs first.run turns ended ∧ ending = ended.map (Except.map view) := by
  rw [runs_run_bind_iff]
  constructor
  · rintro (⟨before, value, after, ran, looked, rfl⟩ | ⟨fault, ran, rfl⟩ | ⟨ran, rfl⟩)
    · rcases runs_run_pure_iff.mp looked with ⟨rfl, rfl⟩
      rw [List.append_nil]
      exact ⟨some (.ok value), ran, rfl⟩
    · exact ⟨some (.error fault), ran, rfl⟩
    · exact ⟨none, ran, rfl⟩
  · rintro ⟨ended, ran, rfl⟩
    rcases ended with _ | fault | value
    · exact Or.inr (Or.inr ⟨ran, rfl⟩)
    · exact Or.inr (Or.inl ⟨fault, ran, rfl⟩)
    · refine Or.inl ⟨turns, value, [], ran, runs_run_pure_iff.mpr ⟨rfl, rfl⟩, ?_⟩
      rw [List.append_nil]

/-- A part that asks nothing comes to a result that is known, which either lets the program go on or
ends it. -/
theorem runs_silent_bind_iff {first : ExceptT Fault (Program Question Answer) Other}
    {known : Except Fault Other} {next : Other → ExceptT Fault (Program Question Answer) Result}
    (silent : ∀ {asked ended}, Runs first.run asked ended ↔ asked = [] ∧ ended = some known) :
    Runs (first >>= next).run turns ending ↔
      (∃ value, known = .ok value ∧ Runs (next value).run turns ending) ∨
      (∃ fault, known = .error fault ∧ turns = [] ∧ ending = some (.error fault)) := by
  rw [runs_run_bind_iff]
  simp only [silent]
  constructor
  · rintro (⟨_, value, after, ⟨rfl, same⟩, goesOn, rfl⟩ | ⟨fault, ⟨rfl, same⟩, rfl⟩ |
      ⟨⟨-, never⟩, -⟩)
    · exact Or.inl ⟨value, (Option.some.inj same).symm, goesOn⟩
    · exact Or.inr ⟨fault, (Option.some.inj same).symm, rfl, rfl⟩
    · cases never
  · rintro (⟨value, rfl, goesOn⟩ | ⟨fault, rfl, rfl, rfl⟩)
    · exact Or.inl ⟨[], value, turns, ⟨rfl, rfl⟩, goesOn, rfl⟩
    · exact Or.inr (Or.inl ⟨fault, ⟨rfl, rfl⟩, rfl⟩)

/-- A sequence of parts that ask nothing asks nothing. -/
theorem runs_silent_iff {first : ExceptT Fault (Program Question Answer) Other}
    {known : Except Fault Other} {next : Other → ExceptT Fault (Program Question Answer) Result}
    {later : Other → Except Fault Result}
    (silent : ∀ {asked ended}, Runs first.run asked ended ↔ asked = [] ∧ ended = some known)
    (alsoSilent : ∀ value {asked ended}, Runs (next value).run asked ended ↔
      asked = [] ∧ ended = some (later value)) :
    Runs (first >>= next).run turns ending ↔ turns = [] ∧ ending = some (known >>= later) := by
  rw [runs_silent_bind_iff silent]
  cases known with
  | ok value =>
      change _ ↔ turns = [] ∧ ending = some (later value)
      simp [alsoSilent]
  | error fault =>
      change _ ↔ turns = [] ∧ ending = some (.error fault)
      simp

/-- A result that is known without asking either goes on or ends the program. -/
theorem runs_known_bind_iff {known : Except Fault Other}
    {next : Other → ExceptT Fault (Program Question Answer) Result} :
    Runs (ExceptT.mk (.done known : Program Question Answer (Except Fault Other)) >>= next).run
      turns ending ↔
      (∃ value, known = .ok value ∧ Runs (next value).run turns ending) ∨
      (∃ fault, known = .error fault ∧ turns = [] ∧ ending = some (.error fault)) :=
  runs_silent_bind_iff runs_done_iff

end Program

/-- One question of a workflow with its answer. -/
abbrev GatewayTurn := Program.Turn Question Question.Answer

namespace Workflow

open Program

variable {Result Other : Type} {turns : List GatewayTurn}
  {ending : Option (Except SyncFault Result)}

@[simp]
theorem run_ofAnswer (answered : GatewayProgram (Except SyncFault Result)) :
    (ofAnswer answered).run = answered := rfl

@[simp]
theorem runs_note_bind_iff {entry : Log.Entry} {next : Unit → Workflow Result} :
    Runs (note entry >>= next).run turns ending ↔ Runs (next ()).run turns ending :=
  runs_tell_iff

/-- Telling of a result at the end changes nothing about the runs. -/
theorem runs_bind_note_iff {first : Workflow Result} {entry : Result → Log.Entry} :
    Runs (first >>= fun value => note (entry value) >>= fun _ => pure value).run turns ending ↔
      Runs first.run turns ending := by
  rw [runs_run_bind_iff]
  simp only [runs_note_bind_iff, runs_run_pure_iff]
  constructor
  · rintro (⟨before, value, _, ran, ⟨rfl, rfl⟩, rfl⟩ | ⟨fault, ran, rfl⟩ | ⟨ran, rfl⟩)
    · rw [List.append_nil]
      exact ran
    · exact ran
    · exact ran
  · intro ran
    rcases ending with _ | fault | value
    · exact Or.inr (Or.inr ⟨ran, rfl⟩)
    · exact Or.inr (Or.inl ⟨fault, ran, rfl⟩)
    · exact Or.inl ⟨turns, value, [], ran, ⟨rfl, rfl⟩, (List.append_nil turns).symm⟩

@[simp]
theorem runs_ofNarrated_iff {computation : Narrated SyncFault Result} :
    Runs (ofNarrated computation).run turns ending ↔
      turns = [] ∧ ending = some computation.result :=
  Program.runs_ofNarrated_iff

theorem runs_ofExcept_bind_iff {result : Except SyncFault Other} {next : Other → Workflow Result} :
    Runs (ofExcept result >>= next).run turns ending ↔
      (∃ value, result = .ok value ∧ Runs (next value).run turns ending) ∨
      (∃ fault, result = .error fault ∧ turns = [] ∧ ending = some (.error fault)) :=
  runs_known_bind_iff

theorem runs_ofNarrated_bind_of_ok {computation : Narrated SyncFault Other} {value : Other}
    (given : computation.result = .ok value) {next : Other → Workflow Result} :
    Runs (ofNarrated computation >>= next).run turns ending ↔
      Runs (next value).run turns ending := by
  rw [runs_run_bind_iff]
  simp [given, and_assoc]

theorem runs_ofNarrated_bind_of_error {computation : Narrated SyncFault Other} {fault : SyncFault}
    (given : computation.result = .error fault) {next : Other → Workflow Result} :
    Runs (ofNarrated computation >>= next).run turns ending ↔
      turns = [] ∧ ending = some (.error fault) := by
  rw [runs_run_bind_iff]
  simp [given, and_assoc]

end Workflow

end CdnPublish
