import CdnPublish.Proofs.Gateway.Kinds
import CdnPublish.Proofs.Narrated.Sequences
import CdnPublish.Proofs.Poll.Resumption

/-!
# The one request of a flush

A flush asks for all of its paths at once. The paths are looked at before anything is asked, so a
list without paths, or with one that has no canonical form, asks nothing. Otherwise the request
comes first and is made once; what is asked after it is only how its task is getting on.
-/

namespace CdnPublish

open Program

namespace Flush

/-- The turn in which the flush of paths is requested. -/
def requestOf (env : String) (canonical : List String) (answer : Except SyncFault Task) :
    GatewayTurn :=
  ⟨.flushCache env canonical, answer⟩

/-- These are the canonical forms of paths, one for each and in order. -/
def Normalized (paths canonical : List String) : Prop :=
  List.Forall₂ (fun path form => Dest.normalize path = .ok form) paths canonical

/-- The first of these paths that has no canonical form is refused for this reason. -/
def FirstRefused (paths : List String) (fault : InvalidPath) : Prop :=
  ∃ before path after, paths = before ++ path :: after ∧
    (∀ earlier ∈ before, ∃ form, Dest.normalize earlier = .ok form) ∧
    Dest.normalize path = .error fault

variable {env : String} {paths canonical : List String} {turns : List GatewayTurn}
  {ending : Option (Except SyncFault Task)}

theorem normalizeAll_eq_ok_iff : normalizeAll paths = .ok canonical ↔ Normalized paths canonical :=
  mapM_eq_ok_iff

theorem normalizeAll_eq_error_iff {fault : InvalidPath} :
    normalizeAll paths = .error fault ↔ FirstRefused paths fault :=
  mapM_eq_error_iff

theorem exists_normalized_iff :
    (∃ canonical, Normalized paths canonical) ↔
      ∀ path ∈ paths, ∃ form, Dest.normalize path = .ok form := by
  simp only [← normalizeAll_eq_ok_iff]
  exact exists_mapM_eq_ok_iff

theorem runs_request_of_nil :
    Runs (request env []).run turns ending ↔
      turns = [] ∧ ending = some (.error .nothingToFlush) :=
  runs_done_iff

theorem runs_request_of_refused {fault : InvalidPath} (refused : FirstRefused paths fault) :
    Runs (request env paths).run turns ending ↔
      turns = [] ∧ ending = some (.error (.ofLocal (.invalidPath fault))) := by
  have present : paths ≠ [] := by
    rintro rfl
    rcases refused with ⟨before, path, after, split, -⟩
    simp at split
  unfold request
  rw [if_neg present, normalizeAll_eq_error_iff.mpr refused]
  exact Workflow.runs_ofExcept_bind_iff.trans (by simp [Except.mapError])

theorem runs_request_of_normalized (present : paths ≠ []) (normal : Normalized paths canonical) :
    Runs (request env paths).run turns ending ↔
      ∃ answer, turns = [requestOf env canonical answer] ∧ ending = some answer := by
  unfold request
  rw [if_neg present, normalizeAll_eq_ok_iff.mpr normal]
  have asks : Runs (Workflow.ofAnswer (Gateway.flushCache env canonical) >>= fun task =>
      Workflow.note (requestEntry env canonical task) >>= fun _ => pure task).run turns ending ↔
      ∃ answer, turns = [requestOf env canonical answer] ∧ ending = some answer := by
    rw [Workflow.runs_bind_note_iff, Workflow.run_ofAnswer]
    refine runs_question_iff.trans (exists_congr fun answer => and_comm)
  rw [← asks]
  exact Workflow.runs_ofExcept_bind_iff.trans (by simp [Except.mapError])

/-- What follows the answer to a request: nothing if it is a failure or a terminal task. For any
other task only its state and the time are asked for, and the result, if there is one, is terminal
or a failure. -/
inductive Awaits (poller : Poller) :
    Except SyncFault Task → List GatewayTurn → Option (Except SyncFault Task) → Prop where
  | failed (fault : SyncFault) : Awaits poller (.error fault) [] (some (.error fault))
  | finished {task : Task} (finished : task.state.isTerminal = true) :
      Awaits poller (.ok task) [] (some (.ok task))
  | polled {task : Task} {later : List GatewayTurn} {ending : Option (Except SyncFault Task)}
      (waiting : task.state.isTerminal = false)
      (awaited : Runs (poller.awaitTask task).run later ending)
      (polls : ∀ turn ∈ later, turn.question.kind = .poll ∨ turn.question.kind = .time)
      (ends : ∀ ended, ending = some (.ok ended) → ended.state.isTerminal = true) :
      Awaits poller (.ok task) later ending

theorem awaits_error_iff {poller : Poller} {fault : SyncFault} :
    Awaits poller (.error fault) turns ending ↔ turns = [] ∧ ending = some (.error fault) := by
  constructor
  · intro awaits
    cases awaits
    exact ⟨rfl, rfl⟩
  · rintro ⟨rfl, rfl⟩
    exact .failed fault

theorem awaits_ok_iff {poller : Poller} {task : Task} :
    Awaits poller (.ok task) turns ending ↔ Runs (poller.awaitTask task).run turns ending := by
  cases finished : task.state.isTerminal with
  | true =>
      have rounds : Runs (poller.awaitTask task).run turns ending ↔
          turns = [] ∧ ending = some (.ok task) := by
        rw [Poller.runs_awaitTask_iff, Poller.rounds_of_terminal finished]
        exact runs_done_iff
      rw [rounds]
      constructor
      · intro awaits
        cases awaits with
        | finished _ => exact ⟨rfl, rfl⟩
        | polled _ awaited _ _ => exact rounds.mp awaited
      · rintro ⟨rfl, rfl⟩
        exact .finished finished
  | false =>
      constructor
      · intro awaits
        cases awaits with
        | finished impossible => cases finished.symm.trans impossible
        | polled _ awaited _ _ => exact awaited
      · intro run
        refine .polled finished run (run.asks_allowed (poller.asksOnly_awaitTask task)) ?_
        rintro ended rfl
        exact Poller.isTerminal_of_runs_awaitTask run

end Flush

namespace Client

open Flush

variable {client : Client} {paths canonical : List String} {turns : List GatewayTurn}
  {ending : Option (Except SyncFault Task)}

/-- Where the request is not made, there is nothing to wait for. -/
theorem runs_flush_of_unrequested {fault : SyncFault}
    (unrequested : ∀ {asked ended}, Runs (request client.env paths).run asked ended ↔
      asked = [] ∧ ended = some (.error fault)) :
    Runs (client.flush paths).run turns ending ↔ turns = [] ∧ ending = some (.error fault) :=
  (runs_silent_bind_iff unrequested).trans (by simp)

theorem runs_flush_of_normalized (present : paths ≠ []) (normal : Normalized paths canonical) :
    Runs (client.flush paths).run turns ending ↔
      ∃ answer later, turns = requestOf client.env canonical answer :: later ∧
        Awaits client.poller answer later ending := by
  unfold flush
  rw [runs_run_bind_iff]
  simp only [runs_request_of_normalized present normal]
  constructor
  · rintro (⟨_, task, later, ⟨answer, rfl, same⟩, awaited, rfl⟩ |
      ⟨fault, ⟨answer, rfl, same⟩, rfl⟩ | ⟨⟨answer, -, never⟩, -⟩)
    · cases same
      exact ⟨.ok task, later, rfl, awaits_ok_iff.mpr awaited⟩
    · cases same
      exact ⟨.error fault, [], rfl, .failed fault⟩
    · cases never
  · rintro ⟨answer, later, rfl, awaits⟩
    cases answer with
    | error fault =>
        rcases awaits_error_iff.mp awaits with ⟨rfl, rfl⟩
        exact Or.inr (Or.inl ⟨fault, ⟨_, rfl, rfl⟩, rfl⟩)
    | ok task =>
        exact Or.inl ⟨_, task, later, ⟨_, rfl, rfl⟩, awaits_ok_iff.mp awaits, rfl⟩

end Client

open Flush

/-- A flush is all or nothing. Without paths, or with a path that has no canonical form, it asks
nothing and says why; of several such paths it names the first. Otherwise it first makes one request
for the canonical forms of all its paths in order, and never another one. A request that fails is
the end, a terminal task is the result as it is, and any other task is waited for until it is
terminal. -/
theorem flush_all_or_nothing (client : Client) (paths : List String) :
    (paths = [] → ∀ turns ending, Runs (client.flush paths).run turns ending ↔
      turns = [] ∧ ending = some (.error .nothingToFlush)) ∧
    ((∃ path ∈ paths, ∃ fault, Dest.normalize path = .error fault) →
      ∃ fault, FirstRefused paths fault ∧ ∀ turns ending,
        Runs (client.flush paths).run turns ending ↔
          turns = [] ∧ ending = some (.error (.ofLocal (.invalidPath fault)))) ∧
    (paths ≠ [] → (∀ path ∈ paths, ∃ form, Dest.normalize path = .ok form) →
      ∃ canonical, Normalized paths canonical ∧ ∀ turns ending,
        Runs (client.flush paths).run turns ending ↔
          ∃ answer later, turns = requestOf client.env canonical answer :: later ∧
            Awaits client.poller answer later ending) := by
  refine ⟨?_, ?_, ?_⟩
  · rintro rfl turns ending
    exact Client.runs_flush_of_unrequested runs_request_of_nil
  · rintro ⟨path, mem, fault, refused⟩
    cases made : normalizeAll paths with
    | error first =>
        have isFirst := normalizeAll_eq_error_iff.mp made
        exact ⟨first, isFirst, fun turns ending =>
          Client.runs_flush_of_unrequested (runs_request_of_refused isFirst)⟩
    | ok canonical =>
        have normal := exists_normalized_iff.mp ⟨canonical, normalizeAll_eq_ok_iff.mp made⟩
        rcases normal path mem with ⟨form, isNormal⟩
        cases refused.symm.trans isNormal
  · intro present normal
    rcases exists_normalized_iff.mpr normal with ⟨canonical, isNormal⟩
    exact ⟨canonical, isNormal, fun turns ending =>
      Client.runs_flush_of_normalized present isNormal⟩

section Repeated

/-- Two spellings of one path. -/
def repeatedPaths : List String := ["a//b", "/a/./b/"]

/-- A list in which two paths climb above the root. -/
def climbingPaths : List String := ["/a", "/../x", ".."]

/-- The turns of a flush that names a path twice and sees its task end. -/
def repeatedTurns : List GatewayTurn :=
  [requestOf "live" ["/a/b", "/a/b"] (.ok (taskAt "/t" .inProgress)),
    Poller.pause ⟨5, 1, 9⟩, Poller.sightOf "/t" (taskAt "/t" .failed)]

/-- Of two paths that climb the first is named, and a path that is given twice is sent twice. -/
theorem flush_all_or_nothing_repeated :
    (∀ turns ending, Runs ((Client.mk "live" ⟨5, 1, 9⟩).flush climbingPaths).run turns ending ↔
      turns = [] ∧ ending = some (.error (.ofLocal (.invalidPath ⟨"/../x", .parentSegment⟩)))) ∧
    Runs ((Client.mk "live" ⟨5, 1, 9⟩).flush repeatedPaths).run repeatedTurns
      (some (.ok (taskAt "/t" .failed))) := by
  constructor
  · have climbs : normalizeAll climbingPaths = .error ⟨"/../x", .parentSegment⟩ := by cbv
    rcases (flush_all_or_nothing ⟨"live", ⟨5, 1, 9⟩⟩ climbingPaths).2.1
      ⟨"/../x", by decide, _, by cbv⟩ with ⟨fault, isFirst, runs⟩
    cases climbs.symm.trans (normalizeAll_eq_error_iff.mpr isFirst)
    exact runs
  · have made : normalizeAll repeatedPaths = .ok ["/a/b", "/a/b"] := by cbv
    have normal := normalizeAll_eq_ok_iff.mp made
    rcases (flush_all_or_nothing ⟨"live", ⟨5, 1, 9⟩⟩ repeatedPaths).2.2 (List.cons_ne_nil _ _)
      (exists_normalized_iff.mp ⟨_, normal⟩) with ⟨canonical, isNormal, runs⟩
    cases made.symm.trans (normalizeAll_eq_ok_iff.mpr isNormal)
    have ended : Runs ((Poller.mk 5 1 9).rounds Poller.fetchSelf 8 0 (taskAt "/t" .failed)) []
        (some (.ok (taskAt "/t" .failed))) := .done _
    have awaited : Runs ((Poller.mk 5 1 9).awaitTask (taskAt "/t" .inProgress)).run _ _ :=
      Poller.runs_awaitTask_iff.mpr ((Poller.runs_rounds_of_sight rfl rfl).mpr ended)
    exact (runs _ _).mpr ⟨_, _, rfl, awaits_ok_iff.mpr awaited⟩

end Repeated

end CdnPublish
