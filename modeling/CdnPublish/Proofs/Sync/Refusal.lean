import CdnPublish.Proofs.Session.History
import CdnPublish.Proofs.Sync.Commit
import CdnPublish.Proofs.Upload.Phase

/-!
# What a refusal leads to

Whatever the gateway or the store refuses is the last that a sync has asked for: the sync fails, and
the refusal is what it fails with, either as it is or as the cause of a publish that was abandoned.
Nothing is asked for again. The status of a task is the exception, as a poll is repeated anyway.
-/

namespace CdnPublish

open Program Sync

/-- The fault that a turn was answered with. -/
def refusal? : GatewayTurn → Option SyncFault
  | ⟨.createPublish _, .error fault⟩ => some fault
  | ⟨.addItem _ _, .error fault⟩ => some fault
  | ⟨.commitPublish _ _, .error fault⟩ => some fault
  | ⟨.getTask _, .error fault⟩ => some fault
  | ⟨.flushCache _ _, .error fault⟩ => some fault
  | ⟨.whoami, .error fault⟩ => some fault
  | ⟨.blobExists _ _, .error fault⟩ => some fault
  | ⟨.putBlob _ _ _, .error fault⟩ => some fault
  | _ => none

/-- Nothing has been refused but the status of a task. -/
def Unrefused (turns : List GatewayTurn) : Prop :=
  ∀ turn ∈ turns, turn.question.kind ≠ .poll → refusal? turn = none

/-- What the fault of an answer is reported as: itself, or the cause of an abandoned publish. -/
def ReportedAs (fault reported : SyncFault) : Prop :=
  reported = fault ∨
    ∃ publish added intended, reported = .partialPublish publish added intended fault

variable {Result : Type} {turns before after : List GatewayTurn} {turn : GatewayTurn}

/-- If anything but the status of a task is refused, then with the last turn, and it is reported. -/
inductive StopsRefused : List GatewayTurn → Option (Except SyncFault Result) → Prop where
  | unrefused {turns : List GatewayTurn} (clean : Unrefused turns)
      (ending : Option (Except SyncFault Result)) : StopsRefused turns ending
  | refused {before : List GatewayTurn} {turn : GatewayTurn} {fault reported : SyncFault}
      (clean : Unrefused before) (refused : refusal? turn = some fault)
      (isReported : ReportedAs fault reported) :
      StopsRefused (before ++ [turn]) (some (.error reported))

theorem unrefused_nil : Unrefused [] := by
  simp [Unrefused]

theorem unrefused_singleton (granted : refusal? turn = none) : Unrefused [turn] := by
  simp [Unrefused, granted]

theorem Unrefused.append (first : Unrefused before) (second : Unrefused after) :
    Unrefused (before ++ after) :=
  List.forall_mem_append.mpr ⟨first, second⟩

/-- Neither the clock nor a poll counts. -/
theorem unrefused_of_kinds
    (kinds : ∀ turn ∈ turns, turn.question.kind = .poll ∨ turn.question.kind = .time) :
    Unrefused turns := by
  intro turn mem isCall
  rcases kinds turn mem with polled | timed
  · exact absurd polled isCall
  · rcases turn with ⟨question, answer⟩
    cases question <;> first | rfl | cases timed

namespace StopsRefused

variable {ending : Option (Except SyncFault Result)} {fault reported : SyncFault}

theorem last (refused : refusal? turn = some fault) (isReported : ReportedAs fault reported) :
    StopsRefused [turn] (some (.error reported) : Option (Except SyncFault Result)) :=
  .refused unrefused_nil refused isReported

theorem append_left (clean : Unrefused before) (stops : StopsRefused turns ending) :
    StopsRefused (before ++ turns) ending := by
  cases stops with
  | unrefused later ending => exact .unrefused (clean.append later) ending
  | refused later refused isReported =>
      rw [← List.append_assoc]
      exact .refused (clean.append later) refused isReported

/-- The end may be looked at as the end of a longer program. -/
theorem map {Other : Type} (view : Result → Other) (stops : StopsRefused turns ending) :
    StopsRefused turns (ending.map (Except.map view)) := by
  cases stops with
  | unrefused clean ending => exact .unrefused clean _
  | refused clean refused isReported => exact .refused clean refused isReported

/-- Nothing follows a refusal. -/
theorem of_split (stops : StopsRefused turns ending) (split : turns = before ++ turn :: after)
    (isCall : turn.question.kind ≠ .poll) (refused : refusal? turn = some fault) :
    after = [] ∧ ∃ reported, ending = some (.error reported) ∧ ReportedAs fault reported := by
  cases stops with
  | unrefused clean ending =>
      have granted := clean turn (by simp [split]) isCall
      rw [granted] at refused
      cases refused
  | @refused earlier last cause reported clean lastRefused isReported =>
      rcases Session.split_append_singleton split with ⟨rfl, rfl, rfl⟩ | ⟨older, rfl, rfl⟩
      · cases refused.symm.trans lastRefused
        exact ⟨rfl, reported, rfl, isReported⟩
      · have granted := clean turn (by simp) isCall
        rw [granted] at refused
        cases refused

end StopsRefused

namespace Upload

variable {tree : FileTree} {env : String} {checkExisting : Bool} {blob : Blob} {fault : SyncFault}

theorem unrefused_missing (env : String) (key : ContentKey) (checkExisting : Bool) :
    Unrefused (missing env key checkExisting) := by
  cases checkExisting with
  | true => exact unrefused_singleton rfl
  | false => exact unrefused_nil

theorem Supplies.unrefused (supplies : Supplies tree env checkExisting blob turns) :
    Unrefused turns := by
  cases supplies with
  | present key path asked => exact unrefused_singleton rfl
  | sent key isOpen => exact (unrefused_missing _ _ _).append (unrefused_singleton rfl)

theorem Fails.stopsRefused (fails : Fails tree env checkExisting blob turns fault) :
    StopsRefused turns (some (.error fault) : Option (Except SyncFault Result)) := by
  cases fails with
  | lookup key path asked fault => exact .last rfl (Or.inl rfl)
  | unopened key closed => exact .unrefused (unrefused_missing _ _ _) _
  | put key isOpen fault => exact .append_left (unrefused_missing _ _ _) (.last rfl (Or.inl rfl))

theorem unrefused_of_supplied {blobs : List Blob} {stretches : List (List GatewayTurn)}
    (supplied : List.Forall₂ (Supplies tree env checkExisting) blobs stretches) :
    Unrefused stretches.flatten := by
  induction supplied with
  | nil => exact unrefused_nil
  | cons here later induction_hypothesis => exact here.unrefused.append induction_hypothesis

end Upload

namespace Client

variable {client : Client} {options : Options} {items : List Item} {date : String}

theorem unrefused_additions (publish : Publish) (date : String) (items : List Item) :
    Unrefused (items.map (Session.additionOf publish date)) := by
  intro turn mem isCall
  rcases List.mem_map.mp mem with ⟨item, -, rfl⟩
  rfl

theorem Course.stopsRefused {ending : Option (Except SyncFault (Publish × Task))}
    (course : Course client options items date turns ending) : StopsRefused turns ending := by
  have created : ∀ publish, Unrefused [Session.creationOf client.env (.ok publish)] :=
    fun publish => unrefused_singleton rfl
  cases course with
  | uncreated fault => exact .last rfl (Or.inl rfl)
  | refused publish split cause =>
      refine .append_left (created publish) (.append_left (unrefused_additions _ _ _) ?_)
      exact .last rfl (Or.inr ⟨_, _, _, rfl⟩)
  | denied publish fault =>
      refine .append_left (created publish) (.append_left (unrefused_additions _ _ _) ?_)
      exact .last rfl (Or.inl rfl)
  | granted publish task concluded =>
      rcases concluded with ⟨ended, run, -⟩
      have polls := unrefused_of_kinds (run.asks_allowed (client.asksOnly_conclude ..))
      have committed : Unrefused [Session.commitOf publish options.commitDeadline (.ok task)] :=
        unrefused_singleton rfl
      refine .append_left (created publish) (.append_left (unrefused_additions _ _ _) ?_)
      exact .append_left committed (.unrefused polls _)

theorem stopsRefused_of_runs_sync {tree laterTree : FileTree} {source : LocalPath}
    {destination : String} {ending : Option (Except SyncFault Report)}
    (run : Runs (client.sync tree source destination options laterTree).run turns ending) :
    StopsRefused turns ending := by
  cases runs_sync_iff.mp run with
  | unplanned planned => exact .unrefused unrefused_nil _
  | idle planned idle => exact .unrefused unrefused_nil _
  | unstored planned active refused =>
      rcases runs_uploadAll_error_iff.mp refused with
        ⟨before, blob, after, stretches, last, -, supplied, fails, rfl⟩
      exact .append_left (Upload.unrefused_of_supplied supplied) fails.stopsRefused
  | published planned active stored published =>
      rcases exists_runs_uploadAll_ok_iff.mp ⟨_, stored⟩ with ⟨stretches, supplied, rfl⟩
      rcases runs_publishItems_iff.mp published with ⟨dated, date, later, known, course, rfl⟩
      have timed := unrefused_of_kinds fun turn mem =>
        Or.inr (ofKind_of_runs_startDate known turn mem)
      refine .append_left (Upload.unrefused_of_supplied supplied) (.append_left timed ?_)
      exact course.stopsRefused.map _

end Client

end CdnPublish
