import CdnPublish.Proofs.Upload.Blobs
import Mathlib.Data.List.Forall2

/-!
# The course of the upload phase

The blobs of a plan are seen to one after the other, each key once and for the first item that has
it. A blob is either supplied, and then the next one is seen to, or it fails, and then the phase
ends with that fault and without a further turn.
-/

namespace CdnPublish

open Program

namespace Upload

/-- A blob to see to: its key, and the local file that holds it. -/
abbrev Blob := ContentKey × LocalPath

/-- The turns in which a blob comes to be stored. -/
inductive Supplies (tree : FileTree) (env : String) (checkExisting : Bool) :
    Blob → List GatewayTurn → Prop where
  | present (key : ContentKey) (path : LocalPath) (asked : checkExisting = true) :
      Supplies tree env checkExisting (key, path) [lookupOf env key (.ok true)]
  | sent (key : ContentKey) {path : LocalPath} {opened : FileTree.Opened}
      (isOpen : tree.openAt path = .ok opened) :
      Supplies tree env checkExisting (key, path)
        (missing env key checkExisting ++ [putOf env key opened (.ok ())])

/-- The turns in which a blob comes not to be stored, and why. A file that cannot be opened is not
sent. -/
inductive Fails (tree : FileTree) (env : String) (checkExisting : Bool) :
    Blob → List GatewayTurn → SyncFault → Prop where
  | lookup (key : ContentKey) (path : LocalPath) (asked : checkExisting = true)
      (fault : SyncFault) :
      Fails tree env checkExisting (key, path) [lookupOf env key (.error fault)] fault
  | unopened (key : ContentKey) {path : LocalPath} {cause : OsFault}
      (closed : tree.openAt path = .error cause) :
      Fails tree env checkExisting (key, path) (missing env key checkExisting)
        (.ofLocal (.unreadable path cause))
  | put (key : ContentKey) {path : LocalPath} {opened : FileTree.Opened}
      (isOpen : tree.openAt path = .ok opened) (fault : SyncFault) :
      Fails tree env checkExisting (key, path)
        (missing env key checkExisting ++ [putOf env key opened (.error fault)]) fault

variable {tree : FileTree} {env : String} {checkExisting : Bool} {key : ContentKey}
  {path : LocalPath} {turns : List GatewayTurn}

theorem openSource_eq_ok_iff {opened : FileTree.Opened} :
    openSource tree path = .ok opened ↔ tree.openAt path = .ok opened := by
  unfold openSource
  cases tree.openAt path <;> simp [Except.mapError]

theorem openSource_eq_error_iff {fault : SyncFault} :
    openSource tree path = .error fault ↔
      ∃ cause, tree.openAt path = .error cause ∧ fault = .ofLocal (.unreadable path cause) := by
  unfold openSource
  cases tree.openAt path <;> simp [Except.mapError, eq_comm]

theorem exists_runs_ensure_ok_iff :
    (∃ outcome, Runs (ensure tree env checkExisting key path).run turns (some (.ok outcome))) ↔
      Supplies tree env checkExisting (key, path) turns := by
  simp only [runs_ensure_iff, runs_send_iff, openSource_eq_ok_iff]
  constructor
  · rintro ⟨outcome, ⟨asked, rfl, -⟩ | ⟨-, fault, -, never⟩ | ⟨sent, ended, ran, rfl, same⟩⟩
    · exact .present key path asked
    · cases never
    · rcases ran with ⟨fault, -, -, rfl⟩ | ⟨opened, answer, isOpen, rfl, rfl⟩
      · cases same
      · cases answer with
        | ok taken => exact .sent key isOpen
        | error fault => cases same
  · intro supplies
    cases supplies with
    | present key path asked => exact ⟨_, Or.inl ⟨asked, rfl, rfl⟩⟩
    | sent key isOpen =>
        refine ⟨.uploaded, Or.inr (Or.inr ⟨_, some (.ok ()), Or.inr ?_, rfl, rfl⟩)⟩
        exact ⟨_, .ok (), isOpen, rfl, rfl⟩

theorem runs_ensure_error_iff {fault : SyncFault} :
    Runs (ensure tree env checkExisting key path).run turns (some (.error fault)) ↔
      Fails tree env checkExisting (key, path) turns fault := by
  simp only [runs_ensure_iff, runs_send_iff, openSource_eq_ok_iff, openSource_eq_error_iff]
  constructor
  · rintro (⟨-, -, never⟩ | ⟨asked, cause, rfl, same⟩ | ⟨sent, ended, ran, rfl, same⟩)
    · cases never
    · cases same
      exact .lookup key path asked fault
    · rcases ran with ⟨refusal, ⟨cause, closed, rfl⟩, rfl, rfl⟩ | ⟨opened, answer, isOpen, rfl, rfl⟩
      · cases same
        rw [List.append_nil]
        exact .unopened key closed
      · cases answer with
        | ok taken => cases same
        | error refusal =>
            cases same
            exact .put key isOpen fault
  · intro fails
    cases fails with
    | lookup key path asked fault => exact Or.inr (Or.inl ⟨asked, fault, rfl, rfl⟩)
    | unopened key closed =>
        refine Or.inr (Or.inr ⟨[], _, Or.inl ⟨_, ⟨_, closed, rfl⟩, rfl, rfl⟩, ?_, rfl⟩)
        rw [List.append_nil]
    | put key isOpen fault =>
        refine Or.inr (Or.inr ⟨_, some (.error fault), Or.inr ?_, rfl, rfl⟩)
        exact ⟨_, .error fault, isOpen, rfl, rfl⟩

end Upload

namespace Sync

open Upload

/-- Two blobs have the same key. -/
def sameKey (blob other : Blob) : Bool :=
  blob.1 = other.1

/-- The blobs behind items that are still to be seen to, each key once and at its first item. -/
def dueBlobs (seen : List ContentKey) (items : List Item) : List Blob :=
  ((items.filterMap blob?).filter (·.1 ∉ seen)).eraseDupsBy sameKey

variable {tree : FileTree} {env : String} {checkExisting : Bool} {seen : List ContentKey}
  {uploads : Uploads} {item : Item} {items : List Item} {turns : List GatewayTurn}

theorem dueBlobs_cons_of_settled
    (settled : ∀ key source, blob? item = some (key, source) → key ∈ seen) :
    dueBlobs seen (item :: items) = dueBlobs seen items := by
  unfold dueBlobs
  cases known : blob? item with
  | none => rw [List.filterMap_cons_none known]
  | some blob =>
      rw [List.filterMap_cons_some known, List.filter_cons_of_neg]
      simpa using settled blob.1 blob.2 known

theorem dueBlobs_cons_of_due {blob : Blob} (known : blob? item = some blob) (due : blob.1 ∉ seen) :
    dueBlobs seen (item :: items) = blob :: dueBlobs (blob.1 :: seen) items := by
  have same : ∀ other : Blob, (decide (sameKey other blob = false) && decide (other.1 ∉ seen)) =
      decide (other.1 ∉ blob.1 :: seen) := by
    intro other
    simp [sameKey]
  unfold dueBlobs
  rw [List.filterMap_cons_some known, List.filter_cons_of_pos (by simpa using due),
    List.eraseDupsBy_cons, List.filter_filter]
  simp only [same]

/-- The phase is complete when every blob has been supplied. -/
theorem exists_runs_uploadAll_ok_iff :
    (∃ result, Runs (uploadAll tree env checkExisting seen uploads items).run turns
      (some (.ok result))) ↔
      ∃ stretches, List.Forall₂ (Supplies tree env checkExisting) (dueBlobs seen items) stretches ∧
        turns = stretches.flatten := by
  induction items generalizing seen uploads turns with
  | nil =>
      constructor
      · rintro ⟨result, run⟩
        rcases runs_run_pure_iff.mp run with ⟨rfl, -⟩
        exact ⟨[], .nil, rfl⟩
      · rintro ⟨stretches, supplied, rfl⟩
        cases supplied
        exact ⟨uploads, runs_run_pure_iff.mpr ⟨rfl, rfl⟩⟩
  | cons item items induction_hypothesis =>
      rcases settled_or_due seen item with settled | ⟨key, source, known, due⟩
      · rw [uploadAll_cons_of_settled settled, dueBlobs_cons_of_settled settled]
        exact induction_hypothesis
      · rw [uploadAll_cons_of_due known due, dueBlobs_cons_of_due known due]
        constructor
        · rintro ⟨result, run⟩
          rcases runs_run_bind_ok_iff.mp run with ⟨before, outcome, after, ran, goesOn, rfl⟩
          have here := exists_runs_ensure_ok_iff.mp ⟨outcome, ran⟩
          rcases induction_hypothesis.mp ⟨result, goesOn⟩ with ⟨stretches, later, rfl⟩
          exact ⟨before :: stretches, .cons here later, rfl⟩
        · rintro ⟨stretches, supplied, rfl⟩
          cases supplied with
          | cons here later =>
              rcases exists_runs_ensure_ok_iff.mpr here with ⟨outcome, ran⟩
              rcases induction_hypothesis.mpr ⟨_, later, rfl⟩ with ⟨result, goesOn⟩
              exact ⟨result, runs_run_bind_ok_iff.mpr ⟨_, outcome, _, ran, goesOn, rfl⟩⟩

/-- The phase fails with the first blob that fails. -/
theorem runs_uploadAll_error_iff {fault : SyncFault} :
    Runs (uploadAll tree env checkExisting seen uploads items).run turns (some (.error fault)) ↔
      ∃ before blob after stretches last, dueBlobs seen items = before ++ blob :: after ∧
        List.Forall₂ (Supplies tree env checkExisting) before stretches ∧
        Fails tree env checkExisting blob last fault ∧ turns = stretches.flatten ++ last := by
  induction items generalizing seen uploads turns with
  | nil =>
      constructor
      · intro run
        rcases runs_run_pure_iff.mp run with ⟨-, never⟩
        cases never
      · rintro ⟨before, blob, after, stretches, last, impossible, -⟩
        cases before <;> cases impossible
  | cons item items induction_hypothesis =>
      rcases settled_or_due seen item with settled | ⟨key, source, known, due⟩
      · rw [uploadAll_cons_of_settled settled, dueBlobs_cons_of_settled settled]
        exact induction_hypothesis
      · rw [uploadAll_cons_of_due known due, dueBlobs_cons_of_due known due]
        constructor
        · intro run
          rcases runs_run_bind_error_iff.mp run with
            ⟨first, outcome, later, ran, goesOn, rfl⟩ | failed
          · have here := exists_runs_ensure_ok_iff.mp ⟨outcome, ran⟩
            rcases induction_hypothesis.mp goesOn with
              ⟨before, blob, after, stretches, last, split, supplied, fails, rfl⟩
            refine ⟨(key, source) :: before, blob, after, first :: stretches, last, ?_,
              .cons here supplied, fails, ?_⟩
            · rw [split, List.cons_append]
            · rw [List.flatten_cons, List.append_assoc]
          · exact ⟨[], (key, source), _, [], turns, rfl, .nil, runs_ensure_error_iff.mp failed, rfl⟩
        · rintro ⟨before, blob, after, stretches, last, split, supplied, fails, rfl⟩
          cases supplied with
          | nil =>
              rcases List.cons.inj split with ⟨rfl, -⟩
              exact runs_run_bind_error_iff.mpr (Or.inr (runs_ensure_error_iff.mpr fails))
          | @cons _ first before stretches here later =>
              rcases List.cons.inj split with ⟨rfl, rest⟩
              rcases exists_runs_ensure_ok_iff.mpr here with ⟨outcome, ran⟩
              refine runs_run_bind_error_iff.mpr (Or.inl
                ⟨first, outcome, stretches.flatten ++ last, ran, ?_, ?_⟩)
              · exact induction_hypothesis.mpr ⟨_, blob, after, _, last, rest, later, fails, rfl⟩
              · rw [List.flatten_cons, List.append_assoc]

end Sync

end CdnPublish
