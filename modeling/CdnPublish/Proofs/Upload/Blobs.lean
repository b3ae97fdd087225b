import CdnPublish.Proofs.Program.Fallible
import CdnPublish.Proofs.Program.Questions
import CdnPublish.Sync.Run

/-!
# The blobs of a sync

What seeing to one blob asks of the store, and what is known of the store once all blobs of a plan
have been seen to. A blob counts as stored when the store has taken it, or when the store was to be
asked and has said that it has it; that a plan names the blob, or names it twice, is not enough.
-/

namespace CdnPublish

open Program

namespace Upload

/-- The turn in which the store is asked for a key. -/
def lookupOf (env : String) (key : ContentKey) (answer : Except SyncFault Bool) : GatewayTurn :=
  ⟨.blobExists env key, answer⟩

/-- The turn in which a blob is sent. -/
def putOf (env : String) (key : ContentKey) (opened : FileTree.Opened)
    (answer : Except SyncFault Unit) : GatewayTurn :=
  ⟨.putBlob env key opened, answer⟩

/-- The turns after which a blob has to be sent. -/
def missing (env : String) (key : ContentKey) (checkExisting : Bool) : List GatewayTurn :=
  if checkExisting then [lookupOf env key (.ok false)] else []

/-- The store has taken the blob, or it was to be asked and has said that it has it. -/
def Stored (env : String) (checkExisting : Bool) (key : ContentKey) (turns : List GatewayTurn) :
    Prop :=
  (∃ opened, putOf env key opened (.ok ()) ∈ turns) ∨
    (checkExisting = true ∧ lookupOf env key (.ok true) ∈ turns)

/-- The store did what it was asked. -/
def granted : GatewayTurn → Bool
  | ⟨.blobExists _ _, .ok _⟩ => true
  | ⟨.putBlob _ _ _, .ok _⟩ => true
  | _ => false

variable {tree : FileTree} {env : String} {checkExisting : Bool} {key : ContentKey}
  {source : LocalPath} {turns : List GatewayTurn}

theorem Stored.append_left {before after : List GatewayTurn}
    (stored : Stored env checkExisting key after) :
    Stored env checkExisting key (before ++ after) := by
  rcases stored with ⟨opened, mem⟩ | ⟨asked, mem⟩
  · exact Or.inl ⟨opened, List.mem_append_right before mem⟩
  · exact Or.inr ⟨asked, List.mem_append_right before mem⟩

theorem Stored.append_right {before after : List GatewayTurn}
    (stored : Stored env checkExisting key before) :
    Stored env checkExisting key (before ++ after) := by
  rcases stored with ⟨opened, mem⟩ | ⟨asked, mem⟩
  · exact Or.inl ⟨opened, List.mem_append_left after mem⟩
  · exact Or.inr ⟨asked, List.mem_append_left after mem⟩

/-- A caller who does not want the store asked takes the blob for missing. -/
theorem runs_isPresent_iff {ending : Option (Except SyncFault Bool)} :
    Runs (isPresent env key checkExisting).run turns ending ↔
      (checkExisting = true ∧ ∃ answer, turns = [lookupOf env key answer] ∧ ending = some answer) ∨
      (checkExisting = false ∧ turns = [] ∧ ending = some (.ok false)) := by
  cases checkExisting with
  | false =>
      change Runs (.done (.ok false)) turns ending ↔ _
      simp
  | true =>
      constructor
      · intro run
        rcases runs_question_iff.mp run with ⟨answer, rfl, rfl⟩
        exact Or.inl ⟨rfl, answer, rfl, rfl⟩
      · rintro (⟨-, answer, rfl, rfl⟩ | ⟨impossible, -⟩)
        · exact runs_question_iff.mpr ⟨answer, rfl, rfl⟩
        · cases impossible

theorem runs_send_iff {ending : Option (Except SyncFault Unit)} :
    Runs (send tree env key source).run turns ending ↔
      (∃ fault, openSource tree source = .error fault ∧ turns = [] ∧
        ending = some (.error fault)) ∨
      (∃ opened answer, openSource tree source = .ok opened ∧
        turns = [putOf env key opened answer] ∧ ending = some answer) := by
  unfold send
  rw [Workflow.runs_ofExcept_bind_iff]
  constructor
  · rintro (⟨opened, isOpen, run⟩ | closed)
    · right
      rcases runs_run_bind_iff.mp run with
        ⟨before, value, after, ran, told, rfl⟩ | ⟨fault, ran, rfl⟩ | ⟨ran, -⟩
      · rcases runs_question_iff.mp ran with ⟨answer, same, rfl⟩
        rcases (runs_tell_iff.trans runs_done_iff).mp told with ⟨rfl, rfl⟩
        exact ⟨opened, .ok (), isOpen, by cases same; rfl, rfl⟩
      · rcases runs_question_iff.mp ran with ⟨answer, same, rfl⟩
        cases same
        exact ⟨opened, .error fault, isOpen, rfl, rfl⟩
      · rcases runs_question_iff.mp ran with ⟨answer, same, -⟩
        cases same
    · exact Or.inl closed
  · rintro (closed | ⟨opened, answer, isOpen, rfl, rfl⟩)
    · exact Or.inr closed
    · left
      refine ⟨opened, isOpen, runs_run_bind_iff.mpr ?_⟩
      have asked : Runs (Gateway.putBlob env key opened) [putOf env key opened answer]
          (some answer) :=
        runs_question_iff.mpr ⟨answer, rfl, rfl⟩
      cases answer with
      | ok taken => exact Or.inl ⟨_, (), [], asked, .tell (.done _), rfl⟩
      | error fault => exact Or.inr (Or.inl ⟨fault, asked, rfl⟩)

/-- The courses of seeing to one blob: the store has it, it cannot be asked, or the blob is sent. -/
theorem runs_ensure_iff {ending : Option (Except SyncFault Outcome)} :
    Runs (ensure tree env checkExisting key source).run turns ending ↔
      (checkExisting = true ∧ turns = [lookupOf env key (.ok true)] ∧
        ending = some (.ok .alreadyPresent)) ∨
      (checkExisting = true ∧ ∃ fault, turns = [lookupOf env key (.error fault)] ∧
        ending = some (.error fault)) ∨
      (∃ sent ended, Runs (send tree env key source).run sent ended ∧
        turns = missing env key checkExisting ++ sent ∧
        ending = ended.map (Except.map fun _ => .uploaded)) := by
  unfold ensure
  rw [runs_run_bind_iff]
  constructor
  · rintro (⟨before, present, after, ran, goesOn, rfl⟩ | ⟨fault, ran, rfl⟩ | ⟨ran, -⟩)
    · cases present with
      | true =>
          rcases runs_isPresent_iff.mp ran with ⟨asked, answer, rfl, same⟩ | ⟨-, -, never⟩
          · rcases (runs_tell_iff.trans runs_done_iff).mp goesOn with ⟨rfl, rfl⟩
            cases same
            exact Or.inl ⟨asked, rfl, rfl⟩
          · cases never
      | false =>
          rcases runs_run_bind_pure_iff.mp goesOn with ⟨ended, sent, rfl⟩
          refine Or.inr (Or.inr ⟨after, ended, sent, ?_, rfl⟩)
          rcases runs_isPresent_iff.mp ran with ⟨rfl, answer, rfl, same⟩ | ⟨rfl, rfl, -⟩
          · cases same
            rfl
          · rfl
    · rcases runs_isPresent_iff.mp ran with ⟨asked, answer, rfl, same⟩ | ⟨-, -, never⟩
      · cases same
        exact Or.inr (Or.inl ⟨asked, fault, rfl, rfl⟩)
      · cases never
    · rcases runs_isPresent_iff.mp ran with ⟨-, answer, -, never⟩ | ⟨-, -, never⟩
      · cases never
      · cases never
  · rintro (⟨asked, rfl, rfl⟩ | ⟨asked, fault, rfl, rfl⟩ | ⟨sent, ended, ran, rfl, rfl⟩)
    · have present : Runs (isPresent env key checkExisting).run [lookupOf env key (.ok true)]
          (some (.ok true)) :=
        runs_isPresent_iff.mpr (Or.inl ⟨asked, .ok true, rfl, rfl⟩)
      exact Or.inl ⟨_, true, [], present, .tell (.done _), rfl⟩
    · have failed : Runs (isPresent env key checkExisting).run [lookupOf env key (.error fault)]
          (some (.error fault)) :=
        runs_isPresent_iff.mpr (Or.inl ⟨asked, .error fault, rfl, rfl⟩)
      exact Or.inr (Or.inl ⟨fault, failed, rfl⟩)
    · have absent : Runs (isPresent env key checkExisting).run (missing env key checkExisting)
          (some (.ok false)) := by
        apply runs_isPresent_iff.mpr
        cases checkExisting with
        | false => exact Or.inr ⟨rfl, rfl, rfl⟩
        | true => exact Or.inl ⟨rfl, _, rfl, rfl⟩
      exact Or.inl ⟨_, false, sent, absent, runs_run_bind_pure_iff.mpr ⟨ended, ran, rfl⟩, rfl⟩

theorem neverStalls_ensure (tree : FileTree) (env : String) (checkExisting : Bool)
    (key : ContentKey) (source : LocalPath) :
    (ensure tree env checkExisting key source).run.NeverStalls := by
  apply neverStalls_run_bind
  · cases checkExisting with
    | true => exact fun _ => trivial
    | false => exact trivial
  · intro present
    cases present with
    | true => exact trivial
    | false =>
        apply neverStalls_run_bind
        · apply neverStalls_run_bind
          · exact trivial
          · intro opened
            apply neverStalls_run_bind
            · exact fun _ => trivial
            · exact fun _ => trivial
        · exact fun _ => trivial

/-- A blob that has been seen to is stored, and the store did all that it was asked. -/
theorem stored_of_runs_ensure {outcome : Outcome}
    (run : Runs (ensure tree env checkExisting key source).run turns (some (.ok outcome))) :
    Stored env checkExisting key turns ∧ ∀ turn ∈ turns, granted turn = true := by
  rcases runs_ensure_iff.mp run with
    ⟨asked, rfl, -⟩ | ⟨-, fault, -, never⟩ | ⟨sent, ended, ran, rfl, same⟩
  · refine ⟨Or.inr ⟨asked, by simp⟩, ?_⟩
    intro turn mem
    rw [List.mem_singleton.mp mem]
    rfl
  · cases never
  · rcases runs_send_iff.mp ran with ⟨fault, -, -, rfl⟩ | ⟨opened, answer, -, rfl, rfl⟩
    · cases same
    · cases answer with
      | error fault => cases same
      | ok taken =>
          refine ⟨Or.inl ⟨opened, by simp⟩, ?_⟩
          intro turn mem
          rcases List.mem_append.mp mem with before | now
          · unfold missing at before
            split at before
            · rw [List.mem_singleton.mp before]
              rfl
            · cases before
          · rw [List.mem_singleton.mp now]
            rfl

end Upload

namespace Sync

variable {tree : FileTree} {env : String} {checkExisting : Bool} {seen : List ContentKey}
  {uploads : Uploads} {item : Item} {items : List Item}

theorem settled_or_due (seen : List ContentKey) (item : Item) :
    (∀ key source, blob? item = some (key, source) → key ∈ seen) ∨
      ∃ key source, blob? item = some (key, source) ∧ key ∉ seen := by
  cases known : blob? item with
  | none => simp
  | some blob =>
      by_cases mem : blob.1 ∈ seen
      · left
        intro key source same
        cases same
        exact mem
      · exact Or.inr ⟨blob.1, blob.2, rfl, mem⟩

/-- An item without a blob of its own, or with one that has been dealt with, is passed over. -/
theorem uploadAll_cons_of_settled
    (settled : ∀ key source, blob? item = some (key, source) → key ∈ seen) :
    uploadAll tree env checkExisting seen uploads (item :: items) =
      uploadAll tree env checkExisting seen uploads items := by
  rw [uploadAll]
  cases known : blob? item with
  | none => rfl
  | some blob =>
      rcases blob with ⟨key, source⟩
      exact if_pos (settled key source known)

theorem uploadAll_cons_of_due {key : ContentKey} {source : LocalPath}
    (known : blob? item = some (key, source)) (due : key ∉ seen) :
    uploadAll tree env checkExisting seen uploads (item :: items) =
      Upload.ensure tree env checkExisting key source >>= fun outcome =>
        uploadAll tree env checkExisting (key :: seen) (uploads.add outcome) items := by
  rw [uploadAll, known]
  exact if_neg due

theorem neverStalls_uploadAll (tree : FileTree) (env : String) (checkExisting : Bool)
    (seen : List ContentKey) (uploads : Uploads) (items : List Item) :
    (uploadAll tree env checkExisting seen uploads items).run.NeverStalls := by
  induction items generalizing seen uploads with
  | nil => exact trivial
  | cons item items induction_hypothesis =>
      rcases settled_or_due seen item with settled | ⟨key, source, known, due⟩
      · rw [uploadAll_cons_of_settled settled]
        exact induction_hypothesis seen uploads
      · rw [uploadAll_cons_of_due known due]
        apply neverStalls_run_bind
        · exact Upload.neverStalls_ensure tree env checkExisting key source
        · exact fun outcome => induction_hypothesis (key :: seen) (uploads.add outcome)

/-- Once all blobs have been seen to, every blob that had not been dealt with before is stored, and
the store did all that it was asked. A later item with the same key is passed over, as its key is
among those seen. -/
theorem stored_of_runs_uploadAll {turns : List GatewayTurn} {result : Uploads}
    (run : Runs (uploadAll tree env checkExisting seen uploads items).run turns
      (some (.ok result))) :
    (∀ item ∈ items, ∀ key source, blob? item = some (key, source) →
      key ∈ seen ∨ Upload.Stored env checkExisting key turns) ∧
    ∀ turn ∈ turns, Upload.granted turn = true := by
  induction items generalizing seen uploads turns with
  | nil =>
      rcases runs_run_pure_iff.mp run with ⟨rfl, -⟩
      simp
  | cons item items induction_hypothesis =>
      rcases settled_or_due seen item with settled | ⟨key, source, known, due⟩
      · rw [uploadAll_cons_of_settled settled] at run
        rcases induction_hypothesis run with ⟨stored, granted⟩
        refine ⟨?_, granted⟩
        intro other mem key source known
        rcases List.mem_cons.mp mem with rfl | later
        · exact Or.inl (settled key source known)
        · exact stored other later key source known
      · rw [uploadAll_cons_of_due known due] at run
        rcases runs_run_bind_ok_iff.mp run with ⟨before, outcome, after, ran, goesOn, rfl⟩
        rcases Upload.stored_of_runs_ensure ran with ⟨storedHere, grantedHere⟩
        rcases induction_hypothesis goesOn with ⟨storedLater, grantedLater⟩
        refine ⟨?_, ?_⟩
        · intro other mem otherKey otherSource otherKnown
          rcases List.mem_cons.mp mem with rfl | later
          · rw [known] at otherKnown
            cases otherKnown
            exact Or.inr storedHere.append_right
          · rcases storedLater other later otherKey otherSource otherKnown with isSeen | isStored
            · rcases List.mem_cons.mp isSeen with rfl | earlier
              · exact Or.inr storedHere.append_right
              · exact Or.inl earlier
            · exact Or.inr isStored.append_left
        · exact List.forall_mem_append.mpr ⟨grantedHere, grantedLater⟩

end Sync

end CdnPublish
