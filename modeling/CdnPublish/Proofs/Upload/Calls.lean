import CdnPublish.Proofs.Sync.Preview
import CdnPublish.Proofs.Upload.Phase
import CdnPublish.Proofs.Upload.Store

/-!
# The calls of the upload phase

Which calls a sync makes to the store, and what it counts. The keys of the objects are gone through
in the order in which they first occur, and each of them is dealt with once, for the file of the
first item that has it. The counts of a phase that completes are those of its calls: a blob that was
sent is a put, and one that was there already is a lookup that found it.
-/

namespace CdnPublish

open Program Sync

namespace Upload

/-- The store was sent a blob. -/
def isPut : GatewayTurn → Bool
  | ⟨.putBlob _ _ _, _⟩ => true
  | _ => false

/-- The store was asked for a blob and has it. -/
def isFound : GatewayTurn → Bool
  | ⟨.blobExists _ _, .ok true⟩ => true
  | _ => false

variable {tree : FileTree} {env : String} {checkExisting : Bool} {key : ContentKey}
  {path : LocalPath} {blob : Blob} {blobs : List Blob} {turns : List GatewayTurn}
  {stretches : List (List GatewayTurn)}

theorem countP_isPut_missing : (missing env key checkExisting).countP isPut = 0 := by
  cases checkExisting <;> rfl

theorem countP_isFound_missing : (missing env key checkExisting).countP isFound = 0 := by
  cases checkExisting <;> rfl

/-- A blob that is supplied was either sent or found. -/
theorem Supplies.countP_add_countP (supplies : Supplies tree env checkExisting blob turns) :
    turns.countP isPut + turns.countP isFound = 1 := by
  cases supplies with
  | present key path asked => rfl
  | sent key isOpen =>
      rw [List.countP_append, List.countP_append, countP_isPut_missing, countP_isFound_missing]
      rfl

theorem countP_add_countP_of_supplied
    (supplied : List.Forall₂ (Supplies tree env checkExisting) blobs stretches) :
    stretches.flatten.countP isPut + stretches.flatten.countP isFound = blobs.length := by
  induction supplied with
  | nil => rfl
  | cons here later induction_hypothesis =>
      have one := here.countP_add_countP
      rw [List.flatten_cons, List.countP_append, List.countP_append, List.length_cons]
      omega

end Upload

namespace Sync

open Upload

/-- The counts after these turns. -/
def Uploads.after (uploads : Uploads) (turns : List GatewayTurn) : Uploads :=
  ⟨uploads.uploaded + turns.countP isPut, uploads.alreadyPresent + turns.countP isFound⟩

/-- The course of an upload phase over blobs, with its end: every blob is supplied and counted, or
the first that fails ends the phase. -/
inductive UploadPhase (tree : FileTree) (env : String) (checkExisting : Bool) (blobs : List Blob) :
    List GatewayTurn → Except SyncFault Uploads → Prop where
  | completed {stretches : List (List GatewayTurn)}
      (supplied : List.Forall₂ (Supplies tree env checkExisting) blobs stretches) :
      UploadPhase tree env checkExisting blobs stretches.flatten
        (.ok ⟨stretches.flatten.countP isPut, stretches.flatten.countP isFound⟩)
  | failed {before after : List Blob} {blob : Blob} {stretches : List (List GatewayTurn)}
      {last : List GatewayTurn} {fault : SyncFault} (split : blobs = before ++ blob :: after)
      (supplied : List.Forall₂ (Supplies tree env checkExisting) before stretches)
      (fails : Fails tree env checkExisting blob last fault) :
      UploadPhase tree env checkExisting blobs (stretches.flatten ++ last) (.error fault)

variable {tree : FileTree} {env : String} {checkExisting : Bool} {seen : List ContentKey}
  {key : ContentKey} {path : LocalPath} {uploads result : Uploads} {item : Item}
  {items : List Item} {turns : List GatewayTurn}

theorem UploadPhase.counts {blobs : List Blob}
    (phase : UploadPhase tree env checkExisting blobs turns (.ok uploads)) :
    uploads.uploaded + uploads.alreadyPresent = blobs.length := by
  cases phase with
  | completed supplied => exact countP_add_countP_of_supplied supplied

theorem Uploads.after_append (uploads : Uploads) (first second : List GatewayTurn) :
    uploads.after (first ++ second) = (uploads.after first).after second := by
  simp [after, Nat.add_assoc]

theorem add_of_runs_ensure {outcome : Upload.Outcome}
    (run : Runs (ensure tree env checkExisting key path).run turns (some (.ok outcome))) :
    uploads.add outcome = uploads.after turns := by
  rcases runs_ensure_iff.mp run with
    ⟨-, rfl, same⟩ | ⟨-, fault, -, never⟩ | ⟨sent, ended, ran, rfl, same⟩
  · cases same
    rfl
  · cases never
  · rcases runs_send_iff.mp ran with ⟨fault, -, -, rfl⟩ | ⟨opened, answer, -, rfl, rfl⟩
    · cases same
    · cases answer with
      | error fault => cases same
      | ok taken =>
          cases same
          rw [Uploads.after, List.countP_append, List.countP_append, countP_isPut_missing,
            countP_isFound_missing]
          rfl

/-- The counts are carried along, whatever counts a run begins with. -/
theorem uploads_of_runs_uploadAll
    (run : Runs (uploadAll tree env checkExisting seen uploads items).run turns
      (some (.ok result))) : result = uploads.after turns := by
  induction items generalizing seen uploads turns with
  | nil =>
      rcases runs_run_pure_iff.mp run with ⟨rfl, same⟩
      cases same
      rfl
  | cons item items induction_hypothesis =>
      rcases settled_or_due seen item with settled | ⟨key, path, known, due⟩
      · rw [uploadAll_cons_of_settled settled] at run
        exact induction_hypothesis run
      · rw [uploadAll_cons_of_due known due] at run
        rcases runs_run_bind_ok_iff.mp run with ⟨before, outcome, later, ran, goesOn, rfl⟩
        rw [induction_hypothesis goesOn, add_of_runs_ensure ran, Uploads.after_append]

/-- The runs of an upload phase are its courses over the blobs that are due. -/
theorem runs_uploadAll_iff {ended : Except SyncFault Uploads} :
    Runs (uploadAll tree env checkExisting [] .none items).run turns (some ended) ↔
      UploadPhase tree env checkExisting (dueBlobs [] items) turns ended := by
  have counted : ∀ turns,
      Uploads.none.after turns = ⟨turns.countP isPut, turns.countP isFound⟩ := by
    simp [Uploads.after, Uploads.none]
  constructor
  · intro run
    cases ended with
    | ok result =>
        rcases exists_runs_uploadAll_ok_iff.mp ⟨result, run⟩ with ⟨stretches, supplied, rfl⟩
        rw [uploads_of_runs_uploadAll run, counted]
        exact .completed supplied
    | error fault =>
        rcases runs_uploadAll_error_iff.mp run with
          ⟨before, blob, after, stretches, last, split, supplied, fails, rfl⟩
        exact .failed split supplied fails
  · intro phase
    cases phase with
    | completed supplied =>
        rcases exists_runs_uploadAll_ok_iff.mpr ⟨_, supplied, rfl⟩ with ⟨result, run⟩
        rw [← counted, ← uploads_of_runs_uploadAll run]
        exact run
    | failed split supplied fails =>
        exact runs_uploadAll_error_iff.mpr ⟨_, _, _, _, _, split, supplied, fails, rfl⟩

/-- The keys of the blobs that are due, in the order in which they first occur. -/
theorem keys_dueBlobs (seen : List ContentKey) (items : List Item) :
    (dueBlobs seen items).map Prod.fst =
      (((items.filterMap blob?).map Prod.fst).filter (· ∉ seen)).eraseDups := by
  induction items generalizing seen with
  | nil => rfl
  | cons item items induction_hypothesis =>
      rcases settled_or_due seen item with settled | ⟨key, path, known, due⟩
      · rw [dueBlobs_cons_of_settled settled, induction_hypothesis]
        cases known : blob? item with
        | none => rw [List.filterMap_cons_none known]
        | some blob =>
            rw [List.filterMap_cons_some known, List.map_cons, List.filter_cons_of_neg]
            simpa using settled blob.1 blob.2 known
      · have unequal : ∀ other : ContentKey, (!(other == key) && decide (other ∉ seen)) =
            decide (other ∉ key :: seen) := by
          intro other
          rw [Bool.eq_iff_iff]
          simp
        rw [dueBlobs_cons_of_due known due, List.map_cons, induction_hypothesis,
          List.filterMap_cons_some known, List.map_cons,
          List.filter_cons_of_pos (by simpa using due), List.eraseDups_cons, List.filter_filter]
        simp only [unequal]

/-- The file that is sent under a key is that of the first item that has the key. An item that is
passed over has a key that was seen before, and what is due later has not. -/
theorem find?_of_mem_dueBlobs {blob : Blob} (mem : blob ∈ dueBlobs seen items) :
    blob.1 ∉ seen ∧ (items.filterMap blob?).find? (·.1 = blob.1) = some blob := by
  induction items generalizing seen with
  | nil => cases mem
  | cons item items induction_hypothesis =>
      rcases settled_or_due seen item with settled | ⟨key, path, known, due⟩
      · rw [dueBlobs_cons_of_settled settled] at mem
        rcases induction_hypothesis mem with ⟨unseen, isFirst⟩
        refine ⟨unseen, ?_⟩
        cases known : blob? item with
        | none => rw [List.filterMap_cons_none known, isFirst]
        | some other =>
            have unequal : other.1 ≠ blob.1 := by
              intro same
              exact unseen (same ▸ settled other.1 other.2 known)
            rw [List.filterMap_cons_some known, List.find?_cons_of_neg (by simpa using unequal),
              isFirst]
      · rw [dueBlobs_cons_of_due known due] at mem
        rw [List.filterMap_cons_some known]
        rcases List.mem_cons.mp mem with rfl | later
        · exact ⟨due, List.find?_cons_of_pos (by simp)⟩
        · rcases induction_hypothesis later with ⟨unseen, isFirst⟩
          have unequal : key ≠ blob.1 := fun same => unseen (same ▸ List.mem_cons_self)
          refine ⟨fun earlier => unseen (List.mem_cons_of_mem _ earlier), ?_⟩
          rw [List.find?_cons_of_neg (by simpa using unequal), isFirst]

end Sync

namespace Client

variable {client : Client} {options : Options} {items : List Item} {turns : List GatewayTurn}

/-- A call to the store would belong to one of the phases, and none of these calls the store. -/
theorem kind_ne_blob_of_runs_publishItems {ending : Option (Except SyncFault (Publish × Task))}
    (run : Runs (client.publishItems options items).run turns ending) :
    ∀ turn ∈ turns, turn.question.kind ≠ .blob := by
  rcases runs_publishItems_iff.mp run with ⟨dated, date, rest, ran, course, rfl⟩
  rcases course.exists_phases with ⟨phases, unstarted, made, ordered, -⟩
  intro turn mem isBlob
  have called : turn ∈ calls (dated ++ rest) := List.mem_filter.mpr ⟨mem, by simp [isBlob]⟩
  rw [calls_append, (ofKind_of_runs_startDate ran).calls_eq_nil, List.nil_append, made,
    Phases.calls, unstarted] at called
  simp only [List.nil_append, List.mem_append] at called
  rcases called with (((creation | addition) | commit) | poll)
  · cases isBlob.symm.trans (ordered.creation turn creation)
  · cases isBlob.symm.trans (ordered.additions turn addition)
  · cases isBlob.symm.trans (ordered.commit turn commit)
  · cases isBlob.symm.trans (ordered.polls turn poll)

end Client

/-- The calls of a sync to the store. The blobs that it sees to are the keys of its objects in the
order in which they first occur, each with the file of the first item that has it, and these files
can be opened. A sync that has something to do goes through the upload phase of these blobs and then
leaves the store alone; it reports the counts of the phase, and each blob counts once. Any other
sync makes no call. -/
theorem sync_uploads_exact (client : Client) (tree : FileTree) (source : LocalPath)
    (destination : String) (options : Options) (items : List Item)
    (planned : (plan tree source destination options).result = .ok items) :
    ∃ blobs : List Upload.Blob,
      blobs.map Prod.fst = ((items.filterMap blob?).map Prod.fst).eraseDups ∧
      (∀ blob ∈ blobs, (items.filterMap blob?).find? (·.1 = blob.1) = some blob ∧
        ∃ bytes, tree.read blob.2 = .ok bytes ∧
          tree.openAt blob.2 = .ok ⟨bytes.length, .ok bytes⟩) ∧
      (options.dryRun = false ∧ items ≠ [] → ∀ turns ending,
        Runs (client.sync tree source destination options).run turns ending ↔
          (∃ fault, UploadPhase tree client.env options.checkExisting blobs turns (.error fault) ∧
            ending = some (.error fault)) ∨
          ∃ uploads before later ended,
            UploadPhase tree client.env options.checkExisting blobs before (.ok uploads) ∧
            uploads.uploaded + uploads.alreadyPresent = blobs.length ∧
            Runs (client.publishItems options items).run later ended ∧
            (∀ turn ∈ later, turn.question.kind ≠ .blob) ∧ turns = before ++ later ∧
            ending = ended.map (Except.map fun done =>
              ⟨items, uploads, some done.1, some done.2, options.dryRun⟩)) ∧
      (options.dryRun = true ∨ items = [] → ∀ turns ending,
        Runs (client.sync tree source destination options).run turns ending ↔
          turns = [] ∧ ending = some (.ok (.planned items options.dryRun))) := by
  refine ⟨dueBlobs [] items, ?_, ?_, ?_, fun idle _ _ => Client.runs_sync_of_idle planned idle⟩
  · simpa using keys_dueBlobs [] items
  · intro blob mem
    have isFirst := (find?_of_mem_dueBlobs mem).2
    rcases List.mem_filterMap.mp (List.mem_of_find?_eq_some isFirst) with ⟨item, itemMem, known⟩
    rcases readable_of_plan planned item itemMem blob.1 blob.2 known with ⟨bytes, isRead⟩
    exact ⟨isFirst, bytes, isRead, FileTree.openAt_of_read isRead⟩
  · intro active turns ending
    rw [Client.runs_sync_iff]
    constructor
    · intro course
      cases course with
      | unplanned unplanned => cases planned.symm.trans unplanned
      | idle known idle =>
          cases planned.symm.trans known
          exact absurd idle (by simp [active])
      | unstored known _ refused =>
          cases planned.symm.trans known
          exact Or.inl ⟨_, runs_uploadAll_iff.mp refused, rfl⟩
      | published known _ stored published =>
          cases planned.symm.trans known
          have phase := runs_uploadAll_iff.mp stored
          exact Or.inr ⟨_, _, _, _, phase, phase.counts, published,
            Client.kind_ne_blob_of_runs_publishItems published, rfl, rfl⟩
    · rintro (⟨fault, phase, rfl⟩ |
        ⟨uploads, before, later, ended, phase, -, published, -, rfl, rfl⟩)
      · exact .unstored planned active (runs_uploadAll_iff.mpr phase)
      · exact .published planned active (runs_uploadAll_iff.mpr phase) published

section SameContent

/-- The content, and the first file that has it. -/
def sharedBlob : Upload.Blob := (.ofBytes [104, 105], ⟨[47, 115, 47, 97]⟩)

/-- The task of a commit that is complete at once. -/
def committedTask : Task :=
  ⟨"t", .complete, .none, none, none, none⟩

/-- The turns in which the content is looked up and sent. -/
def storingTurns : List GatewayTurn :=
  [Upload.lookupOf "live" sharedBlob.1 (.ok false),
    Upload.putOf "live" sharedBlob.1 ⟨2, .ok [104, 105]⟩ (.ok ())]

/-- The turns in which the items are published. -/
def publishingTurns (publish : Publish) : List GatewayTurn :=
  ⟨.currentDate, "now"⟩ :: Session.creationOf "live" (.ok publish) ::
    (sameItems.map (Session.additionOf publish "now") ++
      [Session.commitOf publish none (.ok committedTask)])

theorem plan_asking : (plan sameContent ⟨[47, 115]⟩ "/d" askingOptions).result = .ok sameItems :=
  plan_sameContent

theorem uploadPhase_storing :
    UploadPhase sameContent "live" true [sharedBlob] storingTurns (.ok ⟨1, 0⟩) := by
  have opened : sameContent.openAt ⟨[47, 115, 47, 97]⟩ = .ok ⟨2, .ok [104, 105]⟩ := by cbv
  exact .completed (.cons (.sent _ opened) .nil)

theorem runs_publishItems_asking (publish : Publish) :
    Runs ((Client.mk "live" ⟨5, 1, 9⟩).publishItems askingOptions sameItems).run
      (publishingTurns publish) (some (.ok (publish, committedTask))) := by
  have dated : Runs (startDate askingOptions).run [⟨.currentDate, "now"⟩] (some (.ok "now")) :=
    Client.runs_startDate_iff.mpr (Or.inr ⟨rfl, "now", rfl, rfl⟩)
  have concluded : Client.Concluded ⟨"live", ⟨5, 1, 9⟩⟩ askingOptions
      (Session.filled publish sameItems.length) committedTask []
      (some (.ok (publish, committedTask))) := ⟨_, .tell (.done _), rfl⟩
  exact Client.runs_publishItems_iff.mpr
    ⟨_, _, _, dated, .granted publish committedTask concluded, rfl⟩

/-- Two files of the same content are sent once, for the first of them, after the store has been
asked once. -/
theorem sync_uploads_exact_sameContent :
    (plan sameContent ⟨[47, 115]⟩ "/d" askingOptions).result = .ok sameItems ∧
    Runs ((Client.mk "live" ⟨5, 1, 9⟩).sync sameContent ⟨[47, 115]⟩ "/d" askingOptions).run
      (storingTurns ++ publishingTurns ⟨"p", .none, none, none⟩)
      (some (.ok ⟨sameItems, ⟨1, 0⟩, some ⟨"p", .none, none, none⟩, some committedTask,
        false⟩)) := by
  rcases sync_uploads_exact ⟨"live", ⟨5, 1, 9⟩⟩ sameContent ⟨[47, 115]⟩ "/d" askingOptions sameItems
    plan_asking with ⟨blobs, keys, first, runs, -⟩
  have both : sameItems.filterMap blob? = [sharedBlob, (sharedBlob.1, ⟨[47, 115, 47, 98]⟩)] := rfl
  rw [both] at keys first
  have oneKey : blobs.map Prod.fst = [sharedBlob.1] := by
    rw [keys]
    simp [List.eraseDups_cons]
  rcases List.map_eq_singleton_iff.mp oneKey with ⟨blob, rfl, sameKey⟩
  have found : [sharedBlob, (sharedBlob.1, ⟨[47, 115, 47, 98]⟩)].find? (·.1 = sharedBlob.1) =
      some sharedBlob := List.find?_cons_of_pos (decide_eq_true rfl)
  have isFirst := (first blob List.mem_cons_self).1
  rw [sameKey, found] at isFirst
  rw [← Option.some.inj isFirst] at runs
  have published := runs_publishItems_asking ⟨"p", .none, none, none⟩
  exact ⟨plan_asking, (runs ⟨rfl, List.cons_ne_nil _ _⟩ _ _).mpr (Or.inr
    ⟨_, _, _, _, uploadPhase_storing, rfl, published,
      Client.kind_ne_blob_of_runs_publishItems published, rfl, rfl⟩)⟩

end SameContent

end CdnPublish
