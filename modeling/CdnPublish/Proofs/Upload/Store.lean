import CdnPublish.Proofs.FileTree.Entries
import CdnPublish.Proofs.Sync.Planning
import CdnPublish.Proofs.Upload.Blobs

/-!
# What a store holds after the upload phase

A store keeps the bytes that were put under a key of an environment, and it has a key when something
was put under it. Asking it before sending, and sending each key only once, are both savings: where
a key stands for one content, the store comes to hold what it would hold if every object were simply
sent.
-/

namespace CdnPublish

open Program

/-- The bytes under every key of every environment. -/
abbrev BlobStore := String × ContentKey → Option Bytes

namespace BlobStore

/-- The store with bytes put under a key. -/
def put (store : BlobStore) (env : String) (key : ContentKey) (bytes : Bytes) : BlobStore :=
  Function.update store (env, key) (some bytes)

variable {store : BlobStore} {env : String} {key : ContentKey} {bytes : Bytes}

@[simp]
theorem put_self : store.put env key bytes (env, key) = some bytes :=
  Function.update_self ..

theorem put_of_ne {place : String × ContentKey} (other : place ≠ (env, key)) :
    store.put env key bytes place = store place :=
  Function.update_of_ne other ..

/-- Putting what is there already changes nothing. -/
theorem put_of_held (held : store (env, key) = some bytes) : store.put env key bytes = store := by
  rw [put, ← held, Function.update_eq_self]

/-- The store with all blobs put one after the other. -/
def putAll (store : BlobStore) (env : String) (blobs : List (ContentKey × Bytes)) : BlobStore :=
  blobs.foldl (fun store blob => store.put env blob.1 blob.2) store

/-- Whatever the store has under the keys of blobs are their bytes. -/
def Agrees (store : BlobStore) (env : String) (blobs : List (ContentKey × Bytes)) : Prop :=
  ∀ blob ∈ blobs, ∀ held, store (env, blob.1) = some held → held = blob.2

/-- The store has the bytes of all blobs under their keys. -/
def Holds (store : BlobStore) (env : String) (blobs : List (ContentKey × Bytes)) : Prop :=
  ∀ blob ∈ blobs, store (env, blob.1) = some blob.2

theorem Holds.agrees {store : BlobStore} {env : String} {blobs : List (ContentKey × Bytes)}
    (holds : store.Holds env blobs) : store.Agrees env blobs := by
  intro blob mem held isHeld
  rw [holds blob mem] at isHeld
  exact (Option.some.inj isHeld).symm

/-- A key stands for one content. -/
def SingleValued (blobs : List (ContentKey × Bytes)) : Prop :=
  ∀ first ∈ blobs, ∀ second ∈ blobs, first.1 = second.1 → first.2 = second.2

variable {blobs : List (ContentKey × Bytes)} {blob : ContentKey × Bytes}

theorem SingleValued.tail (single : SingleValued (blob :: blobs)) : SingleValued blobs :=
  fun first firstMem second secondMem =>
    single first (.tail _ firstMem) second (.tail _ secondMem)

/-- Putting a blob is no surprise to the blobs that follow it. -/
theorem Agrees.put (agrees : store.Agrees env (blob :: blobs))
    (single : SingleValued (blob :: blobs)) : (store.put env blob.1 blob.2).Agrees env blobs := by
  intro next mem held isHeld
  by_cases same : next.1 = blob.1
  · rw [same, put_self] at isHeld
    rw [← Option.some.inj isHeld]
    exact single blob (.head _) next (.tail _ mem) same.symm
  · rw [put_of_ne (by simp [same])] at isHeld
    exact agrees next (.tail _ mem) held isHeld

theorem putAll_of_holds (holds : store.Holds env blobs) : store.putAll env blobs = store := by
  induction blobs with
  | nil => rfl
  | cons blob blobs induction_hypothesis =>
      rw [putAll, List.foldl_cons, put_of_held (holds blob (.head _))]
      exact induction_hypothesis fun next mem => holds next (.tail _ mem)

theorem putAll_of_ne {place : String × ContentKey}
    (other : ∀ blob ∈ blobs, place ≠ (env, blob.1)) :
    store.putAll env blobs place = store place := by
  induction blobs generalizing store with
  | nil => rfl
  | cons blob blobs induction_hypothesis =>
      rw [putAll, List.foldl_cons]
      calc
        _ = store.put env blob.1 blob.2 place :=
          induction_hypothesis fun next mem => other next (.tail _ mem)
        _ = store place := put_of_ne (other blob (.head _))

theorem holds_putAll (store : BlobStore) (env : String) (single : SingleValued blobs) :
    (store.putAll env blobs).Holds env blobs := by
  induction blobs generalizing store with
  | nil => exact fun blob mem => absurd mem List.not_mem_nil
  | cons blob blobs induction_hypothesis =>
      have later : ((store.put env blob.1 blob.2).putAll env blobs).Holds env blobs :=
        induction_hypothesis _ single.tail
      intro next mem
      rcases List.mem_cons.mp mem with rfl | mem
      · by_cases again : ∃ other ∈ blobs, other.1 = next.1
        · rcases again with ⟨other, otherMem, same⟩
          rw [← same, single next (.head _) other (.tail _ otherMem) same.symm]
          exact later other otherMem
        · have untouched : ∀ other ∈ blobs, (env, next.1) ≠ (env, other.1) := by
            intro other otherMem same
            exact again ⟨other, otherMem, (Prod.ext_iff.mp same).2.symm⟩
          exact (putAll_of_ne untouched).trans put_self
      · exact later next mem

/-- The store never refuses: it says whether it has a key, and takes all bytes of a reader. Whatever
else is asked is answered by others. -/
def answer (others : (question : Question) → BlobStore → question.Answer × BlobStore) :
    (question : Question) → BlobStore → question.Answer × BlobStore
  | .blobExists env key, store => (.ok (store (env, key)).isSome, store)
  | .putBlob env key ⟨_, .ok bytes⟩, store => (.ok (), store.put env key bytes)
  | question, store => others question store

end BlobStore

/-- In the surroundings of a store, a workflow comes to a value and leaves the store so. -/
def Workflow.Completes {Result : Type}
    (others : (question : Question) → BlobStore → question.Answer × BlobStore)
    (workflow : Workflow Result) (before : BlobStore) (value : Result) (after : BlobStore) : Prop :=
  ∀ told, ∃ later, run (BlobStore.answer others) told before workflow.run =
    ⟨later, after, some (.ok value)⟩

variable {others : (question : Question) → BlobStore → question.Answer × BlobStore}
  {before middle after store : BlobStore} {tree : FileTree} {env : String} {key : ContentKey}
  {path : LocalPath} {checkExisting : Bool}

namespace Workflow.Completes

variable {Result Other : Type} {value : Result}

theorem pure : Completes others (pure value) store value store :=
  fun told => ⟨told, rfl⟩

theorem note {entry : Log.Entry} : Completes others (note entry) store () store :=
  fun told => ⟨entry :: told, rfl⟩

theorem ofExcept {result : Except SyncFault Result} (given : result = .ok value) :
    Completes others (ofExcept result) store value store := by
  intro told
  exact ⟨told, by rw [given]; rfl⟩

/-- A sequence goes on from the store that its first part leaves. -/
theorem run_bind {first : Workflow Other} {between : Other}
    (start : Completes others first before between middle) (next : Other → Workflow Result)
    (told : List Log.Entry) :
    ∃ later, run (BlobStore.answer others) told before (first >>= next).run =
      run (BlobStore.answer others) later middle (next between).run := by
  rcases start told with ⟨later, ran⟩
  refine ⟨later, ?_⟩
  rw [ExceptT.run_bind, Program.run_bind ran]

theorem bind {first : Workflow Other} {next : Other → Workflow Result} {between : Other}
    (start : Completes others first before between middle)
    (goesOn : Completes others (next between) middle value after) :
    Completes others (first >>= next) before value after := by
  intro told
  rcases start.run_bind next told with ⟨told, ran⟩
  rcases goesOn told with ⟨later, finished⟩
  exact ⟨later, ran.trans finished⟩

theorem ofNarrated {computation : Narrated SyncFault Result}
    (given : computation.result = .ok value) :
    Completes others (ofNarrated computation) store value store := by
  have tells : ∀ (entries : List Log.Entry) (told : List Log.Entry), ∃ later,
      run (BlobStore.answer others) told store (entries.foldr .tell (.done computation.result)) =
        ⟨later, store, some (.ok value)⟩ := by
    intro entries
    induction entries with
    | nil => exact fun told => ⟨told, by rw [given]; rfl⟩
    | cons entry entries induction_hypothesis => exact fun told => induction_hypothesis _
  exact tells computation.log

end Workflow.Completes

open Workflow (Completes)

namespace Upload

theorem completes_isPresent :
    Completes others (isPresent env key checkExisting) store
      (checkExisting && (store (env, key)).isSome) store := by
  cases checkExisting with
  | true => exact fun told => ⟨told, rfl⟩
  | false => exact .pure

theorem completes_putBlob {length : Nat} {bytes : Bytes} :
    Completes others (.ofAnswer (Gateway.putBlob env key ⟨length, .ok bytes⟩)) store ()
      (store.put env key bytes) :=
  fun told => ⟨told, rfl⟩

theorem completes_send {bytes : Bytes} (isRead : tree.read path = .ok bytes) :
    Completes others (send tree env key path) store () (store.put env key bytes) := by
  have opened : openSource tree path = .ok ⟨bytes.length, .ok bytes⟩ := by
    rw [openSource, FileTree.openAt_of_read isRead]
    rfl
  exact .bind (.ofExcept opened) (.bind completes_putBlob .note)

/-- Where nothing else is held under its key, a file ends up in the store, whether the store is
asked before or not. -/
theorem exists_completes_ensure
    (others : (question : Question) → BlobStore → question.Answer × BlobStore)
    (checkExisting : Bool) {bytes : Bytes} (isRead : tree.read path = .ok bytes)
    (agrees : ∀ held, store (env, key) = some held → held = bytes) :
    ∃ outcome, Completes others (ensure tree env checkExisting key path) store outcome
      (store.put env key bytes) := by
  have asked : Completes others (isPresent env key checkExisting) store _ store :=
    completes_isPresent
  cases present : checkExisting && (store (env, key)).isSome with
  | true =>
      rcases Option.isSome_iff_exists.mp (Bool.and_eq_true_iff.mp present).2 with ⟨held, isHeld⟩
      rw [BlobStore.put_of_held (by rw [isHeld, agrees held isHeld])]
      rw [present] at asked
      exact ⟨.alreadyPresent, .bind asked (.bind .note .pure)⟩
  | false =>
      rw [present] at asked
      exact ⟨.uploaded, .bind asked (.bind (completes_send isRead) .pure)⟩

end Upload

namespace Sync

open Upload

/-- Every object item sent in turn, one by one and without a question. -/
def uploadEach (tree : FileTree) (env : String) : List Item → Workflow Unit
  | [] => pure ()
  | item :: rest =>
    match blob? item with
    | none => uploadEach tree env rest
    | some (key, source) => do
      Upload.send tree env key source
      uploadEach tree env rest

/-- The key of an object item and the bytes of its file. -/
def content? (tree : FileTree) (item : Item) : Option (ContentKey × Bytes) := do
  let (key, path) ← blob? item
  let bytes ← (tree.read path).toOption
  return (key, bytes)

/-- The files behind items can be read. -/
def Readable (tree : FileTree) (items : List Item) : Prop :=
  ∀ item ∈ items, ∀ key path, blob? item = some (key, path) → ∃ bytes, tree.read path = .ok bytes

variable {item : Item} {items : List Item}

theorem content?_of_read {bytes : Bytes} (known : blob? item = some (key, path))
    (isRead : tree.read path = .ok bytes) : content? tree item = some (key, bytes) := by
  simp [content?, known, isRead, Except.toOption]

theorem content?_of_not_blob (none : blob? item = none) : content? tree item = .none := by
  simp [content?, none]

/-- The upload phase leaves the store with the bytes of all items. What it has dealt with before is
there already. The store holds every key that was seen, so an item that is passed over would have
put nothing new. -/
theorem exists_completes_uploadAll {seen : List ContentKey} {uploads : Uploads}
    (readable : Readable tree items)
    (single : BlobStore.SingleValued (items.filterMap (content? tree)))
    (agrees : store.Agrees env (items.filterMap (content? tree)))
    (settled : ∀ key ∈ seen, ∃ bytes, store (env, key) = some bytes) :
    ∃ result, Completes others (uploadAll tree env checkExisting seen uploads items) store result
      (store.putAll env (items.filterMap (content? tree))) := by
  induction items generalizing seen uploads store with
  | nil => exact ⟨uploads, .pure⟩
  | cons item items induction_hypothesis =>
      have rest : Readable tree items := fun next mem => readable next (.tail _ mem)
      cases known : blob? item with
      | none =>
          rw [List.filterMap_cons_none (content?_of_not_blob known)] at single agrees ⊢
          rw [uploadAll_cons_of_settled (by simp [known])]
          exact induction_hypothesis rest single agrees settled
      | some blob =>
          rcases blob with ⟨key, path⟩
          rcases readable item (.head _) key path known with ⟨bytes, isRead⟩
          rw [List.filterMap_cons_some (content?_of_read known isRead)] at single agrees ⊢
          by_cases seenBefore : key ∈ seen
          · rcases settled key seenBefore with ⟨held, isHeld⟩
            rw [agrees _ (.head _) held isHeld] at isHeld
            rw [uploadAll_cons_of_settled (by simp [known, seenBefore]), BlobStore.putAll,
              List.foldl_cons, BlobStore.put_of_held isHeld]
            exact induction_hypothesis rest single.tail (fun next mem => agrees next (.tail _ mem))
              settled
          · rcases exists_completes_ensure others checkExisting isRead (agrees _ (.head _)) with
              ⟨outcome, ensured⟩
            have settledNow : ∀ other ∈ key :: seen, ∃ held,
                store.put env key bytes (env, other) = some held := by
              intro other mem
              by_cases same : other = key
              · exact ⟨bytes, by rw [same, BlobStore.put_self]⟩
              · rw [BlobStore.put_of_ne (by simp [same])]
                exact settled other (List.mem_of_ne_of_mem same mem)
            have completed : ∃ result, Completes others
                (uploadAll tree env checkExisting (key :: seen) (uploads.add outcome) items)
                (store.put env key bytes) result _ :=
              induction_hypothesis rest single.tail (agrees.put single) settledNow
            rcases completed with ⟨result, completed⟩
            rw [uploadAll_cons_of_due known seenBefore]
            exact ⟨result, .bind ensured completed⟩

/-- Sending every object leaves the store with the bytes of all items. -/
theorem completes_uploadEach (readable : Readable tree items) :
    Completes others (uploadEach tree env items) store ()
      (store.putAll env (items.filterMap (content? tree))) := by
  induction items generalizing store with
  | nil => exact .pure
  | cons item items induction_hypothesis =>
      have rest : Readable tree items := fun next mem => readable next (.tail _ mem)
      unfold uploadEach
      cases known : blob? item with
      | none =>
          rw [List.filterMap_cons_none (content?_of_not_blob known)]
          exact induction_hypothesis rest
      | some blob =>
          rcases blob with ⟨key, path⟩
          rcases readable item (.head _) key path known with ⟨bytes, isRead⟩
          rw [List.filterMap_cons_some (content?_of_read known isRead)]
          exact .bind (completes_send isRead) (induction_hypothesis rest)

theorem blob?_eq_some_iff :
    blob? item = some (key, path) ↔ item.source = some path ∧ item.target = .object key := by
  unfold blob? Item.contentKey?
  cases item.source <;> cases item.target <;> simp [and_comm]

theorem content?_eq_some_iff {bytes : Bytes} :
    content? tree item = some (key, bytes) ↔ ∃ path, item.source = some path ∧
      item.target = .object key ∧ tree.read path = .ok bytes := by
  constructor
  · intro known
    rcases Option.bind_eq_some_iff.mp known with ⟨⟨named, path⟩, isBlob, given⟩
    rcases Option.bind_eq_some_iff.mp given with ⟨read, isRead, same⟩
    cases same
    rcases blob?_eq_some_iff.mp isBlob with ⟨hasSource, isObject⟩
    refine ⟨path, hasSource, isObject, ?_⟩
    cases content : tree.read path with
    | error cause => simp [content, Except.toOption] at isRead
    | ok whole => simpa [content, Except.toOption] using isRead
  · rintro ⟨path, hasSource, isObject, isRead⟩
    exact content?_of_read (blob?_eq_some_iff.mpr ⟨hasSource, isObject⟩) isRead

variable {source : LocalPath} {destination : String} {options : Options}

theorem readable_of_plan
    (planned : (plan tree source destination options).result = .ok items) :
    Readable tree items := by
  intro item mem key path known
  rcases blob?_eq_some_iff.mp known with ⟨hasSource, isObject⟩
  rcases read_of_plan planned mem isObject with ⟨other, bytes, alsoSource, isRead, -⟩
  cases hasSource.symm.trans alsoSource
  exact ⟨bytes, isRead⟩

/-- If no two files of a tree share a key without sharing their bytes, then neither do the items of
a plan. -/
theorem singleValued_of_plan
    (planned : (plan tree source destination options).result = .ok items)
    (collisionFree : ∀ path other bytes otherBytes, tree.read path = .ok bytes →
      tree.read other = .ok otherBytes → ContentKey.ofBytes bytes = .ofBytes otherBytes →
        bytes = otherBytes) :
    BlobStore.SingleValued (items.filterMap (content? tree)) := by
  have keyed : ∀ blob ∈ items.filterMap (content? tree), ∃ path,
      tree.read path = .ok blob.2 ∧ blob.1 = .ofBytes blob.2 := by
    intro blob mem
    rcases List.mem_filterMap.mp mem with ⟨item, itemMem, known⟩
    rcases content?_eq_some_iff.mp known with ⟨path, hasSource, isObject, isRead⟩
    rcases read_of_plan planned itemMem isObject with ⟨other, bytes, alsoSource, alsoRead, named⟩
    cases hasSource.symm.trans alsoSource
    cases isRead.symm.trans alsoRead
    exact ⟨path, isRead, named⟩
  intro first firstMem second secondMem same
  rcases keyed first firstMem with ⟨path, isRead, named⟩
  rcases keyed second secondMem with ⟨other, otherRead, otherNamed⟩
  exact collisionFree path other _ _ isRead otherRead (by rw [← named, ← otherNamed, same])

/-- A sync that has something to do publishes its items from the store that its upload phase
leaves. -/
theorem run_sync_of_uploads {client : Client} {uploads : Uploads}
    (planned : (plan tree source destination options).result = .ok items)
    (active : options.dryRun = false ∧ items ≠ [])
    (uploaded : Completes others (uploadAll tree client.env options.checkExisting [] .none items)
      before uploads after) (told : List Log.Entry) :
    ∃ later, run (BlobStore.answer others) told before
        (client.sync tree source destination options).run =
      run (BlobStore.answer others) later after (client.publishItems options items >>= fun done =>
        pure (⟨items, uploads, some done.1, some done.2, options.dryRun⟩ : Report)).run := by
  have widened : ((plan tree source destination options).mapFault SyncFault.ofLocal).result =
      .ok items := congrArg (Except.mapError SyncFault.ofLocal) planned
  have made : Completes others
      (.ofNarrated ((plan tree source destination options).mapFault SyncFault.ofLocal)) before items
        before := .ofNarrated widened
  have goesOn : ¬(options.dryRun || items.isEmpty) = true := by simpa using active
  rcases made.run_bind _ told with ⟨told, planning⟩
  rcases uploaded.run_bind _ told with ⟨later, uploading⟩
  refine ⟨later, planning.trans ?_⟩
  rw [if_neg goesOn]
  exact uploading

/-- What the upload phase does to a store that never refuses. Where a key stands for one content,
all ways of uploading a plan leave the same store: it has the bytes of every object, and it is as it
was everywhere else. Uploading again changes nothing. This is the store from which a sync goes on to
publish. -/
theorem upload_phase_exact
    (others : (question : Question) → BlobStore → question.Answer × BlobStore) (client : Client)
    (tree : FileTree) (source : LocalPath) (destination : String) (options : Options)
    (items : List Item) (before : BlobStore)
    (planned : (plan tree source destination options).result = .ok items)
    (collisionFree : ∀ path other bytes otherBytes, tree.read path = .ok bytes →
      tree.read other = .ok otherBytes → ContentKey.ofBytes bytes = .ofBytes otherBytes →
        bytes = otherBytes)
    (agrees : ∀ item ∈ items, ∀ key path bytes held, item.target = .object key →
      item.source = some path → tree.read path = .ok bytes →
        before (client.env, key) = some held → held = bytes) :
    ∃ after : BlobStore,
      (∀ checkExisting, ∃ uploads, Completes others
        (uploadAll tree client.env checkExisting [] .none items) before uploads after) ∧
      Completes others (uploadEach tree client.env items) before () after ∧
      (∀ item ∈ items, ∀ key, item.target = .object key → ∃ path bytes,
        item.source = some path ∧ tree.read path = .ok bytes ∧
          after (client.env, key) = some bytes) ∧
      (∀ place, (∀ item ∈ items, ∀ key, item.target = .object key → place ≠ (client.env, key)) →
        after place = before place) ∧
      (∀ checkExisting, ∃ uploads, Completes others
        (uploadAll tree client.env checkExisting [] .none items) after uploads after) ∧
      (options.dryRun = false ∧ items ≠ [] → ∃ uploads, ∀ told, ∃ later,
        run (BlobStore.answer others) told before
            (client.sync tree source destination options).run =
          run (BlobStore.answer others) later after
            (client.publishItems options items >>= fun done =>
              pure (⟨items, uploads, some done.1, some done.2, options.dryRun⟩ : Report)).run) := by
  have readable := readable_of_plan planned
  have single := singleValued_of_plan planned collisionFree
  have agreed : before.Agrees client.env (items.filterMap (content? tree)) := by
    intro blob mem held isHeld
    rcases List.mem_filterMap.mp mem with ⟨item, itemMem, known⟩
    rcases content?_eq_some_iff.mp known with ⟨path, hasSource, isObject, isRead⟩
    exact agrees item itemMem _ path _ held isObject hasSource isRead isHeld
  have holds := BlobStore.holds_putAll before client.env single
  have uploading : ∀ checkExisting, ∃ uploads, Completes others
      (uploadAll tree client.env checkExisting [] .none items) before uploads
        (before.putAll client.env (items.filterMap (content? tree))) :=
    fun checkExisting => exists_completes_uploadAll readable single agreed (by simp)
  refine ⟨_, uploading, completes_uploadEach readable, ?_, ?_, ?_, ?_⟩
  · intro item mem key isObject
    rcases read_of_plan planned mem isObject with ⟨path, bytes, hasSource, isRead, -⟩
    have known := content?_eq_some_iff.mpr ⟨path, hasSource, isObject, isRead⟩
    exact ⟨path, bytes, hasSource, isRead, holds _ (List.mem_filterMap.mpr ⟨item, mem, known⟩)⟩
  · intro place untouched
    apply BlobStore.putAll_of_ne
    intro blob mem
    rcases List.mem_filterMap.mp mem with ⟨item, itemMem, known⟩
    rcases content?_eq_some_iff.mp known with ⟨path, -, isObject, -⟩
    exact untouched item itemMem blob.1 isObject
  · intro checkExisting
    have again : ∃ uploads, Completes others
        (uploadAll tree client.env checkExisting [] .none items) _ uploads _ :=
      exists_completes_uploadAll readable single holds.agrees (by simp)
    rwa [BlobStore.putAll_of_holds holds] at again
  · intro active
    rcases uploading options.checkExisting with ⟨uploads, uploaded⟩
    exact ⟨uploads, run_sync_of_uploads planned active uploaded⟩

section SameContent

/-- A refusal of any question that can be refused. -/
def refusalTo : (question : Question) → question.Answer
  | .createPublish _ => .error (.transport "u" "refused")
  | .addItem _ _ => .error (.transport "u" "refused")
  | .commitPublish _ _ => .error (.transport "u" "refused")
  | .getTask _ => .error (.transport "u" "refused")
  | .flushCache _ _ => .error (.transport "u" "refused")
  | .whoami => .error (.transport "u" "refused")
  | .blobExists _ _ => .error (.transport "u" "refused")
  | .putBlob _ _ _ => .error (.transport "u" "refused")
  | .sleep _ => ()
  | .currentDate => "now"

/-- A directory with two files of the same content. -/
def sameContent : FileTree :=
  ⟨[([[115]], .directory), ([[115], [97]], .file [104, 105]), ([[115], [98]], .file [104, 105])],
    [], []⟩

/-- What is planned for the directory. -/
def sameItems : List Item :=
  [⟨some ⟨[47, 115, 47, 97]⟩, "/d/a", .object (.ofBytes [104, 105]), none⟩,
    ⟨some ⟨[47, 115, 47, 98]⟩, "/d/b", .object (.ofBytes [104, 105]), none⟩]

theorem plan_sameContent :
    (plan sameContent ⟨[47, 115]⟩ "/d" .plain).result = .ok sameItems := by
  have found : (Walk.collect sameContent ⟨[47, 115]⟩ "/d" false).result =
      .ok [.file ⟨[47, 115, 47, 97]⟩ "/d/a", .file ⟨[47, 115, 47, 98]⟩ "/d/b"] := by cbv
  refine plan_eq_ok_iff.mpr ⟨_, sameItems, [], Walk.collect_eq_ok_iff.mp found, ?_, .nil, rfl⟩
  exact .cons (.file _ (by cbv)) (.cons (.file _ (by cbv)) .nil)

theorem read_sameContent {bytes : Bytes} (isRead : sameContent.read path = .ok bytes) :
    bytes = [104, 105] := by
  rcases FileTree.mem_of_read isRead with ⟨place, mem⟩
  have either : place = [[115], [97]] ∧ bytes = [104, 105] ∨
      place = [[115], [98]] ∧ bytes = [104, 105] := by simpa [sameContent] using mem
  rcases either with ⟨-, same⟩ | ⟨-, same⟩
  · exact same
  · exact same

/-- A store that has the content of the two files already is not changed by uploading them. -/
theorem upload_phase_exact_sameContent :
    ∃ after : BlobStore, after ("live", .ofBytes [104, 105]) = some [104, 105] ∧
      (∀ checkExisting, ∃ uploads, Completes (fun question store => (refusalTo question, store))
        (uploadAll sameContent "live" checkExisting [] .none sameItems)
          (BlobStore.put (fun _ => none) "live" (.ofBytes [104, 105]) [104, 105]) uploads after) ∧
      after ("other", .ofBytes [104, 105]) = none := by
  have collisionFree : ∀ path other bytes otherBytes, sameContent.read path = .ok bytes →
      sameContent.read other = .ok otherBytes →
        ContentKey.ofBytes bytes = .ofBytes otherBytes → bytes = otherBytes := by
    intro path other bytes otherBytes isRead otherRead _
    rw [read_sameContent isRead, read_sameContent otherRead]
  have agrees : ∀ item ∈ sameItems, ∀ key path bytes held, item.target = .object key →
      item.source = some path → sameContent.read path = .ok bytes →
        BlobStore.put (fun _ => none) "live" (.ofBytes [104, 105]) [104, 105] ("live", key) =
          some held → held = bytes := by
    intro item mem key path bytes held isObject hasSource isRead isHeld
    have named : key = .ofBytes [104, 105] := by
      rcases List.mem_pair.mp mem with rfl | rfl
      · exact (Target.object.inj isObject).symm
      · exact (Target.object.inj isObject).symm
    rw [named, BlobStore.put_self] at isHeld
    rw [read_sameContent isRead, ← Option.some.inj isHeld]
  rcases upload_phase_exact (fun question store => (refusalTo question, store))
    ⟨"live", ⟨5, 1, 9⟩⟩ sameContent ⟨[47, 115]⟩ "/d" .plain sameItems
    (BlobStore.put (fun _ => none) "live" (.ofBytes [104, 105]) [104, 105]) plan_sameContent
    collisionFree agrees with ⟨after, uploading, -, has, untouched, -, -⟩
  refine ⟨after, ?_, uploading, ?_⟩
  · rcases has _ (.head _) _ rfl with ⟨path, bytes, -, isRead, isHeld⟩
    rw [isHeld, read_sameContent isRead]
  · rw [untouched _ fun item mem key isObject same => by simp at same]
    exact BlobStore.put_of_ne (by simp)

end SameContent

end Sync

end CdnPublish
