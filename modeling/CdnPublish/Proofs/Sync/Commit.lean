import CdnPublish.Proofs.Gateway.Kinds
import CdnPublish.Proofs.Sync.Course
import Mathlib

/-!
# What precedes a commit

The calls of a sync fall into phases: the store is dealt with first, then a publish is created, the
items are added, the commit is asked for, and its task is followed. A phase may be cut short, and
then no later phase has begun. A commit is therefore only asked for when the store has the blob of
every item, and when the publish has been given every item of the plan, once and in order.
-/

namespace CdnPublish

open Program

namespace Sync

/-- The calls of a sync, phase by phase. -/
structure Phases where
  uploads : List GatewayTurn
  creation : List GatewayTurn
  additions : List GatewayTurn
  commit : List GatewayTurn
  polls : List GatewayTurn

namespace Phases

/-- All calls in order. -/
def calls (phases : Phases) : List GatewayTurn :=
  phases.uploads ++ phases.creation ++ phases.additions ++ phases.commit ++ phases.polls

/-- Each phase holds calls of its own kind; there is at most one creation and one commit. -/
structure Ordered (phases : Phases) : Prop where
  uploads : OfKind .blob phases.uploads
  creation : OfKind .creation phases.creation
  creation_le : phases.creation.length ≤ 1
  additions : OfKind .addition phases.additions
  commit : OfKind .commit phases.commit
  commit_le : phases.commit.length ≤ 1
  polls : OfKind .poll phases.polls

/-- The one publish has been created and given exactly these items from one date on, and its commit
is asked for. -/
def Registered (phases : Phases) (client : Client) (options : Options) (items : List Item)
    (date : String) : Prop :=
  ∃ publish answer, phases.creation = [Session.creationOf client.env (.ok publish)] ∧
    phases.additions = items.map (Session.additionOf publish date) ∧
    phases.commit = [Session.commitOf publish options.commitDeadline answer]

/-- The blob of every object item with a source is stored. -/
def Supplied (phases : Phases) (client : Client) (options : Options) (items : List Item) : Prop :=
  ∀ item ∈ items, ∀ key source, item.target = .object key → item.source = some source →
    Upload.Stored client.env options.checkExisting key phases.uploads

/-- Only what follows the commit may hold questions about the time. -/
theorem Ordered.calls_eq {phases : Phases} (ordered : phases.Ordered) (later : List GatewayTurn)
    (polls : phases.polls = CdnPublish.calls later) :
    CdnPublish.calls (phases.uploads ++ phases.creation ++ phases.additions ++ phases.commit ++
      later) = phases.calls := by
  simp only [calls_append, calls, polls]
  rw [ordered.uploads.calls_eq (by decide), ordered.creation.calls_eq (by decide),
    ordered.additions.calls_eq (by decide), ordered.commit.calls_eq (by decide)]

end Phases

end Sync

open Sync

variable {client : Client} {options : Options} {items : List Item} {date : String}
  {turns : List GatewayTurn}

namespace Session

theorem ofKind_creation (env : String) (answer : Except SyncFault Publish) :
    OfKind .creation [creationOf env answer] :=
  ofKind_singleton rfl

theorem ofKind_additions (publish : Publish) (date : String) (items : List Item) :
    OfKind .addition (items.map (additionOf publish date)) := by
  intro turn mem
  rcases List.mem_map.mp mem with ⟨item, -, rfl⟩
  rfl

theorem ofKind_refused (publish : Publish) (date : String) (items : List Item) (cause : SyncFault)
    (item : Item) :
    OfKind .addition
      (items.map (additionOf publish date) ++ [refusalOf publish date cause item]) := by
  intro turn mem
  rcases List.mem_append.mp mem with taken | refused
  · exact ofKind_additions publish date items turn taken
  · exact ofKind_singleton rfl turn refused

theorem ofKind_commit (publish : Publish) (deadline : Option String)
    (answer : Except SyncFault Task) : OfKind .commit [commitOf publish deadline answer] :=
  ofKind_singleton rfl

end Session

theorem ofKind_of_runs_startDate {ending : Option (Except SyncFault String)}
    (run : Runs (startDate options).run turns ending) : OfKind .time turns := by
  rcases Client.runs_startDate_iff.mp run with ⟨date, -, rfl, -⟩ | ⟨-, date, rfl, -⟩
  · exact ofKind_nil
  · exact ofKind_singleton rfl

/-- The calls of a course from the creation of a publish on. -/
theorem Client.Course.exists_phases {ending : Option (Except SyncFault (Publish × Task))}
    (course : Course client options items date turns ending) :
    ∃ phases : Phases, phases.uploads = [] ∧ calls turns = phases.calls ∧ phases.Ordered ∧
      (phases.commit ≠ [] → phases.Registered client options items date) := by
  cases course with
  | uncreated fault =>
      have ordered : Phases.Ordered
          ⟨[], [Session.creationOf client.env (.error fault)], [], [], []⟩ :=
        ⟨ofKind_nil, Session.ofKind_creation _ _, Nat.le_refl 1, ofKind_nil, ofKind_nil,
          Nat.zero_le 1, ofKind_nil⟩
      have made := ordered.calls_eq [] rfl
      exact ⟨_, rfl, by simpa using made, ordered, fun impossible => absurd rfl impossible⟩
  | @refused publish before after item split cause =>
      have ordered : Phases.Ordered
          ⟨[], [Session.creationOf client.env (.ok publish)],
            before.map (Session.additionOf publish date) ++
              [Session.refusalOf publish date cause item], [], []⟩ :=
        ⟨ofKind_nil, Session.ofKind_creation _ _, Nat.le_refl 1,
          Session.ofKind_refused _ _ _ _ _, ofKind_nil, Nat.zero_le 1, ofKind_nil⟩
      have made := ordered.calls_eq [] rfl
      exact ⟨_, rfl, by simpa using made, ordered, fun impossible => absurd rfl impossible⟩
  | denied publish fault =>
      have ordered : Phases.Ordered
          ⟨[], [Session.creationOf client.env (.ok publish)],
            items.map (Session.additionOf publish date),
            [Session.commitOf publish options.commitDeadline (.error fault)], []⟩ :=
        ⟨ofKind_nil, Session.ofKind_creation _ _, Nat.le_refl 1, Session.ofKind_additions _ _ _,
          Session.ofKind_commit _ _ _, Nat.le_refl 1, ofKind_nil⟩
      have made := ordered.calls_eq [] rfl
      exact ⟨_, rfl, by simpa using made, ordered, fun _ => ⟨publish, .error fault, rfl, rfl, rfl⟩⟩
  | @granted publish task later _ concluded =>
      rcases concluded with ⟨ended, run, -⟩
      have polls : OfKind .poll (calls later) :=
        ofKind_calls (run.asks_allowed (client.asksOnly_conclude ..))
      have ordered : Phases.Ordered
          ⟨[], [Session.creationOf client.env (.ok publish)],
            items.map (Session.additionOf publish date),
            [Session.commitOf publish options.commitDeadline (.ok task)], calls later⟩ :=
        ⟨ofKind_nil, Session.ofKind_creation _ _, Nat.le_refl 1, Session.ofKind_additions _ _ _,
          Session.ofKind_commit _ _ _, Nat.le_refl 1, polls⟩
      have made := ordered.calls_eq later rfl
      exact ⟨_, rfl, by simpa using made, ordered, fun _ => ⟨publish, .ok task, rfl, rfl, rfl⟩⟩

/-- A sync goes through its phases in order. Before it asks for a commit, the blob of every planned
object has been stored, and the one publish has taken the records of all planned items, in the order
of the plan and from one date on. -/
theorem sync_commit_safe (client : Client) (tree laterTree : FileTree) (source : LocalPath)
    (destination : String) (options : Options) {ending : Option (Except SyncFault Report)}
    (run : Runs (client.sync tree source destination options laterTree).run turns ending) :
    ∃ phases : Phases, calls turns = phases.calls ∧ phases.Ordered ∧
      (phases.commit ≠ [] → ∃ items date,
        (plan tree source destination options).result = .ok items ∧
        phases.Supplied client options items ∧ phases.Registered client options items date) := by
  have none : Phases.Ordered ⟨[], [], [], [], []⟩ :=
    ⟨ofKind_nil, ofKind_nil, Nat.zero_le 1, ofKind_nil, ofKind_nil, Nat.zero_le 1, ofKind_nil⟩
  cases Client.runs_sync_iff.mp run with
  | unplanned planned => exact ⟨_, rfl, none, fun impossible => absurd rfl impossible⟩
  | idle planned idle => exact ⟨_, rfl, none, fun impossible => absurd rfl impossible⟩
  | unstored planned active refused =>
      have blobs : OfKind .blob turns := refused.asks_allowed (asksOnly_uploadAll _ _ _ _ _ _)
      refine ⟨⟨turns, [], [], [], []⟩, ?_, { none with uploads := blobs },
        fun impossible => absurd rfl impossible⟩
      rw [blobs.calls_eq (by decide)]
      simp [Phases.calls]
  | @published items before later uploads ended planned active stored published =>
      have blobs : OfKind .blob before := stored.asks_allowed (asksOnly_uploadAll _ _ _ _ _ _)
      rcases Client.runs_publishItems_iff.mp published with ⟨dated, date, rest, ran, course, rfl⟩
      rcases course.exists_phases with ⟨phases, unstarted, made, ordered, registered⟩
      refine ⟨{ phases with uploads := before }, ?_, { ordered with uploads := blobs }, ?_⟩
      · rw [calls_append, calls_append, (ofKind_of_runs_startDate ran).calls_eq_nil, made,
          blobs.calls_eq (by decide)]
        simp [Phases.calls, unstarted]
      · intro asked
        refine ⟨items, date, planned, ?_, registered asked⟩
        intro item mem key source isObject hasSource
        have known : blob? item = some (key, source) := by
          simp [blob?, Item.contentKey?, isObject, hasSource]
        rcases (stored_of_runs_uploadAll stored).1 item mem key source known with isSeen | isStored
        · cases isSeen
        · exact isStored

section SingleFile

/-- A tree with one file, which stands right below the root. -/
def singleFile : FileTree := ⟨[([[102]], .file [104, 105])], [], []⟩

/-- The path of the file. -/
def singlePath : LocalPath := ⟨[47, 102]⟩

/-- The item that is planned for the file. -/
def singleItem : Item := ⟨some singlePath, "/d/f", .object (.ofBytes [104, 105]), none⟩

theorem plan_singleFile : (plan singleFile singlePath "/d" .plain).result = .ok [singleItem] := by
  have content : singleFile.read singlePath = .ok [104, 105] := by cbv
  have found : (Walk.collect singleFile singlePath "/d" false).result =
      .ok [.file singlePath "/d/f"] := by cbv
  have item : (itemOf singleFile (.file singlePath "/d/f")).result = .ok singleItem := by
    simp only [itemOf, Narrated.result_bind, Narrated.result_silent, content]
    rfl
  have hashed : (hashTree singleFile singlePath "/d" false).result = .ok [singleItem] := by
    simp only [hashTree, Narrated.result_bind, found]
    change (itemOf singleFile (.file singlePath "/d/f") >>= fun item =>
      List.mapM.loop (itemOf singleFile) [] [item]).result = _
    rw [Narrated.result_bind, item]
    rfl
  simp only [plan, Narrated.result_bind, Options.plain, hashed]
  rfl

/-- The choices of a sync that asks the store before it sends. -/
def askingOptions : Options :=
  { Options.plain with checkExisting := true }

/-- The choices of a plain sync whose commit has a deadline, or none. -/
def Sync.Options.byDeadline (deadline : Option String) : Options :=
  { Options.plain with commitDeadline := deadline }

/-- The turns in which the one file is stored, registered and committed by a deadline, or without
one. -/
def datedTurns (deadline : Option String) (publish : Publish) : List GatewayTurn :=
  [Upload.putOf "live" (.ofBytes [104, 105]) ⟨2, .ok [104, 105]⟩ (.ok ()), ⟨.currentDate, "now"⟩,
    Session.creationOf "live" (.ok publish), Session.additionOf publish "now" singleItem,
    Session.commitOf publish deadline (.ok ⟨"t", .complete, .none, none, none, none⟩)]

/-- The turns in which the one file is stored, registered and committed. -/
def singleTurns (publish : Publish) : List GatewayTurn :=
  datedTurns none publish

/-- The one file is published by any client of the environment whose tasks it waits for. -/
theorem runs_sync_byDeadline (interval retries patience : Nat) (deadline : Option String)
    (publish : Publish) :
    Runs ((Client.mk "live" ⟨interval, retries, patience + 1⟩).sync singleFile singlePath "/d"
        (.byDeadline deadline)).run
      (datedTurns deadline publish)
      (some (.ok ⟨[singleItem], ⟨1, 0⟩, some publish,
        some ⟨"t", .complete, .none, none, none, none⟩, false⟩)) := by
  have planned : (plan singleFile singlePath "/d" (.byDeadline deadline)).result =
      .ok [singleItem] := plan_singleFile
  have opened : Upload.openSource singleFile singlePath = .ok ⟨2, .ok [104, 105]⟩ := by cbv
  have sent : Runs (Upload.send singleFile "live" (.ofBytes [104, 105]) singlePath).run
      [Upload.putOf "live" (.ofBytes [104, 105]) ⟨2, .ok [104, 105]⟩ (.ok ())] (some (.ok ())) :=
    Upload.runs_send_iff.mpr (Or.inr ⟨_, .ok (), opened, rfl, rfl⟩)
  have ensured : Runs (Upload.ensure singleFile "live" false (.ofBytes [104, 105]) singlePath).run
      [Upload.putOf "live" (.ofBytes [104, 105]) ⟨2, .ok [104, 105]⟩ (.ok ())]
      (some (.ok .uploaded)) :=
    Upload.runs_ensure_iff.mpr (Or.inr (Or.inr ⟨_, _, sent, rfl, rfl⟩))
  have stored : Runs (uploadAll singleFile "live" false [] .none [singleItem]).run
      [Upload.putOf "live" (.ofBytes [104, 105]) ⟨2, .ok [104, 105]⟩ (.ok ())]
      (some (.ok ⟨1, 0⟩)) := by
    rw [uploadAll_cons_of_due rfl List.not_mem_nil]
    exact runs_run_bind_iff.mpr (Or.inl ⟨_, _, [], ensured, .done _, rfl⟩)
  have concluded : Client.Concluded ⟨"live", ⟨interval, retries, patience + 1⟩⟩
      (.byDeadline deadline) (Session.filled publish [singleItem].length)
      ⟨"t", .complete, .none, none, none, none⟩ []
      (some (.ok (publish, ⟨"t", .complete, .none, none, none, none⟩))) :=
    ⟨_, .tell (.done _), rfl⟩
  have course : Client.Course ⟨"live", ⟨interval, retries, patience + 1⟩⟩ (.byDeadline deadline)
      [singleItem] "now" _ _ := .granted _ _ concluded
  have dated : Runs (startDate (.byDeadline deadline)).run [⟨.currentDate, "now"⟩]
      (some (.ok "now")) :=
    Client.runs_startDate_iff.mpr (Or.inr ⟨rfl, "now", rfl, rfl⟩)
  have published := Client.runs_publishItems_iff.mpr ⟨_, _, _, dated, course, rfl⟩
  have committed : Client.SyncCourse ⟨"live", ⟨interval, retries, patience + 1⟩⟩ singleFile
      singleFile singlePath "/d" (.byDeadline deadline) _ _ :=
    .published planned ⟨rfl, List.cons_ne_nil _ _⟩ stored published
  exact Client.runs_sync_iff.mpr committed

theorem runs_sync_singleFile (publish : Publish) :
    Runs ((Client.mk "live" ⟨5, 1, 9⟩).sync singleFile singlePath "/d" .plain).run
      (singleTurns publish)
      (some (.ok ⟨[singleItem], ⟨1, 0⟩, some publish,
        some ⟨"t", .complete, .none, none, none, none⟩, false⟩)) :=
  runs_sync_byDeadline 5 1 8 none publish

/-- The one file is stored, registered and committed. -/
theorem sync_commit_safe_singleFile :
    Runs ((Client.mk "live" ⟨5, 1, 9⟩).sync singleFile singlePath "/d" .plain).run
      (singleTurns ⟨"p", .none, none, none⟩)
      (some (.ok ⟨[singleItem], ⟨1, 0⟩, some ⟨"p", .none, none, none⟩,
        some ⟨"t", .complete, .none, none, none, none⟩, false⟩)) ∧
    ∃ phases : Phases, calls (singleTurns ⟨"p", .none, none, none⟩) = phases.calls ∧
      phases.Ordered ∧
      (phases.commit ≠ [] → ∃ items date,
        (plan singleFile singlePath "/d" .plain).result = .ok items ∧
        phases.Supplied ⟨"live", ⟨5, 1, 9⟩⟩ .plain items ∧
        phases.Registered ⟨"live", ⟨5, 1, 9⟩⟩ .plain items date) :=
  ⟨runs_sync_singleFile _, sync_commit_safe _ _ _ _ _ _ (runs_sync_singleFile _)⟩

end SingleFile

end CdnPublish
