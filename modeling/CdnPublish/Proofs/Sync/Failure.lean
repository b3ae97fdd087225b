import CdnPublish.Proofs.Poll.Rounds
import CdnPublish.Proofs.Sync.Planning
import CdnPublish.Proofs.Sync.Refusal

/-!
# How a sync fails

A sync ends with the first step that fails. A plan that cannot be made asks nothing of anyone; after
it, every refusal is the last call, and the sync fails with it unchanged. A file is opened again to
be sent, in the tree as it is by then: a file that the system no longer opens ends the sync with
what the system says, and nothing is sent for it. Only a refused item is reported with what has
become of its publish. `Failure` lists the steps that can fail, each with every turn taken until
then. Nothing but the status of a task is ever asked for a second time.
-/

namespace CdnPublish

open Program Sync

namespace Sync

/-- All that precedes the publish has been done: the plan is made and has something to do, every
blob is stored, and the date is known from which the items are valid. -/
inductive Prepared (client : Client) (tree laterTree : FileTree) (source : LocalPath)
    (destination : String) (options : Options) (items : List Item) (date : String) :
    List GatewayTurn → Prop where
  | intro {stretches : List (List GatewayTurn)} {dated : List GatewayTurn}
      (planned : (plan tree source destination options).result = .ok items)
      (active : options.dryRun = false ∧ items ≠ [])
      (supplied : List.Forall₂ (Upload.Supplies laterTree client.env options.checkExisting)
        (dueBlobs [] items) stretches)
      (known : Runs (startDate options).run dated (some (.ok date))) :
      Prepared client tree laterTree source destination options items date
        (stretches.flatten ++ dated)

/-- The turns in which a publish is created and given items. -/
def registration (env : String) (publish : Publish) (date : String) (items : List Item) :
    List GatewayTurn :=
  Session.creationOf env (.ok publish) :: items.map (Session.additionOf publish date)

/-- The ways in which a sync fails: all turns up to the first failure, and the fault that it is
reported as. The plan is made from `tree`, and its files are opened again in `laterTree`. -/
inductive Failure (client : Client) (tree laterTree : FileTree) (source : LocalPath)
    (destination : String) (options : Options) : List GatewayTurn → SyncFault → Prop where
  | unplanned {fault : LocalFault}
      (unplannable : Unplannable tree source destination options fault) :
      Failure client tree laterTree source destination options [] (.ofLocal fault)
  /-- A blob could not be stored: the store refused it, or its file could not be opened. -/
  | unstored {items : List Item} {before after : List Upload.Blob} {blob : Upload.Blob}
      {stretches : List (List GatewayTurn)} {last : List GatewayTurn} {fault : SyncFault}
      (planned : (plan tree source destination options).result = .ok items)
      (active : options.dryRun = false ∧ items ≠ [])
      (split : dueBlobs [] items = before ++ blob :: after)
      (supplied : List.Forall₂ (Upload.Supplies laterTree client.env options.checkExisting)
        before stretches)
      (fails : Upload.Fails laterTree client.env options.checkExisting blob last fault) :
      Failure client tree laterTree source destination options (stretches.flatten ++ last) fault
  | uncreated {items : List Item} {date : String} {sofar : List GatewayTurn}
      (prepared : Prepared client tree laterTree source destination options items date sofar)
      (fault : SyncFault) :
      Failure client tree laterTree source destination options
        (sofar ++ [Session.creationOf client.env (.error fault)]) fault
  /-- An item was refused: its cause is reported with the publish and how far it has come. -/
  | refused {items before after : List Item} {item : Item} {date : String}
      {sofar : List GatewayTurn}
      (prepared : Prepared client tree laterTree source destination options items date sofar)
      (publish : Publish) (split : items = before ++ item :: after) (cause : SyncFault) :
      Failure client tree laterTree source destination options
        (sofar ++ registration client.env publish date before ++
          [Session.refusalOf publish date cause item])
        (.partialPublish publish before.length items.length cause)
  | denied {items : List Item} {date : String} {sofar : List GatewayTurn}
      (prepared : Prepared client tree laterTree source destination options items date sofar)
      (publish : Publish) (fault : SyncFault) :
      Failure client tree laterTree source destination options
        (sofar ++ registration client.env publish date items ++
          [Session.commitOf publish options.commitDeadline (.error fault)]) fault
  | lost {items : List Item} {date : String} {sofar polls : List GatewayTurn}
      (prepared : Prepared client tree laterTree source destination options items date sofar)
      (publish : Publish) (task : Task) (waits : options.wait = true) {fault : SyncFault}
      (polled : Runs (client.poller.awaitTask task).run polls (some (.error fault))) :
      Failure client tree laterTree source destination options
        (sofar ++ registration client.env publish date items ++
          Session.commitOf publish options.commitDeadline (.ok task) :: polls) fault
  | unlinked {items : List Item} {date : String} {sofar : List GatewayTurn}
      (prepared : Prepared client tree laterTree source destination options items date sofar)
      (publish : Publish) (task : Task) (leaves : options.wait = false)
      (unlinked : task.links.get? "self" = none) :
      Failure client tree laterTree source destination options
        (sofar ++ registration client.env publish date items ++
          [Session.commitOf publish options.commitDeadline (.ok task)])
        (.missingLink "task" task.id "self")

end Sync

namespace Client

variable {client : Client} {tree laterTree : FileTree} {source : LocalPath} {destination : String}
  {options : Options} {items : List Item} {date : String} {turns : List GatewayTurn}
  {session : Session} {task : Task} {fault : SyncFault}

theorem runs_conclude_error_iff (committed : session.state = .commitRequested) :
    Runs (client.conclude options session task).run turns (some (.error fault)) ↔
      (options.wait = true ∧
        Runs (client.poller.awaitTask task).run turns (some (.error fault))) ∨
      (options.wait = false ∧ task.links.get? "self" = none ∧ turns = [] ∧
        fault = .missingLink "task" task.id "self") := by
  unfold conclude
  cases options.wait with
  | true =>
      simp only [↓reduceIte, Bool.true_eq_false, false_and, or_false, true_and]
      rw [runs_run_bind_error_iff]
      refine ⟨fun either => either.resolve_left ?_, Or.inr⟩
      rintro ⟨before, ended, after, ran, goesOn, -⟩
      rcases Session.exists_finish_eq_ok committed (Poller.isTerminal_of_runs_awaitTask ran) with
        ⟨state, finished⟩
      rcases Workflow.runs_ofExcept_bind_iff.mp goesOn with ⟨_, -, kept⟩ | ⟨refusal, refused, -⟩
      · rcases runs_run_pure_iff.mp kept with ⟨-, never⟩
        cases never
      · cases finished.symm.trans refused
  | false =>
      simp only [Bool.false_eq_true, ↓reduceIte, false_and, false_or, true_and]
      rw [Workflow.runs_ofExcept_bind_iff]
      unfold Links.require
      constructor
      · rintro (⟨link, linked, told⟩ | ⟨refusal, refused, rfl, same⟩)
        · have noted := Workflow.runs_note_bind_iff.mp told
          rcases runs_run_pure_iff.mp noted with ⟨-, never⟩
          cases never
        · cases same
          cases linked : task.links.get? "self" with
          | some link =>
              rw [linked] at refused
              cases refused
          | none =>
              rw [linked] at refused
              cases refused
              exact ⟨rfl, rfl, rfl⟩
      · rintro ⟨unlinked, rfl, rfl⟩
        exact Or.inr ⟨_, by rw [unlinked], rfl, rfl⟩

/-- A course that ends with a fault is one of the failures, as a course names its own ending. -/
theorem failure_of_course {sofar : List GatewayTurn}
    (prepared : Prepared client tree laterTree source destination options items date sofar)
    (course : Course client options items date turns (some (.error fault))) :
    Failure client tree laterTree source destination options (sofar ++ turns) fault := by
  generalize ended : (some (.error fault) : Option (Except SyncFault (Publish × Task))) = ending
    at course
  cases course with
  | uncreated cause =>
      cases ended
      exact .uncreated prepared fault
  | refused publish split cause =>
      cases ended
      simpa [registration] using Failure.refused prepared publish split cause
  | denied publish cause =>
      cases ended
      simpa [registration] using Failure.denied prepared publish fault
  | granted publish task concluded =>
      rcases concluded with ⟨last, ran, same⟩
      cases last with
      | none => cases ended.trans same
      | some result =>
          cases result with
          | ok task => cases ended.trans same
          | error cause =>
              cases ended.trans same
              rcases (runs_conclude_error_iff rfl).mp ran with
                ⟨waits, polled⟩ | ⟨leaves, isUnlinked, rfl, rfl⟩
              · simpa [registration] using Failure.lost prepared publish task waits polled
              · simpa [registration] using Failure.unlinked prepared publish task leaves isUnlinked

theorem runs_sync_of_prepared {sofar : List GatewayTurn}
    (prepared : Prepared client tree laterTree source destination options items date sofar)
    (course : Course client options items date turns (some (.error fault))) :
    Runs (client.sync tree source destination options laterTree).run (sofar ++ turns)
      (some (.error fault)) := by
  cases prepared with
  | intro planned active supplied known =>
      rcases exists_runs_uploadAll_ok_iff.mpr ⟨_, supplied, rfl⟩ with ⟨uploads, stored⟩
      have published := runs_publishItems_iff.mpr ⟨_, date, _, known, course, rfl⟩
      have taken := SyncCourse.published planned active stored published
      rw [List.append_assoc]
      exact runs_sync_iff.mpr taken

theorem runs_sync_of_conclude {sofar : List GatewayTurn}
    (prepared : Prepared client tree laterTree source destination options items date sofar)
    (publish : Publish)
    (ran : Runs (client.conclude options
      ((Session.filled publish items.length).withState .commitRequested) task).run turns
      (some (.error fault))) :
    Runs (client.sync tree source destination options laterTree).run
      (sofar ++ registration client.env publish date items ++
        Session.commitOf publish options.commitDeadline (.ok task) :: turns)
      (some (.error fault)) := by
  have course := runs_sync_of_prepared prepared (.granted publish task ⟨_, ran, rfl⟩)
  simpa [registration] using course

theorem prepared_of_runs {before dated : List GatewayTurn} {uploads : Uploads}
    (planned : (plan tree source destination options).result = .ok items)
    (active : options.dryRun = false ∧ items ≠ [])
    (stored : Runs (uploadAll laterTree client.env options.checkExisting [] .none items).run before
      (some (.ok uploads)))
    (known : Runs (startDate options).run dated (some (.ok date))) :
    Prepared client tree laterTree source destination options items date (before ++ dated) := by
  rcases exists_runs_uploadAll_ok_iff.mp ⟨uploads, stored⟩ with ⟨stretches, supplied, rfl⟩
  exact .intro planned active supplied known

/-- A sync fails in the listed ways and in no other. -/
theorem runs_sync_error_iff :
    Runs (client.sync tree source destination options laterTree).run turns (some (.error fault)) ↔
      Failure client tree laterTree source destination options turns fault := by
  constructor
  · intro run
    generalize ended : (some (.error fault) : Option (Except SyncFault Report)) = ending at run
    cases runs_sync_iff.mp run with
    | unplanned planned =>
        cases ended
        exact .unplanned (plan_eq_error_iff.mp planned)
    | idle planned idle => cases ended
    | unstored planned active refused =>
        cases ended
        rcases runs_uploadAll_error_iff.mp refused with
          ⟨before, blob, after, stretches, last, split, supplied, fails, rfl⟩
        exact .unstored planned active split supplied fails
    | @published items before later uploads published planned active stored ran =>
        rcases runs_publishItems_iff.mp ran with ⟨dated, date, rest, known, course, rfl⟩
        have prepared := prepared_of_runs planned active stored known
        rw [← List.append_assoc]
        rcases published with _ | cause | done
        · cases ended
        · cases ended
          exact failure_of_course prepared course
        · cases ended
  · intro failure
    cases failure with
    | unplanned unplannable =>
        exact runs_sync_iff.mpr (.unplanned (plan_eq_error_iff.mpr unplannable))
    | unstored planned active split supplied fails =>
        refine runs_sync_iff.mpr (.unstored planned active (runs_uploadAll_error_iff.mpr ?_))
        exact ⟨_, _, _, _, _, split, supplied, fails, rfl⟩
    | uncreated prepared fault => exact runs_sync_of_prepared prepared (.uncreated fault)
    | refused prepared publish split cause =>
        have course := runs_sync_of_prepared prepared (.refused publish split cause)
        simpa [registration] using course
    | denied prepared publish fault =>
        have course := runs_sync_of_prepared prepared (.denied publish fault)
        simpa [registration] using course
    | lost prepared publish task waits polled =>
        refine runs_sync_of_conclude prepared publish ((runs_conclude_error_iff rfl).mpr ?_)
        exact Or.inl ⟨waits, polled⟩
    | unlinked prepared publish task leaves unlinked =>
        refine runs_sync_of_conclude prepared publish ((runs_conclude_error_iff rfl).mpr ?_)
        exact Or.inr ⟨leaves, unlinked, rfl, rfl⟩

end Client

section Exact

variable {tree laterTree : FileTree} {source : LocalPath} {destination : String} {options : Options}

theorem runs_sync_of_unplannable {client : Client} {fault : LocalFault} {turns : List GatewayTurn}
    {ending : Option (Except SyncFault Report)}
    (unplannable : Unplannable tree source destination options fault) :
    Runs (client.sync tree source destination options laterTree).run turns ending ↔
      turns = [] ∧ ending = some (.error (.ofLocal fault)) := by
  have planned : Runs (client.sync tree source destination options laterTree).run []
      (some (.error (.ofLocal fault))) := Client.runs_sync_error_iff.mpr (.unplanned unplannable)
  constructor
  · intro run
    exact planned.eq_of_append run
  · rintro ⟨rfl, rfl⟩
    exact planned

/-- How a sync fails, whatever becomes of the tree between the plan and the sending. Without a plan
it asks nothing and fails with what the plan fails with. It fails in the listed ways and in no
other, and a failing step is the last of a run. A refusal of anything but the status of a task is
followed by nothing and reported. -/
theorem sync_failure_exact (client : Client) (tree laterTree : FileTree) (source : LocalPath)
    (destination : String) (options : Options) :
    (∀ fault, (plan tree source destination options).result = .error fault ↔
      Unplannable tree source destination options fault) ∧
    (∀ fault, Unplannable tree source destination options fault → ∀ turns ending,
      Runs (client.sync tree source destination options laterTree).run turns ending ↔
        turns = [] ∧ ending = some (.error (.ofLocal fault))) ∧
    (∀ turns fault,
      Runs (client.sync tree source destination options laterTree).run turns (some (.error fault)) ↔
        Failure client tree laterTree source destination options turns fault) ∧
    (∀ turns fault, Failure client tree laterTree source destination options turns fault →
      ∀ more ending,
        Runs (client.sync tree source destination options laterTree).run (turns ++ more) ending →
          more = [] ∧ ending = some (.error fault)) ∧
    (∀ before turn after ending fault,
      Runs (client.sync tree source destination options laterTree).run (before ++ turn :: after)
        ending →
      turn.question.kind ≠ .poll → refusal? turn = some fault →
        after = [] ∧ ∃ reported, ending = some (.error reported) ∧ ReportedAs fault reported) := by
  refine ⟨fun fault => plan_eq_error_iff, ?_, fun turns fault => Client.runs_sync_error_iff, ?_, ?_⟩
  · intro fault unplannable turns ending
    exact runs_sync_of_unplannable unplannable
  · intro turns fault failure more ending run
    exact (Client.runs_sync_error_iff.mpr failure).eq_of_append run
  · intro before turn after ending fault run isCall refused
    exact (Client.stopsRefused_of_runs_sync run).of_split rfl isCall refused

/-- The choices of a plain sync that also removes a path that climbs. -/
def climbingRemoval : Options :=
  { Options.plain with remove := ["/d/old", "/d/../x"] }

theorem unplannable_climbingRemoval :
    Unplannable singleFile singlePath "/d" climbingRemoval
      (.invalidPath ⟨"/d/../x", .parentSegment⟩) := by
  have collected : (Walk.collect singleFile singlePath "/d" false).result =
      .ok [.file singlePath "/d/f"] := by cbv
  refine .unremovable (Walk.collect_eq_ok_iff.mp collected) ?_
    (show climbingRemoval.remove = ["/d/old"] ++ "/d/../x" :: [] from rfl) ?_ (by cbv)
  · intro path dest mem
    cases List.mem_singleton.mp mem
    exact ⟨[104, 105], by cbv⟩
  · intro earlier mem
    cases List.mem_singleton.mp mem
    exact ⟨"/d/old", by cbv⟩

theorem prepared_singleFile :
    Prepared ⟨"live", ⟨5, 1, 9⟩⟩ singleFile singleFile singlePath "/d" .plain [singleItem] "now"
      [Upload.putOf "live" (.ofBytes [104, 105]) ⟨2, .ok [104, 105]⟩ (.ok ()),
        ⟨.currentDate, "now"⟩] := by
  have opened : singleFile.openAt singlePath = .ok ⟨2, .ok [104, 105]⟩ := by cbv
  have supplied : List.Forall₂
      (Upload.Supplies singleFile (Client.mk "live" ⟨5, 1, 9⟩).env Options.plain.checkExisting)
      (dueBlobs [] [singleItem]) [_] := .cons (.sent _ opened) .nil
  have dated : Runs (startDate .plain).run [⟨.currentDate, "now"⟩] (some (.ok "now")) :=
    Client.runs_startDate_iff.mpr (Or.inr ⟨rfl, "now", rfl, rfl⟩)
  exact .intro plan_singleFile ⟨rfl, List.cons_ne_nil _ _⟩ supplied dated

/-- A publish that says nothing but its name. -/
def newPublish : Publish := ⟨"p", .none, none, none⟩

/-- The fault of a request whose answer never comes. -/
def lostAnswer : SyncFault := .transport "u" "lost"

/-- The turns in which the one file is stored and the answer to its item is lost. -/
def refusedTurns : List GatewayTurn :=
  [Upload.putOf "live" (.ofBytes [104, 105]) ⟨2, .ok [104, 105]⟩ (.ok ()), ⟨.currentDate, "now"⟩,
    Session.creationOf "live" (.ok newPublish),
    Session.refusalOf newPublish "now" lostAnswer singleItem]

theorem failure_refusedTurns :
    Failure ⟨"live", ⟨5, 1, 9⟩⟩ singleFile singleFile singlePath "/d" .plain refusedTurns
      (.partialPublish newPublish 0 1 lostAnswer) :=
  Failure.refused prepared_singleFile newPublish
    (show [singleItem] = [] ++ singleItem :: [] from rfl) lostAnswer

/-- The one file once the system no longer opens it. -/
def lockedFile : FileTree :=
  { singleFile with refusals := [([[102]], .opening .permissionDenied)] }

/-- The turn in which the store says that it does not have the one file. -/
def lockedTurns : List GatewayTurn :=
  [Upload.lookupOf "live" (.ofBytes [104, 105]) (.ok false)]

/-- The fault that names the file and what the system says of it. -/
def lockedFault : SyncFault := .ofLocal (.unreadable singlePath .permissionDenied)

theorem failure_lockedTurns :
    Failure ⟨"live", ⟨5, 1, 9⟩⟩ singleFile lockedFile singlePath "/d" askingOptions lockedTurns
      lockedFault := by
  have planned : (plan singleFile singlePath "/d" askingOptions).result = .ok [singleItem] :=
    plan_singleFile
  have closed : lockedFile.openAt singlePath = .error .permissionDenied := by cbv
  have fails : Upload.Fails lockedFile "live" true (.ofBytes [104, 105], singlePath) lockedTurns
      lockedFault := .unopened _ closed
  exact .unstored planned ⟨rfl, List.cons_ne_nil _ _⟩
    (show dueBlobs [] [singleItem] = [] ++ (.ofBytes [104, 105], singlePath) :: [] from rfl)
    .nil fails

/-- A removal that climbs is refused before anything is asked. A file that has been planned and is
not opened any more ends the sync, and nothing is sent for it. A lost answer to the one item ends
the sync, which then has published nothing. -/
theorem sync_failure_exact_singleFile :
    (∀ turns ending, Runs
      ((Client.mk "live" ⟨5, 1, 9⟩).sync singleFile singlePath "/d" climbingRemoval).run
      turns ending ↔ turns = [] ∧
        ending = some (.error (.ofLocal (.invalidPath ⟨"/d/../x", .parentSegment⟩)))) ∧
    Runs ((Client.mk "live" ⟨5, 1, 9⟩).sync singleFile singlePath "/d" askingOptions
      lockedFile).run lockedTurns (some (.error lockedFault)) ∧
    (∀ more ending, Runs ((Client.mk "live" ⟨5, 1, 9⟩).sync singleFile singlePath "/d"
      askingOptions lockedFile).run (lockedTurns ++ more) ending →
        more = [] ∧ ending = some (.error lockedFault)) ∧
    Runs ((Client.mk "live" ⟨5, 1, 9⟩).sync singleFile singlePath "/d" .plain).run refusedTurns
      (some (.error (.partialPublish newPublish 0 1 lostAnswer))) ∧
    (∀ more ending, Runs ((Client.mk "live" ⟨5, 1, 9⟩).sync singleFile singlePath "/d" .plain).run
      (refusedTurns ++ more) ending →
        more = [] ∧ ending = some (.error (.partialPublish newPublish 0 1 lostAnswer))) := by
  have climbs :=
    sync_failure_exact ⟨"live", ⟨5, 1, 9⟩⟩ singleFile singleFile singlePath "/d" climbingRemoval
  have locked :=
    sync_failure_exact ⟨"live", ⟨5, 1, 9⟩⟩ singleFile lockedFile singlePath "/d" askingOptions
  have plain := sync_failure_exact ⟨"live", ⟨5, 1, 9⟩⟩ singleFile singleFile singlePath "/d" .plain
  refine ⟨climbs.2.1 _ unplannable_climbingRemoval, ?_, ?_, ?_, ?_⟩
  · exact (locked.2.2.1 _ _).mpr failure_lockedTurns
  · exact locked.2.2.2.1 _ _ failure_lockedTurns
  · exact (plain.2.2.1 _ _).mpr failure_refusedTurns
  · intro more ending run
    have ends := plain.2.2.2.1 _ _ failure_refusedTurns more ending run
    have isLast := plain.2.2.2.2 refusedTurns.dropLast
      (Session.refusalOf newPublish "now" lostAnswer singleItem) more ending _ run (by decide) rfl
    exact ⟨isLast.1, ends.2⟩

end Exact

end CdnPublish
