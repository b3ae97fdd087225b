import CdnPublish.Proofs.Session.Steps
import CdnPublish.Proofs.Upload.Blobs

/-!
# The courses of a sync

A sync has few courses. Once its blobs are stored, it creates a publish, adds the items up to the
first that is refused, and asks for the commit; whatever is refused ends it there. `Course` lists
these courses with every turn taken and with the end, and a run is nothing but one of them.
-/

namespace CdnPublish

open Program Sync

/-- The turn in which a publish is asked for. -/
def Session.creationOf (env : String) (answer : Except SyncFault Publish) : GatewayTurn :=
  ⟨.createPublish env, answer⟩

/-- The session of a publish that has taken as many items as intended. -/
def Session.filled (publish : Publish) (count : Nat) : Session :=
  (ofPublish publish count).withMore count

theorem Session.filled_complete (publish : Publish) (count : Nat) :
    (filled publish count).added = (filled publish count).intended :=
  Nat.zero_add count

/-- A publish that is abandoned counts the items that it has taken. -/
theorem Session.abandonment_ofPublish (publish : Publish) (count intended : Nat)
    (cause : SyncFault) :
    ((ofPublish publish intended).withMore count).abandonment cause =
      .partialPublish publish count intended cause :=
  congrArg (SyncFault.partialPublish publish · intended cause) (Nat.zero_add count)

namespace Client

/-- The part of publishing that is left once the items have been taken. -/
def settle (client : Client) (options : Options) (session : Session) :
    Workflow (Publish × Task) := do
  let (committed, task) ← afterStep (session.commit options.commitDeadline)
  let ended ← client.conclude options committed task
  return (committed.publish, ended)

/-- The part of publishing that is left once the date is known. -/
def register (client : Client) (options : Options) (items : List Item) (date : String) :
    Workflow (Publish × Task) := do
  let created ← Session.create client.env items.length
  let (filled, _) ← afterStep (created.addItems date items)
  client.settle options filled

theorem publishItems_eq (client : Client) (options : Options) (items : List Item) :
    client.publishItems options items = startDate options >>= client.register options items := rfl

/-- What a commit task leads to: the rest of the run and its end. -/
def Concluded (client : Client) (options : Options) (session : Session) (task : Task)
    (turns : List GatewayTurn) (ending : Option (Except SyncFault (Publish × Task))) : Prop :=
  ∃ ended,
    Runs (client.conclude options (session.withState .commitRequested) task).run turns ended ∧
    ending = ended.map (Except.map fun task => (session.publish, task))

/-- The courses of publishing items from a date on. -/
inductive Course (client : Client) (options : Options) (items : List Item) (date : String) :
    List GatewayTurn → Option (Except SyncFault (Publish × Task)) → Prop where
  | uncreated (fault : SyncFault) :
      Course client options items date [Session.creationOf client.env (.error fault)]
        (some (.error fault))
  | refused (publish : Publish) {before after : List Item} {item : Item}
      (split : items = before ++ item :: after) (cause : SyncFault) :
      Course client options items date
        (Session.creationOf client.env (.ok publish) ::
          (before.map (Session.additionOf publish date) ++
            [Session.refusalOf publish date cause item]))
        (some (.error (.partialPublish publish before.length items.length cause)))
  | denied (publish : Publish) (fault : SyncFault) :
      Course client options items date
        (Session.creationOf client.env (.ok publish) ::
          (items.map (Session.additionOf publish date) ++
            [Session.commitOf publish options.commitDeadline (.error fault)]))
        (some (.error fault))
  | granted (publish : Publish) (task : Task) {later : List GatewayTurn}
      {ending : Option (Except SyncFault (Publish × Task))}
      (concluded :
        client.Concluded options (Session.filled publish items.length) task later ending) :
      Course client options items date
        (Session.creationOf client.env (.ok publish) ::
          (items.map (Session.additionOf publish date) ++
            Session.commitOf publish options.commitDeadline (.ok task) :: later))
        ending

/-- The courses of a sync: there is no plan, there is nothing to do, a blob could not be stored, or
the items are published. -/
inductive SyncCourse (client : Client) (tree laterTree : FileTree) (source : LocalPath)
    (destination : String) (options : Options) :
    List GatewayTurn → Option (Except SyncFault Report) → Prop where
  | unplanned {fault : LocalFault}
      (planned : (plan tree source destination options).result = .error fault) :
      SyncCourse client tree laterTree source destination options []
        (some (.error (.ofLocal fault)))
  | idle {items : List Item}
      (planned : (plan tree source destination options).result = .ok items)
      (idle : options.dryRun = true ∨ items = []) :
      SyncCourse client tree laterTree source destination options []
        (some (.ok (.planned items options.dryRun)))
  | unstored {items : List Item} {turns : List GatewayTurn} {fault : SyncFault}
      (planned : (plan tree source destination options).result = .ok items)
      (active : options.dryRun = false ∧ items ≠ [])
      (refused : Runs (uploadAll laterTree client.env options.checkExisting [] .none items).run
        turns (some (.error fault))) :
      SyncCourse client tree laterTree source destination options turns (some (.error fault))
  | published {items : List Item} {before later : List GatewayTurn} {uploads : Uploads}
      {ended : Option (Except SyncFault (Publish × Task))}
      (planned : (plan tree source destination options).result = .ok items)
      (active : options.dryRun = false ∧ items ≠ [])
      (stored : Runs (uploadAll laterTree client.env options.checkExisting [] .none items).run
        before (some (.ok uploads)))
      (published : Runs (client.publishItems options items).run later ended) :
      SyncCourse client tree laterTree source destination options (before ++ later)
        (ended.map (Except.map fun done =>
          ⟨items, uploads, some done.1, some done.2, options.dryRun⟩))

section Parts

variable {client : Client} {options : Options} {items : List Item} {date : String}
  {session : Session} {turns : List GatewayTurn}

theorem runs_startDate_iff {ending : Option (Except SyncFault String)} :
    Runs (startDate options).run turns ending ↔
      (∃ date, options.fromDate = some date ∧ turns = [] ∧ ending = some (.ok date)) ∨
      (options.fromDate = none ∧ ∃ date, turns = [⟨.currentDate, date⟩] ∧
        ending = some (.ok date)) := by
  unfold startDate
  cases options.fromDate with
  | some date => simp
  | none =>
      constructor
      · intro run
        rcases runs_ask_iff.mp run with ⟨date, later, ran, rfl⟩
        rcases runs_done_iff.mp ran with ⟨rfl, rfl⟩
        exact Or.inr ⟨rfl, date, rfl, rfl⟩
      · rintro (⟨date, impossible, -⟩ | ⟨-, date, rfl, rfl⟩)
        · cases impossible
        · exact .ask date (.done _)

theorem afterStep_eq {Result : Type} (step : GatewayProgram (Session.Step Result)) :
    afterStep step = .ofAnswer (step >>= fun given =>
      pure (given.2.map fun result => (given.1, result))) := by
  apply congrArg Workflow.ofAnswer
  apply congrArg (step >>= ·)
  funext given
  rcases given with ⟨session, fault | result⟩
  · rfl
  · rfl

/-- A step of a session goes on with the session after it, or ends with its fault. -/
theorem runs_afterStep_iff {Result : Type} {step : GatewayProgram (Session.Step Result)}
    {ending : Option (Except SyncFault (Session × Result))} :
    Runs (afterStep step).run turns ending ↔
      ∃ ended, Runs step turns ended ∧
        ending = ended.map fun given => given.2.map fun result => (given.1, result) := by
  rw [afterStep_eq, Workflow.run_ofAnswer, runs_bind_pure_iff]

/-- What is left once a publish has all its items: the commit is asked for, and its task concludes
the run. -/
theorem runs_settle_iff (isOpen : session.state = .opened)
    (complete : session.added = session.intended)
    {ending : Option (Except SyncFault (Publish × Task))} :
    Runs (client.settle options session).run turns ending ↔
      (∃ fault, turns = [Session.commitOf session.publish options.commitDeadline (.error fault)] ∧
        ending = some (.error fault)) ∨
      (∃ task later, client.Concluded options session task later ending ∧
        turns = Session.commitOf session.publish options.commitDeadline (.ok task) :: later) := by
  unfold settle
  rw [runs_run_bind_iff]
  simp only [runs_afterStep_iff, Session.runs_commit_of_complete isOpen complete]
  constructor
  · rintro (⟨before, given, later, ⟨ended, ⟨answer, rfl, rfl⟩, same⟩, goesOn, rfl⟩ |
      ⟨fault, ⟨ended, ⟨answer, rfl, rfl⟩, same⟩, rfl⟩ | ⟨⟨ended, ⟨answer, rfl, rfl⟩, same⟩, -⟩)
    · cases answer with
      | error fault => cases same
      | ok task =>
          cases same
          rcases runs_run_bind_pure_iff.mp goesOn with ⟨ended, ran, rfl⟩
          exact Or.inr ⟨task, later, ⟨ended, ran, rfl⟩, rfl⟩
    · cases answer with
      | error cause =>
          cases same
          exact Or.inl ⟨fault, rfl, rfl⟩
      | ok task => cases same
    · cases same
  · rintro (⟨fault, rfl, rfl⟩ | ⟨task, later, ⟨ended, ran, rfl⟩, rfl⟩)
    · exact Or.inr (Or.inl ⟨fault, ⟨_, ⟨.error fault, rfl, rfl⟩, rfl⟩, rfl⟩)
    · refine Or.inl ⟨[_], (session.withState .commitRequested, task), later,
        ⟨_, ⟨.ok task, rfl, rfl⟩, rfl⟩, ?_, rfl⟩
      exact runs_run_bind_pure_iff.mpr ⟨ended, ran, rfl⟩

/-- An open session is given the items up to the first that is refused, and settled if none is. -/
theorem runs_fill_iff (isOpen : session.state = .opened)
    {ending : Option (Except SyncFault (Publish × Task))} :
    Runs (afterStep (session.addItems date items) >>= fun given =>
      client.settle options given.1).run turns ending ↔
      (∃ before item after cause, items = before ++ item :: after ∧
        turns = before.map (Session.additionOf session.publish date) ++
          [Session.refusalOf session.publish date cause item] ∧
        ending = some (.error ((session.withMore before.length).abandonment cause))) ∨
      (∃ later, Runs (client.settle options (session.withMore items.length)).run later ending ∧
        turns = items.map (Session.additionOf session.publish date) ++ later) := by
  rw [runs_run_bind_iff]
  simp only [runs_afterStep_iff, Session.runs_addItems_of_opened isOpen]
  constructor
  · rintro (⟨first, given, later, ⟨ended, taken | refused, same⟩, goesOn, rfl⟩ |
      ⟨fault, ⟨ended, taken | refused, same⟩, rfl⟩ | ⟨⟨ended, taken | refused, same⟩, -⟩)
    · rcases taken with ⟨rfl, rfl⟩
      cases same
      exact Or.inr ⟨later, goesOn, rfl⟩
    · rcases refused with ⟨before, item, after, cause, -, -, rfl⟩
      cases same
    · rcases taken with ⟨rfl, rfl⟩
      cases same
    · rcases refused with ⟨before, item, after, cause, split, rfl, rfl⟩
      cases same
      exact Or.inl ⟨before, item, after, cause, split, rfl, rfl⟩
    · rcases taken with ⟨rfl, rfl⟩
      cases same
    · rcases refused with ⟨before, item, after, cause, -, -, rfl⟩
      cases same
  · rintro (⟨before, item, after, cause, split, rfl, rfl⟩ | ⟨later, goesOn, rfl⟩)
    · right
      left
      exact ⟨_, ⟨_, Or.inr ⟨before, item, after, cause, split, rfl, rfl⟩, rfl⟩, rfl⟩
    · left
      exact ⟨_, (session.withMore items.length, ()), later, ⟨_, Or.inl ⟨rfl, rfl⟩, rfl⟩, goesOn,
        rfl⟩

/-- Publishing items from a date on takes one of its courses. -/
theorem runs_register_iff {ending : Option (Except SyncFault (Publish × Task))} :
    Runs (client.register options items date).run turns ending ↔
      Course client options items date turns ending := by
  unfold register
  rw [runs_run_bind_iff]
  simp only [Session.runs_create_iff]
  constructor
  · rintro (⟨first, session, later, ⟨answer, rfl, same⟩, goesOn, rfl⟩ |
      ⟨fault, ⟨answer, rfl, same⟩, rfl⟩ | ⟨⟨answer, -, same⟩, -⟩)
    · cases answer with
      | error fault => cases same
      | ok publish =>
          cases same
          rcases (runs_fill_iff rfl).mp goesOn with
            ⟨before, item, after, cause, split, rfl, rfl⟩ | ⟨rest, settles, rfl⟩
          · rw [Session.abandonment_ofPublish]
            exact .refused publish split cause
          · rcases (runs_settle_iff rfl (Session.filled_complete ..)).mp settles with
              ⟨fault, rfl, rfl⟩ | ⟨task, after, concluded, rfl⟩
            · exact .denied publish fault
            · exact .granted publish task concluded
    · cases answer with
      | error cause =>
          cases same
          exact .uncreated fault
      | ok publish => cases same
    · cases same
  · intro course
    cases course with
    | uncreated fault => exact Or.inr (Or.inl ⟨fault, ⟨.error fault, rfl, rfl⟩, rfl⟩)
    | refused publish split cause =>
        refine Or.inl ⟨[_], _, _, ⟨.ok publish, rfl, rfl⟩, (runs_fill_iff rfl).mpr ?_, rfl⟩
        refine Or.inl ⟨_, _, _, cause, split, rfl, ?_⟩
        rw [Session.abandonment_ofPublish]
    | denied publish fault =>
        refine Or.inl ⟨[_], _, _, ⟨.ok publish, rfl, rfl⟩, (runs_fill_iff rfl).mpr ?_, rfl⟩
        refine Or.inr ⟨_, (runs_settle_iff rfl (Session.filled_complete ..)).mpr ?_, rfl⟩
        exact Or.inl ⟨fault, rfl, rfl⟩
    | granted publish task concluded =>
        refine Or.inl ⟨[_], _, _, ⟨.ok publish, rfl, rfl⟩, (runs_fill_iff rfl).mpr ?_, rfl⟩
        refine Or.inr ⟨_, (runs_settle_iff rfl (Session.filled_complete ..)).mpr ?_, rfl⟩
        exact Or.inr ⟨task, _, concluded, rfl⟩

theorem runs_publishItems_iff {ending : Option (Except SyncFault (Publish × Task))} :
    Runs (client.publishItems options items).run turns ending ↔
      ∃ dated date later, Runs (startDate options).run dated (some (.ok date)) ∧
        Course client options items date later ending ∧ turns = dated ++ later := by
  rw [publishItems_eq, runs_run_bind_iff]
  simp only [runs_register_iff]
  constructor
  · rintro (known | ⟨fault, ran, rfl⟩ | ⟨ran, -⟩)
    · exact known
    · rcases runs_startDate_iff.mp ran with ⟨date, -, -, never⟩ | ⟨-, date, -, never⟩
      · cases never
      · cases never
    · rcases runs_startDate_iff.mp ran with ⟨date, -, -, never⟩ | ⟨-, date, -, never⟩
      · cases never
      · cases never
  · exact Or.inl

/-- Where the plan has something to do, its blobs are stored before its items are published. -/
theorem runs_upload_publish_iff {tree laterTree : FileTree} {source : LocalPath}
    {destination : String} (planned : (plan tree source destination options).result = .ok items)
    (active : options.dryRun = false ∧ items ≠ []) {ending : Option (Except SyncFault Report)} :
    Runs (uploadAll laterTree client.env options.checkExisting [] .none items >>= fun uploads =>
      client.publishItems options items >>= fun done =>
        pure ⟨items, uploads, some done.1, some done.2, options.dryRun⟩).run turns ending ↔
      SyncCourse client tree laterTree source destination options turns ending := by
  rw [runs_run_bind_iff]
  constructor
  · rintro (⟨before, uploads, later, stored, goesOn, rfl⟩ | ⟨fault, refused, rfl⟩ | ⟨stuck, -⟩)
    · rcases runs_run_bind_pure_iff.mp goesOn with ⟨ended, published, rfl⟩
      exact .published planned active stored published
    · exact .unstored planned active refused
    · rcases stuck.exists_result (neverStalls_uploadAll ..) with ⟨result, never⟩
      cases never
  · intro course
    cases course with
    | unplanned unplanned =>
        cases planned.symm.trans unplanned
    | idle known idle =>
        cases planned.symm.trans known
        rcases idle with dry | none
        · rw [active.1] at dry
          cases dry
        · exact absurd none active.2
    | unstored known _ refused =>
        cases planned.symm.trans known
        exact Or.inr (Or.inl ⟨_, refused, rfl⟩)
    | published known _ stored published =>
        cases planned.symm.trans known
        refine Or.inl ⟨_, _, _, stored, ?_, rfl⟩
        exact runs_run_bind_pure_iff.mpr ⟨_, published, rfl⟩

theorem runs_sync_iff {tree laterTree : FileTree} {source : LocalPath}
    {destination : String} {ending : Option (Except SyncFault Report)} :
    Runs (client.sync tree source destination options laterTree).run turns ending ↔
      SyncCourse client tree laterTree source destination options turns ending := by
  unfold sync
  cases planned : (plan tree source destination options).result with
  | error fault =>
      have widened : ((plan tree source destination options).mapFault SyncFault.ofLocal).result =
          .error (SyncFault.ofLocal fault) := congrArg (Except.mapError SyncFault.ofLocal) planned
      rw [Workflow.runs_ofNarrated_bind_of_error widened]
      constructor
      · rintro ⟨rfl, rfl⟩
        exact .unplanned planned
      · intro course
        cases course with
        | unplanned unplanned =>
            cases planned.symm.trans unplanned
            exact ⟨rfl, rfl⟩
        | idle known => cases planned.symm.trans known
        | unstored known => cases planned.symm.trans known
        | published known => cases planned.symm.trans known
  | ok items =>
      have widened : ((plan tree source destination options).mapFault SyncFault.ofLocal).result =
          .ok items := congrArg (Except.mapError SyncFault.ofLocal) planned
      rw [Workflow.runs_ofNarrated_bind_of_ok widened]
      by_cases idle : options.dryRun = true ∨ items = []
      · have skips : (options.dryRun || items.isEmpty) = true := by simpa using idle
        rw [if_pos skips, runs_run_pure_iff]
        constructor
        · rintro ⟨rfl, rfl⟩
          exact .idle planned idle
        · intro course
          cases course with
          | unplanned unplanned => cases planned.symm.trans unplanned
          | idle known _ =>
              cases planned.symm.trans known
              exact ⟨rfl, rfl⟩
          | unstored known active _ =>
              cases planned.symm.trans known
              exact absurd idle (by simp [active])
          | published known active _ _ =>
              cases planned.symm.trans known
              exact absurd idle (by simp [active])
      · have goesOn : ¬(options.dryRun || items.isEmpty) = true := by simpa using idle
        rw [if_neg goesOn]
        exact runs_upload_publish_iff planned (by simpa using idle)

end Parts

end Client

end CdnPublish
