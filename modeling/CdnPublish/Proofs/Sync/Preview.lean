import CdnPublish.Proofs.Sync.Commit
import CdnPublish.Proofs.Sync.Planning

/-!
# What a dry run foretells

A dry run makes the plan and stops there. The plan does not depend on whether it will be carried
out, so the items that a dry run reports are those that a real run is about to register: it sends
their records in the same order and from one date on, stops early only if something fails, and asks
for a commit only when it has sent them all.
-/

namespace CdnPublish

open Program Sync

namespace Sync

/-- The same choices, but only the plan is made. -/
def Options.dry (options : Options) : Options :=
  { options with dryRun := true }

/-- The same choices, and the plan is carried out. -/
def Options.real (options : Options) : Options :=
  { options with dryRun := false }

/-- The records that are sent, in order. -/
def sentRecords (turns : List GatewayTurn) : List ItemRecord :=
  turns.filterMap fun turn =>
    match turn.question with
    | .addItem _ record => some record
    | _ => none

/-- Only the records of these items are sent, in their order and from the date on, and all of them
if a commit is asked for. -/
structure Registers (items : List Item) (date : String) (turns : List GatewayTurn) : Prop where
  inOrder : sentRecords turns <+: items.map (·.record date)
  complete : (∃ turn ∈ turns, turn.question.kind = .commit) →
    sentRecords turns = items.map (·.record date)

variable {items before : List Item} {item : Item} {date : String} {publish : Publish}
  {turns first second : List GatewayTurn}

theorem sentRecords_append :
    sentRecords (first ++ second) = sentRecords first ++ sentRecords second :=
  List.filterMap_append

theorem sentRecords_eq_nil (others : ∀ turn ∈ turns, turn.question.kind ≠ .addition) :
    sentRecords turns = [] := by
  apply List.filterMap_eq_nil_iff.mpr
  intro turn mem
  have other := others turn mem
  rcases turn with ⟨question, answer⟩
  cases question with
  | addItem publish record => exact absurd rfl other
  | _ => rfl

theorem sentRecords_additions :
    sentRecords (items.map (Session.additionOf publish date)) = items.map (·.record date) := by
  induction items with
  | nil => rfl
  | cons item items induction_hypothesis =>
      change item.record date :: sentRecords (items.map (Session.additionOf publish date)) = _
      rw [induction_hypothesis]
      rfl

theorem sentRecords_refused (cause : SyncFault) :
    sentRecords (before.map (Session.additionOf publish date) ++
      [Session.refusalOf publish date cause item]) = (before ++ [item]).map (·.record date) := by
  rw [sentRecords_append, sentRecords_additions, List.map_append]
  rfl

/-- No item is added and no commit is asked for. -/
def Quiet (turns : List GatewayTurn) : Prop :=
  ∀ turn ∈ turns, turn.question.kind ≠ .addition ∧ turn.question.kind ≠ .commit

theorem quiet_of_ofKind {kind : Question.Kind} (same : OfKind kind turns)
    (other : kind ≠ .addition ∧ kind ≠ .commit) : Quiet turns := by
  intro turn mem
  rw [same turn mem]
  exact other

theorem Registers.append_left (quiet : Quiet first) (registers : Registers items date second) :
    Registers items date (first ++ second) := by
  have unchanged : sentRecords (first ++ second) = sentRecords second := by
    rw [sentRecords_append, sentRecords_eq_nil fun turn mem => (quiet turn mem).1, List.nil_append]
  constructor
  · rw [unchanged]
    exact registers.inOrder
  · rintro ⟨turn, mem, isCommit⟩
    rw [unchanged]
    apply registers.complete
    rcases List.mem_append.mp mem with early | late
    · exact absurd isCommit (quiet turn early).2
    · exact ⟨turn, late, isCommit⟩

theorem registers_of_quiet (quiet : Quiet turns) : Registers items date turns := by
  constructor
  · rw [sentRecords_eq_nil fun turn mem => (quiet turn mem).1]
    exact List.nil_prefix
  · rintro ⟨turn, mem, isCommit⟩
    exact absurd isCommit (quiet turn mem).2

theorem registers_of_all (all : sentRecords turns = items.map (·.record date)) :
    Registers items date turns := by
  refine ⟨?_, fun _ => all⟩
  rw [all]

theorem registers_of_course {client : Client} {options : Options}
    {ending : Option (Except SyncFault (Publish × Task))}
    (course : Client.Course client options items date turns ending) :
    Registers items date turns := by
  cases course with
  | uncreated fault =>
      exact registers_of_quiet (quiet_of_ofKind (Session.ofKind_creation _ _) (by decide))
  | @refused publish before after item split cause =>
      have sent : sentRecords (Session.creationOf client.env (.ok publish) ::
          (before.map (Session.additionOf publish date) ++
            [Session.refusalOf publish date cause item])) =
          (before ++ [item]).map (·.record date) :=
        sentRecords_refused cause
      constructor
      · rw [sent, split]
        apply List.IsPrefix.map
        exact ⟨after, (List.append_cons ..).symm⟩
      · rintro ⟨turn, mem, isCommit⟩
        rcases List.mem_cons.mp mem with rfl | mem
        · cases isCommit
        · rw [Session.ofKind_refused publish date before cause item turn mem] at isCommit
          cases isCommit
  | denied publish fault =>
      apply registers_of_all
      change sentRecords (items.map (Session.additionOf publish date) ++ [_]) = _
      rw [sentRecords_append, sentRecords_additions]
      exact List.append_nil _
  | @granted publish task later ending concluded =>
      rcases concluded with ⟨ended, run, -⟩
      have polled : sentRecords later = [] := by
        apply sentRecords_eq_nil
        intro turn mem
        rcases run.asks_allowed (client.asksOnly_conclude ..) turn mem with isPoll | isTime
        · simp [isPoll]
        · simp [isTime]
      apply registers_of_all
      change sentRecords (items.map (Session.additionOf publish date) ++ ([_] ++ later)) = _
      rw [sentRecords_append, sentRecords_append, sentRecords_additions, polled]
      exact List.append_nil _

end Sync

namespace Client

variable {client : Client} {tree laterTree : FileTree} {source : LocalPath} {destination : String}
  {options : Options} {items : List Item} {turns : List GatewayTurn}
  {ending : Option (Except SyncFault Report)}

theorem runs_sync_of_unplanned {fault : LocalFault}
    (planned : (plan tree source destination options).result = .error fault) :
    Runs (client.sync tree source destination options laterTree).run turns ending ↔
      turns = [] ∧ ending = some (.error (.ofLocal fault)) := by
  rw [runs_sync_iff]
  constructor
  · intro course
    cases course with
    | unplanned unplanned =>
        cases planned.symm.trans unplanned
        exact ⟨rfl, rfl⟩
    | idle known _ => cases planned.symm.trans known
    | unstored known _ _ => cases planned.symm.trans known
    | published known _ _ _ => cases planned.symm.trans known
  · rintro ⟨rfl, rfl⟩
    exact .unplanned planned

theorem runs_sync_of_idle (planned : (plan tree source destination options).result = .ok items)
    (idle : options.dryRun = true ∨ items = []) :
    Runs (client.sync tree source destination options laterTree).run turns ending ↔
      turns = [] ∧ ending = some (.ok (.planned items options.dryRun)) := by
  rw [runs_sync_iff]
  constructor
  · intro course
    cases course with
    | unplanned unplanned => cases planned.symm.trans unplanned
    | idle known _ =>
        cases planned.symm.trans known
        exact ⟨rfl, rfl⟩
    | unstored known active _ =>
        cases planned.symm.trans known
        exact absurd idle (by simp [active])
    | published known active _ _ =>
        cases planned.symm.trans known
        exact absurd idle (by simp [active])
  · rintro ⟨rfl, rfl⟩
    exact .idle planned idle

/-- A dry run asks nothing and reports the plan. -/
theorem runs_sync_dry_iff :
    Runs (client.sync tree source destination options.dry laterTree).run turns ending ↔
      turns = [] ∧ ending = some (((plan tree source destination options.dry).result.mapError
        SyncFault.ofLocal).map (Report.planned · true)) := by
  cases planned : (plan tree source destination options.dry).result with
  | error fault => exact runs_sync_of_unplanned planned
  | ok items => exact runs_sync_of_idle planned (Or.inl rfl)

/-- Every run of a sync registers the items of the plan from one date on, which is the given one if
there is one. -/
theorem exists_registers_of_runs_sync
    (planned : (plan tree source destination options).result = .ok items)
    (run : Runs (client.sync tree source destination options laterTree).run turns ending) :
    ∃ date, (∀ given, options.fromDate = some given → date = given) ∧
      Registers items date turns := by
  have dated : ∃ date, ∀ given, options.fromDate = some given → date = given := by
    cases options.fromDate with
    | none => exact ⟨"", by simp⟩
    | some given => exact ⟨given, fun _ same => Option.some.inj same⟩
  cases runs_sync_iff.mp run with
  | unplanned unplanned => cases planned.symm.trans unplanned
  | idle known idle =>
      rcases dated with ⟨date, isGiven⟩
      exact ⟨date, isGiven, registers_of_quiet (by simp [Quiet])⟩
  | unstored known active refused =>
      rcases dated with ⟨date, isGiven⟩
      have blobs : OfKind .blob turns := refused.asks_allowed (asksOnly_uploadAll _ _ _ _ _ _)
      exact ⟨date, isGiven, registers_of_quiet (quiet_of_ofKind blobs (by decide))⟩
  | @published _ before later uploads ended known active stored published =>
      cases planned.symm.trans known
      have blobs : OfKind .blob before := stored.asks_allowed (asksOnly_uploadAll _ _ _ _ _ _)
      rcases runs_publishItems_iff.mp published with ⟨dated, date, rest, ran, course, rfl⟩
      have timed : OfKind .time dated := ofKind_of_runs_startDate ran
      refine ⟨date, ?_, ?_⟩
      · intro given isGiven
        rcases runs_startDate_iff.mp ran with ⟨known, same, -, begun⟩ | ⟨none, -⟩
        · cases begun
          exact Option.some.inj (same.symm.trans isGiven)
        · cases none.symm.trans isGiven
      · have registered :=
          (registers_of_course course).append_left (quiet_of_ofKind timed (by decide))
        exact registered.append_left (quiet_of_ofKind blobs (by decide))

end Client

/-- What a dry run says about a real one, whatever becomes of the tree after the plan. The plan is
the same for both. The dry run asks nothing and reports the plan. The real run fails as the dry run
does, without asking anything; otherwise it registers the items that the dry run reports, and if
there are none it asks nothing and there was nothing to do. -/
theorem dryRun_foretells (client : Client) (tree laterTree : FileTree) (source : LocalPath)
    (destination : String) (options : Options) :
    (plan tree source destination options.dry).result =
      (plan tree source destination options.real).result ∧
    (∀ turns ending,
      Runs (client.sync tree source destination options.dry laterTree).run turns ending ↔
        turns = [] ∧ ending = some (((plan tree source destination options.dry).result.mapError
          SyncFault.ofLocal).map (Report.planned · true))) ∧
    (∀ fault, (plan tree source destination options.dry).result = .error fault →
      ∀ turns ending,
        Runs (client.sync tree source destination options.real laterTree).run turns ending ↔
          turns = [] ∧ ending = some (.error (.ofLocal fault))) ∧
    (∀ items, (plan tree source destination options.dry).result = .ok items →
      ∀ turns ending,
        Runs (client.sync tree source destination options.real laterTree).run turns ending →
          ∃ date, (∀ given, options.fromDate = some given → date = given) ∧
            Registers items date turns) ∧
    ((plan tree source destination options.dry).result = .ok [] →
      ∀ turns ending,
        Runs (client.sync tree source destination options.real laterTree).run turns ending ↔
          turns = [] ∧ ∃ report, ending = some (.ok report) ∧ report = .planned [] false ∧
            report.outcome = .nothingToDo) := by
  have same : (plan tree source destination options.dry).result =
      (plan tree source destination options.real).result := by
    rw [result_plan, result_plan]
    rfl
  refine ⟨same, fun turns ending => Client.runs_sync_dry_iff, ?_, ?_, ?_⟩
  · intro fault unplanned turns ending
    exact Client.runs_sync_of_unplanned (same.symm.trans unplanned)
  · intro items planned turns ending run
    have registered := Client.exists_registers_of_runs_sync (same.symm.trans planned) run
    exact registered
  · intro planned turns ending
    rw [Client.runs_sync_of_idle (same.symm.trans planned) (Or.inr rfl)]
    constructor
    · rintro ⟨rfl, rfl⟩
      exact ⟨rfl, _, rfl, rfl, rfl⟩
    · rintro ⟨rfl, report, rfl, rfl, -⟩
      exact ⟨rfl, rfl⟩

/-- The record that a dry run of one file foretells is the one that is sent before the commit. -/
theorem dryRun_foretells_singleFile :
    Runs ((Client.mk "live" ⟨5, 1, 9⟩).sync singleFile singlePath "/d" Options.plain.dry).run []
      (some (.ok (.planned [singleItem] true))) ∧
    ∃ date, (∀ given, Options.plain.fromDate = some given → date = given) ∧
      Registers [singleItem] date (singleTurns ⟨"p", .none, none, none⟩) := by
  rcases dryRun_foretells ⟨"live", ⟨5, 1, 9⟩⟩ singleFile singleFile singlePath "/d" .plain with
    ⟨same, dry, -, real, -⟩
  have real_plain : Options.plain.real = .plain := rfl
  rw [real_plain] at same real
  have planned := same.trans plan_singleFile
  refine ⟨(dry _ _).mpr ⟨rfl, ?_⟩, ?_⟩
  · rw [planned]
    rfl
  · have run := runs_sync_singleFile ⟨"p", .none, none, none⟩
    exact real [singleItem] planned _ _ run

end CdnPublish
