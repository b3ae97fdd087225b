import CdnPublish.Proofs.Session.History

/-!
# What a failed call leaves behind

A caller who is told of a fault may go on with the session, and so needs to know what has become of
it. A call that the session itself refuses asks nothing and changes nothing, and a commit that the
gateway denies changes nothing either, so it may be asked for again. Only a refused item leaves a
trace: the session is abandoned, and it counts the items that were taken before.

`Fails` lists the ways in which a call fails, for a session in any state and with any counts. How
the session was reached plays no part.
-/

namespace CdnPublish.Session

open Program

/-- What a call comes to: the session after it, and whether the call has failed. -/
def attempt (session : Session) : Call → GatewayProgram (Step Unit)
  | .addItem fromDate item => session.addItem fromDate item
  | .addItems fromDate items => session.addItems fromDate items
  | .commit deadline => do
    let step ← session.commit deadline
    return (step.1, step.2.map fun _ => ())
  | .finish task => return ((session.finish task).1, (session.finish task).2.map fun _ => ())

/-- The state in which a session allows a call. -/
def Call.due : Call → State
  | .addItem _ _ => .opened
  | .addItems _ _ => .opened
  | .commit _ => .opened
  | .finish _ => .commitRequested

/-- What a call does, as it is named in faults. -/
def Call.action : Call → String
  | .addItem _ _ => "add items"
  | .addItems _ _ => "add items"
  | .commit _ => "commit"
  | .finish _ => "finish"

/-- There is something to do: only a call for no items at all has nothing to do. -/
def Call.Acts : Call → Prop
  | .addItems _ items => items ≠ []
  | _ => True

/-- The ways in which a call fails: the turns taken, the session after them, and the fault. -/
inductive Fails (session : Session) : Call → List GatewayTurn → Session → SyncFault → Prop where
  | forbidden {call : Call} (wrong : session.state ≠ call.due) (acts : call.Acts) :
      Fails session call [] session
        (.invalidState session.publish.id session.state.word call.action)
  | incomplete (deadline : Option String) (isOpen : session.state = .opened)
      (incomplete : session.added ≠ session.intended) :
      Fails session (.commit deadline) [] session
        (.incompletePublish session.publish.id session.added session.intended)
  | running (task : Task) (committed : session.state = .commitRequested)
      (running : task.state.isTerminal = false) :
      Fails session (.finish task) [] session (.invalidState task.id "still running" "finish")
  | denied (deadline : Option String) (isOpen : session.state = .opened)
      (complete : session.added = session.intended) (fault : SyncFault) :
      Fails session (.commit deadline) [commitOf session.publish deadline (.error fault)] session
        fault
  | refused (fromDate : String) (item : Item) (isOpen : session.state = .opened)
      (cause : SyncFault) :
      Fails session (.addItem fromDate item) [refusalOf session.publish fromDate cause item]
        { session with state := .abandoned }
        (.partialPublish session.publish session.added session.intended cause)
  /-- The items before the refused one were taken, and those after it are not asked for. -/
  | refusedAmong (fromDate : String) {items before after : List Item} {item : Item}
      (isOpen : session.state = .opened) (split : items = before ++ item :: after)
      (cause : SyncFault) :
      Fails session (.addItems fromDate items)
        (before.map (additionOf session.publish fromDate) ++
          [refusalOf session.publish fromDate cause item])
        { session with state := .abandoned, added := session.added + before.length }
        (.partialPublish session.publish (session.added + before.length) session.intended cause)

/-- What turns of a failed call leave of a session. -/
structure Leaves (session : Session) (turns : List GatewayTurn) (next : Session) : Prop where
  publish_eq : next.publish = session.publish
  intended_eq : next.intended = session.intended
  /-- Only a refused item changes anything. -/
  unchanged : (∀ turn ∈ turns, refusesItem turn = false) → next = session
  abandoned : (∃ turn ∈ turns, refusesItem turn = true) →
    next.state = .abandoned ∧ next.added = session.added + turns.countP takesItem

variable {session next : Session} {call : Call} {turns : List GatewayTurn} {fault : SyncFault}
  {fromDate : String} {item : Item} {items : List Item} {deadline : Option String} {task : Task}

theorem runs_addItem_error_iff :
    Runs (session.addItem fromDate item) turns (some (next, .error fault)) ↔
      Fails session (.addItem fromDate item) turns next fault := by
  by_cases isOpen : session.state = .opened
  · rw [runs_addItem_of_opened fromDate item isOpen]
    constructor
    · rintro (⟨-, never⟩ | ⟨cause, rfl, same⟩)
      · cases never
      · cases same
        exact .refused fromDate item isOpen cause
    · intro fails
      cases fails with
      | forbidden wrong acts => exact absurd isOpen wrong
      | refused _ _ _ cause => exact Or.inr ⟨cause, rfl, rfl⟩
  · rw [runs_addItem_of_not_opened isOpen]
    constructor
    · rintro ⟨rfl, same⟩
      cases same
      exact .forbidden isOpen trivial
    · intro fails
      cases fails with
      | forbidden wrong acts => exact ⟨rfl, rfl⟩
      | refused _ _ opened cause => exact absurd opened isOpen

theorem runs_addItems_error_iff :
    Runs (session.addItems fromDate items) turns (some (next, .error fault)) ↔
      Fails session (.addItems fromDate items) turns next fault := by
  by_cases isOpen : session.state = .opened
  · rw [runs_addItems_of_opened isOpen]
    constructor
    · rintro (⟨-, never⟩ | ⟨before, refused, after, cause, split, rfl, same⟩)
      · cases never
      · cases same
        exact .refusedAmong fromDate isOpen split cause
    · intro fails
      cases fails with
      | forbidden wrong acts => exact absurd isOpen wrong
      | refusedAmong _ _ split cause => exact Or.inr ⟨_, _, _, cause, split, rfl, rfl⟩
  · rw [runs_addItems_of_not_opened isOpen]
    constructor
    · rintro ⟨rfl, same⟩
      split at same
      · cases same
      · rename_i some
        cases same
        exact .forbidden isOpen some
    · intro fails
      cases fails with
      | forbidden wrong acts => exact ⟨rfl, by rw [if_neg acts]; rfl⟩
      | refusedAmong _ opened split cause => exact absurd opened isOpen

theorem runs_commit_error_iff {deadline : Option String} :
    Runs (session.commit deadline) turns (some (next, .error fault)) ↔
      Fails session (.commit deadline) turns next fault := by
  by_cases isOpen : session.state = .opened
  · by_cases complete : session.added = session.intended
    · rw [runs_commit_of_complete isOpen complete]
      constructor
      · rintro ⟨answer, rfl, same⟩
        cases answer with
        | ok task => cases same
        | error cause =>
            cases same
            exact .denied deadline isOpen complete fault
      · intro fails
        cases fails with
        | forbidden wrong acts => exact absurd isOpen wrong
        | incomplete _ _ incomplete => exact absurd complete incomplete
        | denied _ _ _ cause => exact ⟨.error fault, rfl, rfl⟩
    · rw [runs_commit_of_incomplete isOpen complete]
      constructor
      · rintro ⟨rfl, same⟩
        cases same
        exact .incomplete deadline isOpen complete
      · intro fails
        cases fails with
        | forbidden wrong acts => exact absurd isOpen wrong
        | incomplete _ _ _ => exact ⟨rfl, rfl⟩
        | denied _ _ full cause => exact absurd full complete
  · rw [runs_commit_of_not_opened isOpen]
    constructor
    · rintro ⟨rfl, same⟩
      cases same
      exact .forbidden isOpen trivial
    · intro fails
      cases fails with
      | forbidden wrong acts => exact ⟨rfl, rfl⟩
      | incomplete _ opened _ => exact absurd opened isOpen
      | denied _ opened _ cause => exact absurd opened isOpen

theorem finalState?_eq_none_iff {progress : TaskState} :
    finalState? progress = none ↔ progress.isTerminal = false := by
  cases progress <;> simp [finalState?, TaskState.isTerminal]

theorem finish_eq_error_iff :
    session.finish task = (next, .error fault) ↔ Fails session (.finish task) [] next fault := by
  unfold finish
  split
  · rename_i wrong
    constructor
    · intro same
      cases same
      exact .forbidden wrong trivial
    · intro fails
      cases fails with
      | forbidden _ acts => rfl
      | running _ committed running => exact absurd committed wrong
  · rename_i committed
    have committed := Decidable.not_not.mp committed
    split
    · rename_i state final
      constructor
      · intro never
        cases never
      · intro fails
        cases fails with
        | forbidden wrong acts => exact absurd committed wrong
        | running _ _ running =>
            rw [finalState?_eq_none_iff.mpr running] at final
            cases final
    · rename_i unfinished
      constructor
      · intro same
        cases same
        exact .running task committed (finalState?_eq_none_iff.mp unfinished)
      · intro fails
        cases fails with
        | forbidden wrong acts => exact absurd committed wrong
        | running _ _ running => rfl

theorem Fails.turns_of_finish (fails : Fails session (.finish task) turns next fault) :
    turns = [] := by
  cases fails with
  | forbidden wrong acts => rfl
  | running _ committed running => rfl

/-- A call fails in the listed ways and in no other. -/
theorem runs_attempt_error_iff :
    Runs (session.attempt call) turns (some (next, .error fault)) ↔
      Fails session call turns next fault := by
  have forgotten : ∀ {Result : Type} {step : Step Result},
      (next, .error fault) = (step.1, step.2.map fun _ => ()) ↔ step = (next, .error fault) := by
    rintro Result ⟨session, cause | result⟩
    · simp [Except.map, eq_comm]
    · simp [Except.map]
  cases call with
  | addItem fromDate item => exact runs_addItem_error_iff
  | addItems fromDate items => exact runs_addItems_error_iff
  | commit deadline =>
      unfold attempt
      simp only [runs_bind_pure_some_iff, forgotten, exists_eq_right, runs_commit_error_iff]
  | finish task =>
      unfold attempt
      rw [runs_pure_iff, Option.some_inj, forgotten, finish_eq_error_iff]
      constructor
      · rintro ⟨rfl, fails⟩
        exact fails
      · intro fails
        rcases fails.turns_of_finish with rfl
        exact ⟨rfl, fails⟩

theorem countP_takesItem_additions (publish : Publish) (fromDate : String) (items : List Item) :
    (items.map (additionOf publish fromDate)).countP takesItem = items.length := by
  rw [List.countP_eq_length.mpr, List.length_map]
  intro turn mem
  rcases List.mem_map.mp mem with ⟨item, -, rfl⟩
  rfl

theorem Fails.leaves (fails : Fails session call turns next fault) :
    Leaves session turns next := by
  cases fails with
  | forbidden wrong acts => exact ⟨rfl, rfl, fun _ => rfl, by simp⟩
  | incomplete deadline isOpen incomplete => exact ⟨rfl, rfl, fun _ => rfl, by simp⟩
  | running task committed running => exact ⟨rfl, rfl, fun _ => rfl, by simp⟩
  | denied deadline isOpen complete fault =>
      exact ⟨rfl, rfl, fun _ => rfl, by simp [commitOf, refusesItem]⟩
  | refused fromDate item isOpen cause =>
      exact ⟨rfl, rfl, by simp [refusalOf, refusesItem], fun _ => ⟨rfl, rfl⟩⟩
  | refusedAmong fromDate isOpen split cause =>
      refine ⟨rfl, rfl, ?_, fun _ => ⟨rfl, ?_⟩⟩
      · intro unrefused
        have last := unrefused _ (List.mem_append_right _ List.mem_cons_self)
        cases last
      · rw [List.countP_append, countP_takesItem_additions]
        rfl

theorem perform_eq_attempt (session : Session) (call : Call) :
    session.perform call = session.attempt call >>= fun step => pure step.1 := by
  cases call with
  | addItem fromDate item => rfl
  | addItems fromDate items => rfl
  | commit deadline =>
      unfold perform attempt
      rw [Program.bind_assoc]
      rfl
  | finish task => rfl

/-- A call leads from one reachable session to another, also when it fails. -/
theorem Reached.attempted {env : String} {intended : Nat} {calls : List Call}
    {history : List GatewayTurn} {result : Except SyncFault Unit}
    (reached : Reached env intended calls history session)
    (run : Runs (session.attempt call) turns (some (next, result))) :
    Reached env intended (calls ++ [call]) (history ++ turns) next := by
  apply reached.called call
  rw [perform_eq_attempt]
  exact runs_bind_pure_some_iff.mpr ⟨_, run, rfl⟩

/-- What a failed call means for a session, whatever state the session is in. A call fails in the
listed ways and in no other, and a failing call asks for nothing more. It changes nothing unless the
gateway has refused an item, and even then nothing but the state and the count. Items that are added
to an open session are asked for in order up to the first that is refused. -/
theorem failed_call_exact (session : Session) :
    (∀ call turns next fault, Runs (session.attempt call) turns (some (next, .error fault)) ↔
      Fails session call turns next fault) ∧
    (∀ call turns next fault, Fails session call turns next fault →
      Leaves session turns next ∧
      ∀ more ending, Runs (session.attempt call) (turns ++ more) ending →
        more = [] ∧ ending = some (next, .error fault)) ∧
    (session.state = .opened → ∀ fromDate items turns ending,
      Runs (session.attempt (.addItems fromDate items)) turns ending ↔
        (turns = items.map (additionOf session.publish fromDate) ∧
          ending = some ({ session with added := session.added + items.length }, .ok ())) ∨
        ∃ before item after cause, items = before ++ item :: after ∧
          turns = before.map (additionOf session.publish fromDate) ++
            [refusalOf session.publish fromDate cause item] ∧
          ending = some
            ({ session with state := .abandoned, added := session.added + before.length },
              .error (.partialPublish session.publish (session.added + before.length)
                session.intended cause))) ∧
    (∀ env intended calls history, Reached env intended calls history session →
      ∀ call turns next result, Runs (session.attempt call) turns (some (next, result)) →
        Reached env intended (calls ++ [call]) (history ++ turns) next) := by
  refine ⟨fun call turns next fault => runs_attempt_error_iff, ?_, ?_, ?_⟩
  · intro call turns next fault fails
    refine ⟨fails.leaves, fun more ending longer => ?_⟩
    have run := runs_attempt_error_iff.mpr fails
    exact run.eq_of_append longer
  · intro isOpen fromDate items turns ending
    exact runs_addItems_of_opened isOpen
  · intro env intended calls history reached call turns next result run
    exact reached.attempted run

section SecondRefused

/-- A publish without links. -/
def emptyPublish : Publish := ⟨"p", .none, none, none⟩

/-- Three items to be removed. -/
def threeRemovals : List Item :=
  [⟨none, "/a", .absent, none⟩, ⟨none, "/b", .absent, none⟩, ⟨none, "/c", .absent, none⟩]

/-- The turns in which the first of the items is taken and the answer to the second one is lost. -/
def secondRefused : List GatewayTurn :=
  [additionOf emptyPublish "now" ⟨none, "/a", .absent, none⟩,
    refusalOf emptyPublish "now" (.transport "u" "lost") ⟨none, "/b", .absent, none⟩]

/-- The third item is not asked for once the second one is refused. The abandoned session counts the
first one, and a task that is still running cannot be recorded in a session that waits for it. -/
theorem failed_call_exact_secondRefused :
    (ofPublish emptyPublish 3).state = .opened ∧
    (∀ more ending, Runs ((ofPublish emptyPublish 3).attempt (.addItems "now" threeRemovals))
      (secondRefused ++ more) ending → more = [] ∧ ending =
        some (⟨emptyPublish, .abandoned, 3, 1⟩,
          .error (.partialPublish emptyPublish 1 3 (.transport "u" "lost")))) ∧
    Reached "live" 3 [.addItems "now" threeRemovals]
      (⟨.createPublish "live", .ok emptyPublish⟩ :: secondRefused)
      ⟨emptyPublish, .abandoned, 3, 1⟩ ∧
    Runs ((Session.mk emptyPublish .commitRequested 3 3).attempt
      (.finish ⟨"t", .unknown, .none, none, none, none⟩)) []
      (some (⟨emptyPublish, .commitRequested, 3, 3⟩,
        .error (.invalidState "t" "still running" "finish"))) := by
  have exact := failed_call_exact (ofPublish emptyPublish 3)
  have ran := (exact.2.2.1 rfl "now" threeRemovals secondRefused _).mpr
    (Or.inr ⟨[_], _, [_], .transport "u" "lost", rfl, rfl, rfl⟩)
  have fails := (exact.1 _ _ _ _).mp ran
  have created : Reached "live" 3 [] [⟨.createPublish "live", .ok emptyPublish⟩]
      (ofPublish emptyPublish 3) :=
    .created (runs_create_iff.mpr ⟨.ok emptyPublish, rfl, rfl⟩)
  have early := (failed_call_exact ⟨emptyPublish, .commitRequested, 3, 3⟩).1
  refine ⟨rfl, (exact.2.1 _ _ _ _ fails).2, exact.2.2.2 _ _ _ _ created _ _ _ _ ran, ?_⟩
  exact (early _ _ _ _).mpr (.running ⟨"t", .unknown, .none, none, none, none⟩ rfl rfl)

end SecondRefused

end CdnPublish.Session
