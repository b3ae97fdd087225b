import CdnPublish.Proofs.Session.Steps
import Mathlib.Logic.Basic

/-!
# Sessions and their histories

A caller may have a session do anything in any order. What the session then says of itself can be
read off the turns that it has taken with the gateway, and the other way round: how many items it
counts, whether it was abandoned, and whether its commit was granted. A commit is asked for only
once every intended item has been taken, and after a refused item or a granted commit the gateway
hears nothing more of the session.

Every call is made of moves, each of which is one turn of an open session; only finishing takes no
turn. What a move preserves is shown once for each kind of move, and whatever is reached is reached
by moves and by finishing.
-/

namespace CdnPublish.Session

open Program

/-- Something that a caller has a session do. -/
inductive Call where
  | addItem (fromDate : String) (item : Item)
  | addItems (fromDate : String) (items : List Item)
  | commit (deadline : Option String)
  | finish (task : Task)

/-- Does what is asked of a session; what is left is the session. -/
def perform (session : Session) : Call → GatewayProgram Session
  | .addItem fromDate item => do return (← session.addItem fromDate item).1
  | .addItems fromDate items => do return (← session.addItems fromDate items).1
  | .commit deadline => do return (← session.commit deadline).1
  | .finish task => return (session.finish task).1

/-- What calls on a created session lead to: the turns taken since before its creation, and the
session after them. -/
inductive Reached (env : String) (intended : Nat) :
    List Call → List GatewayTurn → Session → Prop where
  | created {turns : List GatewayTurn} {session : Session}
      (run : Runs (create env intended).run turns (some (.ok session))) :
      Reached env intended [] turns session
  | called {calls : List Call} {history turns : List GatewayTurn} {session next : Session}
      (sofar : Reached env intended calls history session) (call : Call)
      (run : Runs (session.perform call) turns (some next)) :
      Reached env intended (calls ++ [call]) (history ++ turns) next

/-- In the turn an item is taken. -/
def takesItem : GatewayTurn → Bool
  | ⟨.addItem _ _, .ok _⟩ => true
  | _ => false

/-- In the turn an item is refused. -/
def refusesItem : GatewayTurn → Bool
  | ⟨.addItem _ _, .error _⟩ => true
  | _ => false

/-- In the turn a commit is asked for. -/
def asksCommit : GatewayTurn → Bool
  | ⟨.commitPublish _ _, _⟩ => true
  | _ => false

/-- In the turn a commit is granted. -/
def grantsCommit : GatewayTurn → Bool
  | ⟨.commitPublish _ _, .ok _⟩ => true
  | _ => false

/-- The commit of a session has been granted. -/
def IsCommitted (session : Session) : Prop :=
  session.state = .commitRequested ∨ session.state = .done ∨ session.state = .failed

/-- A session says of itself what its history says of it. -/
structure Faithful (intended : Nat) (history : List GatewayTurn) (session : Session) : Prop where
  intended_eq : session.intended = intended
  /-- The session counts the items that were taken. -/
  added_eq : session.added = history.countP takesItem
  abandoned_iff : session.state = .abandoned ↔ ∃ turn ∈ history, refusesItem turn = true
  granted_le : history.countP grantsCommit ≤ 1
  committed_iff : session.IsCommitted ↔ history.countP grantsCommit = 1
  committed_full : session.IsCommitted → session.added = session.intended
  /-- Every request for a commit was made with all items taken and none refused. -/
  commit_full : ∀ before turn after, history = before ++ turn :: after → asksCommit turn = true →
    before.countP takesItem = intended ∧ ∀ earlier ∈ before, refusesItem earlier = false
  /-- Nothing was asked after a refused item or a granted commit. -/
  silent : ∀ before turn after, history = before ++ turn :: after →
    refusesItem turn = true ∨ grantsCommit turn = true → after = []

/-- A turn of an open session, and what it makes of the session. -/
inductive Move : Session → GatewayTurn → Session → Prop where
  | taken {session : Session} (isOpen : session.state = .opened) (fromDate : String)
      (item : Item) :
      Move session (additionOf session.publish fromDate item) (session.withMore 1)
  | refused {session : Session} (isOpen : session.state = .opened) (fromDate : String)
      (item : Item) (cause : SyncFault) :
      Move session (refusalOf session.publish fromDate cause item) (session.withState .abandoned)
  | commit {session : Session} (isOpen : session.state = .opened)
      (complete : session.added = session.intended) (deadline : Option String)
      (answer : Except SyncFault Task) :
      Move session (commitOf session.publish deadline answer) (session.answeredCommit answer).1

/-- Moves one after the other. -/
inductive Moves : Session → List GatewayTurn → Session → Prop where
  | none (session : Session) : Moves session [] session
  | more {first middle last : Session} {turn : GatewayTurn} {later : List GatewayTurn}
      (move : Move first turn middle) (moves : Moves middle later last) :
      Moves first (turn :: later) last

variable {session next : Session} {turns history : List GatewayTurn} {intended : Nat}

theorem Moves.trans {last : Session} {after : List GatewayTurn}
    (first : Moves session turns next) (second : Moves next after last) :
    Moves session (turns ++ after) last := by
  induction first with
  | none session => exact second
  | more move moves induction_hypothesis => exact .more move (induction_hypothesis second)

theorem moves_of_runs_commit {deadline : Option String} {step : Step Task}
    (run : Runs (session.commit deadline) turns (some step)) : Moves session turns step.1 := by
  by_cases isOpen : session.state = .opened
  · by_cases complete : session.added = session.intended
    · rcases (runs_commit_of_complete isOpen complete).mp run with ⟨answer, rfl, same⟩
      rcases Option.some.inj same with rfl
      exact .more (.commit isOpen complete deadline answer) (.none _)
    · rcases (runs_commit_of_incomplete isOpen complete).mp run with ⟨rfl, same⟩
      rcases Option.some.inj same with rfl
      exact .none session
  · rcases (runs_commit_of_not_opened isOpen).mp run with ⟨rfl, same⟩
    rcases Option.some.inj same with rfl
    exact .none session

theorem moves_of_runs_addItem {fromDate : String} {item : Item} {step : Step Unit}
    (run : Runs (session.addItem fromDate item) turns (some step)) :
    Moves session turns step.1 := by
  by_cases isOpen : session.state = .opened
  · rcases (runs_addItem_of_opened fromDate item isOpen).mp run with
      ⟨rfl, same⟩ | ⟨cause, rfl, same⟩
    · rcases Option.some.inj same with rfl
      exact .more (.taken isOpen fromDate item) (.none _)
    · rcases Option.some.inj same with rfl
      exact .more (.refused isOpen fromDate item cause) (.none _)
  · rcases (runs_addItem_of_not_opened isOpen).mp run with ⟨rfl, same⟩
    rcases Option.some.inj same with rfl
    exact .none session

theorem moves_of_runs_addItems {fromDate : String} {items : List Item} {step : Step Unit}
    (run : Runs (session.addItems fromDate items) turns (some step)) :
    Moves session turns step.1 := by
  induction items generalizing session turns with
  | nil =>
      rcases runs_pure_iff.mp run with ⟨rfl, same⟩
      rcases Option.some.inj same with rfl
      exact .none session
  | cons item items induction_hypothesis =>
      rw [addItems] at run
      rcases runs_bind_iff.mp run with
        ⟨before, ⟨middle, result⟩, after, ran, goesOn, rfl⟩ | ⟨-, never⟩
      · have first := moves_of_runs_addItem ran
        cases result with
        | ok taken => exact first.trans (induction_hypothesis goesOn)
        | error fault =>
            rcases runs_pure_iff.mp goesOn with ⟨rfl, same⟩
            rcases Option.some.inj same with rfl
            simpa using first
      · cases never

/-- A call is made of moves, unless it finishes a session whose commit was granted. -/
theorem moves_or_finishes {call : Call} (run : Runs (session.perform call) turns (some next)) :
    Moves session turns next ∨
      (session.state = .commitRequested ∧ turns = [] ∧ ∃ task state, call = .finish task ∧
        finalState? task.state = some state ∧ next = session.withState state) := by
  cases call with
  | addItem fromDate item =>
      rcases runs_bind_pure_some_iff.mp run with ⟨step, ran, rfl⟩
      exact Or.inl (moves_of_runs_addItem ran)
  | addItems fromDate items =>
      rcases runs_bind_pure_some_iff.mp run with ⟨step, ran, rfl⟩
      exact Or.inl (moves_of_runs_addItems ran)
  | commit deadline =>
      rcases runs_bind_pure_some_iff.mp run with ⟨step, ran, rfl⟩
      exact Or.inl (moves_of_runs_commit ran)
  | finish task =>
      rcases runs_pure_iff.mp run with ⟨rfl, same⟩
      rcases Option.some.inj same with rfl
      rcases session.finish_cases task with same | ⟨committed, state, final, same⟩
      · rw [same]
        exact Or.inl (.none session)
      · exact Or.inr ⟨committed, rfl, task, state, rfl, final, same⟩

/-- A split of a history with one more turn is a split at that turn or one of the older history. -/
theorem split_append_singleton {turn middle : GatewayTurn} {before after : List GatewayTurn}
    (split : history ++ [turn] = before ++ middle :: after) :
    (before = history ∧ middle = turn ∧ after = []) ∨
      ∃ older, history = before ++ middle :: older ∧ after = older ++ [turn] := by
  rcases List.eq_nil_or_concat after with rfl | ⟨older, last, rfl⟩
  · rcases List.append_inj' split rfl with ⟨rfl, same⟩
    exact Or.inl ⟨rfl, (List.cons.inj same).1.symm, rfl⟩
  · rw [List.concat_eq_append, ← List.cons_append, ← List.append_assoc] at split
    rcases List.append_inj' split rfl with ⟨rfl, same⟩
    rcases (List.cons.inj same).1 with rfl
    exact Or.inr ⟨older, rfl, List.concat_eq_append⟩

namespace Faithful

/-- Nothing has been refused or granted while a session is open. -/
theorem clean_of_opened (faithful : Faithful intended history session)
    (isOpen : session.state = .opened) :
    (∀ turn ∈ history, refusesItem turn = false) ∧ history.countP grantsCommit = 0 := by
  have notAbandoned : ¬∃ turn ∈ history, refusesItem turn = true := by
    rw [← faithful.abandoned_iff, isOpen]
    exact State.noConfusion
  have notGranted : history.countP grantsCommit ≠ 1 := by
    intro once
    have committed := faithful.committed_iff.mpr once
    simp [IsCommitted, isOpen] at committed
  have atMostOnce := faithful.granted_le
  refine ⟨fun turn mem => ?_, by omega⟩
  cases refuses : refusesItem turn with
  | false => rfl
  | true => exact absurd ⟨turn, mem, refuses⟩ notAbandoned

/-- A turn of an open session keeps it faithful if the session afterwards says of the turn what has
come of it, and if a commit is only asked for in a session with all its items. The new turn stands
last, so any other split is one of the older history. -/
theorem append_turn (faithful : Faithful intended history session)
    (isOpen : session.state = .opened) {turn : GatewayTurn}
    (sameIntended : next.intended = session.intended)
    (counted : next.added = session.added + if takesItem turn = true then 1 else 0)
    (abandoned : next.state = .abandoned ↔ refusesItem turn = true)
    (committed : next.IsCommitted ↔ grantsCommit turn = true)
    (full : asksCommit turn = true → session.added = session.intended)
    (stillFull : grantsCommit turn = true → next.added = next.intended) :
    Faithful intended (history ++ [turn]) next := by
  rcases faithful.clean_of_opened isOpen with ⟨noRefusal, noGrant⟩
  have noGrantIn : ∀ older ∈ history, grantsCommit older ≠ true :=
    List.countP_eq_zero.mp noGrant
  refine
    { intended_eq := sameIntended.trans faithful.intended_eq
      added_eq := ?_
      abandoned_iff := ?_
      granted_le := ?_
      committed_iff := ?_
      committed_full := fun isCommitted => stillFull (committed.mp isCommitted)
      commit_full := ?_
      silent := ?_ }
  · rw [counted, faithful.added_eq, List.countP_append, List.countP_singleton]
  · rw [abandoned]
    constructor
    · exact fun refuses => ⟨turn, by simp, refuses⟩
    · rintro ⟨other, mem, refuses⟩
      rcases List.mem_append.mp mem with older | newest
      · rw [noRefusal other older] at refuses
        cases refuses
      · rwa [List.mem_singleton.mp newest] at refuses
  · rw [List.countP_append, List.countP_singleton, noGrant]
    split <;> omega
  · rw [committed, List.countP_append, List.countP_singleton, noGrant]
    split <;> simp_all
  · intro before middle after split asks
    rcases split_append_singleton split with ⟨rfl, rfl, rfl⟩ | ⟨older, inside, rfl⟩
    · refine ⟨?_, noRefusal⟩
      rw [← faithful.added_eq, full asks, faithful.intended_eq]
    · exact faithful.commit_full before middle older inside asks
  · intro before middle after split ends
    rcases split_append_singleton split with ⟨-, -, rfl⟩ | ⟨older, inside, rfl⟩
    · rfl
    · have mem : middle ∈ history := by simp [inside]
      rcases ends with refuses | grants
      · rw [noRefusal middle mem] at refuses
        cases refuses
      · exact absurd grants (noGrantIn middle mem)

/-- The end of its commit task keeps a session faithful. -/
theorem withFinalState (faithful : Faithful intended history session)
    (committed : session.state = .commitRequested) {task : Task} {state : State}
    (final : finalState? task.state = some state) :
    Faithful intended history (session.withState state) := by
  have isCommitted : session.IsCommitted := Or.inl committed
  have granted := faithful.committed_iff.mp isCommitted
  have notAbandoned : ¬∃ turn ∈ history, refusesItem turn = true := by
    rw [← faithful.abandoned_iff, committed]
    exact State.noConfusion
  have isFinal : state = .done ∨ state = .failed :=
    (finalState?_eq_some_iff.mp final).imp And.right And.right
  have stillCommitted : (session.withState state).IsCommitted := Or.inr isFinal
  exact
    { intended_eq := faithful.intended_eq
      added_eq := faithful.added_eq
      abandoned_iff := by
        rcases isFinal with rfl | rfl <;> simpa [withState] using notAbandoned
      granted_le := faithful.granted_le
      committed_iff := iff_of_true stillCommitted granted
      committed_full := fun _ => faithful.committed_full isCommitted
      commit_full := faithful.commit_full
      silent := faithful.silent }

end Faithful

theorem Move.faithful {turn : GatewayTurn} (move : Move session turn next)
    (faithful : Faithful intended history session) :
    Faithful intended (history ++ [turn]) next := by
  cases move with
  | taken isOpen fromDate item =>
      refine faithful.append_turn isOpen rfl rfl ?_ ?_ ?_ ?_ <;>
        simp [IsCommitted, isOpen, additionOf, refusesItem, grantsCommit, asksCommit]
  | refused isOpen fromDate item cause =>
      refine faithful.append_turn isOpen rfl rfl ?_ ?_ ?_ ?_ <;>
        simp [IsCommitted, withState, refusalOf, refusesItem, grantsCommit, asksCommit]
  | commit isOpen complete deadline answer =>
      cases answer with
      | ok task =>
          refine faithful.append_turn isOpen rfl rfl ?_ ?_ ?_ ?_ <;>
            simp [IsCommitted, answeredCommit, withState, commitOf, refusesItem, grantsCommit,
              complete]
      | error fault =>
          refine faithful.append_turn isOpen rfl rfl ?_ ?_ ?_ ?_ <;>
            simp [IsCommitted, answeredCommit, isOpen, commitOf, refusesItem, grantsCommit,
              complete]

theorem Moves.faithful (moves : Moves session turns next)
    (faithful : Faithful intended history session) :
    Faithful intended (history ++ turns) next := by
  induction moves generalizing history with
  | none session =>
      rw [List.append_nil]
      exact faithful
  | more move moves induction_hypothesis =>
      rw [List.append_cons]
      exact induction_hypothesis (move.faithful faithful)

theorem Move.unended {turn : GatewayTurn} (move : Move session turn next) :
    next.state ≠ .done ∧ next.state ≠ .failed := by
  cases move with
  | taken isOpen fromDate item => simp [isOpen]
  | refused isOpen fromDate item cause => simp [withState]
  | commit isOpen complete deadline answer =>
      cases answer with
      | ok task => simp [answeredCommit, withState]
      | error fault => simp [answeredCommit, isOpen]

theorem Move.isOpen {turn : GatewayTurn} (move : Move session turn next) :
    session.state = .opened := by
  cases move with
  | taken isOpen fromDate item => exact isOpen
  | refused isOpen fromDate item cause => exact isOpen
  | commit isOpen complete deadline answer => exact isOpen

/-- Moves change only an open session, and do not end it. -/
theorem Moves.unended (moves : Moves session turns next) :
    next = session ∨ (session.state = .opened ∧ next.state ≠ .done ∧ next.state ≠ .failed) := by
  induction moves with
  | none session => exact Or.inl rfl
  | more move moves induction_hypothesis =>
      right
      refine ⟨move.isOpen, ?_⟩
      rcases induction_hypothesis with same | ⟨-, unended⟩
      · rw [same]
        exact move.unended
      · exact unended

theorem faithful_of_runs_create {env : String}
    (run : Runs (create env intended).run turns (some (.ok session))) :
    session.state = .opened ∧ Faithful intended turns session := by
  rcases runs_create_iff.mp run with ⟨answer, rfl, same⟩
  cases answer with
  | error fault => cases Option.some.inj same
  | ok publish =>
      rcases Except.ok.inj (Option.some.inj same) with rfl
      have untouched : Faithful intended [] (ofPublish publish intended) :=
        { intended_eq := rfl
          added_eq := rfl
          abandoned_iff := by simp [ofPublish]
          granted_le := Nat.zero_le 1
          committed_iff := by simp [IsCommitted, ofPublish]
          committed_full := by simp [IsCommitted, ofPublish]
          commit_full := by simp
          silent := by simp }
      refine ⟨rfl, untouched.append_turn rfl rfl rfl ?_ ?_ ?_ ?_⟩ <;>
        simp [IsCommitted, ofPublish, refusesItem, grantsCommit, asksCommit]

/-- Whatever calls are made, in whatever order and with any answers, the session is faithful. -/
theorem Reached.faithful {env : String} {calls : List Call}
    (reached : Reached env intended calls history session) :
    Faithful intended history session := by
  induction reached with
  | created run => exact (faithful_of_runs_create run).2
  | called sofar call run induction_hypothesis =>
      rcases moves_or_finishes run with moves | ⟨committed, rfl, task, state, -, final, rfl⟩
      · exact moves.faithful induction_hypothesis
      · rw [List.append_nil]
        exact induction_hypothesis.withFinalState committed final

/-- A session ends only by being finished with the task that has that end, and stays ended. -/
theorem final_of_runs_perform {call : Call} (run : Runs (session.perform call) turns (some next))
    {final : State} (isFinal : final = .done ∨ final = .failed) :
    (session.state = final → next.state = final) ∧
      (session.state ≠ final → next.state = final → session.state = .commitRequested ∧
        ∃ task, call = .finish task ∧ finalState? task.state = some final) := by
  have notFinal : ∀ state : State, state ≠ .done → state ≠ .failed → state ≠ final := by
    intro state notDone notFailed
    rcases isFinal with rfl | rfl
    · exact notDone
    · exact notFailed
  rcases moves_or_finishes run with moves | ⟨committed, -, task, state, rfl, ends, rfl⟩
  · rcases moves.unended with rfl | ⟨isOpen, notDone, notFailed⟩
    · exact ⟨id, fun other ended => absurd ended other⟩
    · refine ⟨fun ended => ?_, fun _ ended => absurd ended (notFinal _ notDone notFailed)⟩
      rw [isOpen] at ended
      exact absurd ended (notFinal _ State.noConfusion State.noConfusion)
  · refine ⟨fun ended => ?_, fun _ ended => ⟨committed, task, rfl, ?_⟩⟩
    · rw [committed] at ended
      exact absurd ended (notFinal _ State.noConfusion State.noConfusion)
    · rw [ends]
      exact congrArg some ended

/-- A session says of itself what its history says of it, after any calls with any answers; and it
ends only by being finished, for good, with a task that has come to the same end. -/
theorem reached_faithful {env : String} {calls : List Call}
    (reached : Reached env intended calls history session) :
    Faithful intended history session ∧
      ∀ call turns next, Runs (session.perform call) turns (some next) →
        (session.state ≠ .done → next.state = .done → session.state = .commitRequested ∧
          ∃ task, call = .finish task ∧ task.state = .complete) ∧
        (session.state ≠ .failed → next.state = .failed → session.state = .commitRequested ∧
          ∃ task, call = .finish task ∧ task.state = .failed) ∧
        (session.state = .done → next.state = .done) ∧
        (session.state = .failed → next.state = .failed) := by
  refine ⟨reached.faithful, fun call turns next run => ?_⟩
  rcases final_of_runs_perform run (Or.inl rfl) with ⟨staysDone, becomesDone⟩
  rcases final_of_runs_perform run (Or.inr rfl) with ⟨staysFailed, becomesFailed⟩
  refine ⟨fun other ended => ?_, fun other ended => ?_, staysDone, staysFailed⟩
  · rcases becomesDone other ended with ⟨committed, task, rfl, ends⟩
    exact ⟨committed, task, rfl, by simpa [finalState?_eq_some_iff] using ends⟩
  · rcases becomesFailed other ended with ⟨committed, task, rfl, ends⟩
    exact ⟨committed, task, rfl, by simpa [finalState?_eq_some_iff] using ends⟩

/-- A commit that is denied leaves the session open; granted the second time, it is finished. -/
theorem reached_faithful_second_commit :
    Reached "live" 1
      [.addItem "now" ⟨none, "/old", .absent, none⟩, .commit none, .commit none,
        .finish ⟨"t", .complete, .none, none, none, none⟩]
      [⟨.createPublish "live", .ok ⟨"p", .none, none, none⟩⟩,
        additionOf ⟨"p", .none, none, none⟩ "now" ⟨none, "/old", .absent, none⟩,
        commitOf ⟨"p", .none, none, none⟩ none (.error (.transport "u" "lost")),
        commitOf ⟨"p", .none, none, none⟩ none (.ok ⟨"t", .inProgress, .none, none, none, none⟩)]
      ⟨⟨"p", .none, none, none⟩, .done, 1, 1⟩ ∧
    Faithful 1
      [⟨.createPublish "live", .ok ⟨"p", .none, none, none⟩⟩,
        additionOf ⟨"p", .none, none, none⟩ "now" ⟨none, "/old", .absent, none⟩,
        commitOf ⟨"p", .none, none, none⟩ none (.error (.transport "u" "lost")),
        commitOf ⟨"p", .none, none, none⟩ none (.ok ⟨"t", .inProgress, .none, none, none, none⟩)]
      ⟨⟨"p", .none, none, none⟩, .done, 1, 1⟩ := by
  have created : Runs (create "live" 1).run
      [⟨.createPublish "live", .ok ⟨"p", .none, none, none⟩⟩]
      (some (.ok (ofPublish ⟨"p", .none, none, none⟩ 1))) :=
    runs_create_iff.mpr ⟨.ok ⟨"p", .none, none, none⟩, rfl, rfl⟩
  have added := (Reached.created created).called
    (.addItem "now" ⟨none, "/old", .absent, none⟩)
    (runs_bind_pure_some_iff.mpr ⟨_, (runs_addItem_of_opened _ _ rfl).mpr (Or.inl ⟨rfl, rfl⟩), rfl⟩)
  have denied := added.called (.commit none) (runs_bind_pure_some_iff.mpr
    ⟨_, (runs_commit_of_complete rfl rfl).mpr ⟨.error (.transport "u" "lost"), rfl, rfl⟩, rfl⟩)
  have granted := denied.called (.commit none) (runs_bind_pure_some_iff.mpr
    ⟨_, (runs_commit_of_complete rfl rfl).mpr
      ⟨.ok ⟨"t", .inProgress, .none, none, none, none⟩, rfl, rfl⟩, rfl⟩)
  have finished := granted.called (.finish ⟨"t", .complete, .none, none, none, none⟩)
    (runs_pure_iff.mpr ⟨rfl, rfl⟩)
  exact ⟨finished, (reached_faithful finished).1⟩

end CdnPublish.Session
