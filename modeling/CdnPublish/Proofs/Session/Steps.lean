import CdnPublish.Proofs.Program.Fallible
import CdnPublish.Session

/-!
# The steps of a session

What each step of a session asks, and what it makes of the answer. A step that the state forbids
asks nothing; a step that asks puts exactly one question for each item or commit, and the answer
alone decides the session after it.
-/

namespace CdnPublish.Session

open Program

variable {session : Session} {fromDate : String} {item : Item} {items : List Item}
  {deadline : Option String} {turns : List GatewayTurn}

/-- The session after the gateway has taken a number of items. -/
def withMore (session : Session) (count : Nat) : Session :=
  { session with added := session.added + count }

/-- The turn in which the gateway takes an item. -/
def additionOf (publish : Publish) (fromDate : String) (item : Item) : GatewayTurn :=
  ⟨.addItem publish (item.record fromDate), .ok ()⟩

/-- The turn in which the gateway refuses an item. -/
def refusalOf (publish : Publish) (fromDate : String) (cause : SyncFault) (item : Item) :
    GatewayTurn :=
  ⟨.addItem publish (item.record fromDate), .error cause⟩

/-- The turn in which a commit is asked for. -/
def commitOf (publish : Publish) (deadline : Option String) (answer : Except SyncFault Task) :
    GatewayTurn :=
  ⟨.commitPublish publish deadline, answer⟩

@[simp]
theorem withMore_publish {count : Nat} : (session.withMore count).publish = session.publish := rfl

@[simp]
theorem withMore_state {count : Nat} : (session.withMore count).state = session.state := rfl

theorem withMore_withMore {first second : Nat} :
    (session.withMore first).withMore second = session.withMore (first + second) := by
  simp [withMore, Nat.add_assoc]

theorem runs_create_iff {env : String} {intended : Nat}
    {ending : Option (Except SyncFault Session)} :
    Runs (create env intended).run turns ending ↔
      ∃ answer : Except SyncFault Publish, turns = [⟨.createPublish env, answer⟩] ∧
        ending = some (answer.map (ofPublish · intended)) := by
  constructor
  · intro run
    rcases runs_run_bind_iff.mp run with
      ⟨before, publish, after, ran, goesOn, rfl⟩ | ⟨fault, ran, rfl⟩ | ⟨ran, -⟩
    · rcases runs_question_iff.mp ran with ⟨answer, same, rfl⟩
      rcases Option.some.inj same with rfl
      have noted := Workflow.runs_note_bind_iff.mp goesOn
      rcases runs_run_pure_iff.mp noted with ⟨rfl, rfl⟩
      exact ⟨.ok publish, rfl, rfl⟩
    · rcases runs_question_iff.mp ran with ⟨answer, same, rfl⟩
      rcases Option.some.inj same with rfl
      exact ⟨.error fault, rfl, rfl⟩
    · rcases runs_question_iff.mp ran with ⟨answer, same, -⟩
      cases same
  · rintro ⟨answer, rfl, rfl⟩
    cases answer with
    | ok publish =>
        have asked : Runs (Gateway.createPublish env)
            [⟨Question.createPublish env, Except.ok publish⟩] (some (Except.ok publish)) :=
          runs_question_iff.mpr ⟨.ok publish, rfl, rfl⟩
        exact runs_run_bind_iff.mpr (Or.inl ⟨_, publish, [], asked, .tell (.done _), rfl⟩)
    | error fault =>
        refine runs_run_bind_iff.mpr (Or.inr (Or.inl ⟨fault, ?_, rfl⟩))
        exact runs_question_iff.mpr ⟨.error fault, rfl, rfl⟩

theorem runs_addItem_of_not_opened (notOpen : session.state ≠ .opened)
    {ending : Option (Step Unit)} :
    Runs (session.addItem fromDate item) turns ending ↔
      turns = [] ∧ ending = some (session, .error (session.forbidden "add items")) := by
  rw [addItem, if_pos notOpen]
  exact runs_pure_iff

theorem runs_addItem_of_opened (fromDate : String) (item : Item) (isOpen : session.state = .opened)
    {ending : Option (Step Unit)} :
    Runs (session.addItem fromDate item) turns ending ↔
      (turns = [additionOf session.publish fromDate item] ∧
        ending = some (session.withMore 1, .ok ())) ∨
      ∃ cause, turns = [refusalOf session.publish fromDate cause item] ∧
        ending = some (session.withState .abandoned, .error (session.abandonment cause)) := by
  rw [addItem, if_neg (fun notOpen => notOpen isOpen)]
  constructor
  · intro run
    rcases runs_question_bind_iff.mp run with ⟨answer, later, ran, rfl⟩
    cases answer with
    | ok taken =>
        have noted := runs_note_bind_iff.mp ran
        rcases runs_pure_iff.mp noted with ⟨rfl, rfl⟩
        exact Or.inl ⟨rfl, rfl⟩
    | error cause =>
        have noted := runs_note_bind_iff.mp ran
        rcases runs_pure_iff.mp noted with ⟨rfl, rfl⟩
        exact Or.inr ⟨cause, rfl, rfl⟩
  · rintro (⟨rfl, rfl⟩ | ⟨cause, rfl, rfl⟩)
    · apply runs_question_bind_iff.mpr
      exact ⟨Except.ok (), [], .tell (.done _), rfl⟩
    · apply runs_question_bind_iff.mpr
      exact ⟨Except.error cause, [], .tell (.done _), rfl⟩

theorem runs_addItems_of_not_opened (notOpen : session.state ≠ .opened)
    {ending : Option (Step Unit)} :
    Runs (session.addItems fromDate items) turns ending ↔
      turns = [] ∧ ending = some (session,
        if items = [] then .ok () else .error (session.forbidden "add items")) := by
  cases items with
  | nil => exact runs_pure_iff
  | cons item items =>
      rw [addItems, runs_bind_iff]
      constructor
      · rintro (⟨before, step, after, ran, goesOn, rfl⟩ | ⟨ran, -⟩)
        · rcases (runs_addItem_of_not_opened notOpen).mp ran with ⟨rfl, same⟩
          rcases Option.some.inj same with rfl
          exact runs_pure_iff.mp goesOn
        · rcases (runs_addItem_of_not_opened notOpen).mp ran with ⟨-, never⟩
          cases never
      · rintro ⟨rfl, rfl⟩
        have ran : Runs (session.addItem fromDate item) []
            (some (session, .error (session.forbidden "add items"))) :=
          (runs_addItem_of_not_opened notOpen).mpr ⟨rfl, rfl⟩
        exact Or.inl ⟨_, _, [], ran, runs_pure_iff.mpr ⟨rfl, rfl⟩, rfl⟩

/-- An open session asks for one item after the other, up to the first that is refused. After an
item that is taken, the rest are added to a session that is open again but counts one more. -/
theorem runs_addItems_of_opened (isOpen : session.state = .opened) {ending : Option (Step Unit)} :
    Runs (session.addItems fromDate items) turns ending ↔
      (turns = items.map (additionOf session.publish fromDate) ∧
        ending = some (session.withMore items.length, .ok ())) ∨
      ∃ before item after cause, items = before ++ item :: after ∧
        turns = before.map (additionOf session.publish fromDate) ++
          [refusalOf session.publish fromDate cause item] ∧
        ending = some ((session.withMore before.length).withState .abandoned,
          .error ((session.withMore before.length).abandonment cause)) := by
  induction items generalizing session turns ending with
  | nil =>
      rw [addItems, runs_pure_iff]
      constructor
      · rintro ⟨rfl, rfl⟩
        exact Or.inl ⟨rfl, rfl⟩
      · rintro (⟨rfl, rfl⟩ | ⟨before, item, after, cause, impossible, -⟩)
        · exact ⟨rfl, rfl⟩
        · simp at impossible
  | cons item items induction_hypothesis =>
      rw [addItems, runs_bind_iff]
      have more : ∀ count, (session.withMore 1).withMore count = session.withMore (count + 1) :=
        fun count => by rw [withMore_withMore, Nat.add_comm]
      have next : ∀ turns ending,
          Runs ((session.withMore 1).addItems fromDate items) turns ending ↔ _ :=
        fun turns ending => induction_hypothesis (show (session.withMore 1).state = _ from isOpen)
      simp only [more, withMore_publish] at next
      constructor
      · rintro (⟨first, step, later, ran, goesOn, rfl⟩ | ⟨ran, rfl⟩)
        · rcases (runs_addItem_of_opened fromDate item isOpen).mp ran with
            ⟨rfl, same⟩ | ⟨cause, rfl, same⟩
          · rcases Option.some.inj same with rfl
            rcases (next _ _).mp goesOn with
              ⟨rfl, rfl⟩ | ⟨before, refused, after, cause, rfl, rfl, rfl⟩
            · exact Or.inl ⟨rfl, rfl⟩
            · exact Or.inr ⟨item :: before, refused, after, cause, rfl, rfl, rfl⟩
          · rcases Option.some.inj same with rfl
            rcases runs_pure_iff.mp goesOn with ⟨rfl, rfl⟩
            exact Or.inr ⟨[], item, items, cause, rfl, rfl, rfl⟩
        · rcases (runs_addItem_of_opened fromDate item isOpen).mp ran with
            ⟨-, never⟩ | ⟨cause, -, never⟩
          · cases never
          · cases never
      · rintro (⟨rfl, rfl⟩ | ⟨before, refused, after, cause, split, rfl, rfl⟩)
        · have added := (runs_addItem_of_opened fromDate item isOpen).mpr (Or.inl ⟨rfl, rfl⟩)
          exact Or.inl ⟨_, _, _, added, (next _ _).mpr (Or.inl ⟨rfl, rfl⟩), rfl⟩
        · rcases before with _ | ⟨first, before⟩
          · rcases List.cons.inj split with ⟨rfl, rfl⟩
            have ran := (runs_addItem_of_opened fromDate item isOpen).mpr
              (Or.inr ⟨cause, rfl, rfl⟩)
            exact Or.inl ⟨_, _, [], ran, runs_pure_iff.mpr ⟨rfl, rfl⟩, rfl⟩
          · rcases List.cons.inj split with ⟨rfl, rfl⟩
            have added := (runs_addItem_of_opened fromDate item isOpen).mpr
              (Or.inl ⟨rfl, rfl⟩)
            have goesOn := (next _ _).mpr (Or.inr ⟨before, refused, after, cause, rfl, rfl, rfl⟩)
            exact Or.inl ⟨_, _, _, added, goesOn, rfl⟩

/-- The step that an answer to a commit amounts to: only a granted commit changes the session. -/
def answeredCommit (session : Session) : Except SyncFault Task → Step Task
  | .ok task => (session.withState .commitRequested, .ok task)
  | .error fault => (session, .error fault)

theorem runs_commit_of_not_opened (notOpen : session.state ≠ .opened)
    {ending : Option (Step Task)} :
    Runs (session.commit deadline) turns ending ↔
      turns = [] ∧ ending = some (session, .error (session.forbidden "commit")) := by
  rw [commit, if_pos notOpen]
  exact runs_pure_iff

/-- An open session with another number of items than intended is not committed and asks nothing. -/
theorem runs_commit_of_incomplete (isOpen : session.state = .opened)
    (incomplete : session.added ≠ session.intended) {ending : Option (Step Task)} :
    Runs (session.commit deadline) turns ending ↔
      turns = [] ∧ ending = some (session,
        .error (.incompletePublish session.publish.id session.added session.intended)) := by
  rw [commit, if_neg (fun notOpen => notOpen isOpen), if_pos incomplete]
  exact runs_pure_iff

/-- An open session that has every intended item asks for the commit. -/
theorem runs_commit_of_complete (isOpen : session.state = .opened)
    (complete : session.added = session.intended) {ending : Option (Step Task)} :
    Runs (session.commit deadline) turns ending ↔
      ∃ answer, turns = [commitOf session.publish deadline answer] ∧
        ending = some (session.answeredCommit answer) := by
  rw [commit, if_neg (fun notOpen => notOpen isOpen), if_neg (fun other => other complete)]
  constructor
  · intro run
    rcases runs_question_bind_iff.mp run with ⟨answer, later, ran, rfl⟩
    cases answer with
    | ok task =>
        have noted := runs_note_bind_iff.mp ran
        rcases runs_pure_iff.mp noted with ⟨rfl, rfl⟩
        exact ⟨.ok task, rfl, rfl⟩
    | error fault =>
        rcases runs_pure_iff.mp ran with ⟨rfl, rfl⟩
        exact ⟨.error fault, rfl, rfl⟩
  · rintro ⟨answer, rfl, rfl⟩
    apply runs_question_bind_iff.mpr
    cases answer with
    | ok task => exact ⟨Except.ok task, [], .tell (.done _), rfl⟩
    | error fault => exact ⟨Except.error fault, [], .done _, rfl⟩

/-- Only the end of a task ends a session, each end in its own way. -/
theorem finalState?_eq_some_iff {progress : TaskState} {state : State} :
    finalState? progress = some state ↔
      (progress = .complete ∧ state = .done) ∨ (progress = .failed ∧ state = .failed) := by
  cases progress <;> simp [finalState?, eq_comm]

theorem finish_cases (session : Session) (task : Task) :
    (session.finish task).1 = session ∨
      (session.state = .commitRequested ∧ ∃ state, finalState? task.state = some state ∧
        (session.finish task).1 = session.withState state) := by
  unfold finish
  split
  · exact Or.inl rfl
  · rename_i committed
    split
    · rename_i state final
      exact Or.inr ⟨Decidable.not_not.mp committed, state, final, rfl⟩
    · exact Or.inl rfl

/-- The end of its commit task can always be recorded in a session. -/
theorem exists_finish_eq_ok {session : Session} {task : Task}
    (committed : session.state = .commitRequested) (ended : task.state.isTerminal = true) :
    ∃ state, (session.finish task).2 = .ok state := by
  unfold finish
  rw [if_neg (fun other => other committed)]
  cases progress : task.state with
  | complete => exact ⟨.done, rfl⟩
  | failed => exact ⟨.failed, rfl⟩
  | notStarted => simp [progress, TaskState.isTerminal] at ended
  | inProgress => simp [progress, TaskState.isTerminal] at ended
  | unknown => simp [progress, TaskState.isTerminal] at ended

end CdnPublish.Session
