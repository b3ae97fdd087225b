import CdnPublish.Program

/-!
# Runs of programs

A run is what an observer of the questions sees: the questions in order, each with the answer that
it was given, and the result at the end. The relation `Runs` leaves every answer open, so a
statement about all runs is a statement about all surroundings, also about those that change their
mind or answer out of spite. `Leads` is a run that is still under way: the turns taken so far and
the program that is left.

A program that is made of others has the runs that its parts have, one after the other. The lemmas
of this module say so for every way of putting programs together; later modules never look into the
programs themselves.
-/

namespace CdnPublish.Program

/-- A question with the answer that it was given. -/
structure Turn (Question : Type) (Answer : Question → Type) where
  question : Question
  answer : Answer question

variable {Question : Type} {Answer : Question → Type} {Result Other Fault : Type}

/-- The complete runs of a program: the turns taken, and the result unless the program stalled. -/
inductive Runs : Program Question Answer Result → List (Turn Question Answer) → Option Result → Prop
  where
  | done (result : Result) : Runs (.done result) [] (some result)
  | tell {entry : Log.Entry} {rest : Program Question Answer Result}
      {turns : List (Turn Question Answer)} {ending : Option Result}
      (told : Runs rest turns ending) : Runs (.tell entry rest) turns ending
  | ask {question : Question} {rest : Answer question → Program Question Answer Result}
      {turns : List (Turn Question Answer)} {ending : Option Result} (answer : Answer question)
      (answered : Runs (rest answer) turns ending) :
      Runs (.ask question rest) (⟨question, answer⟩ :: turns) ending
  | stalled : Runs .stalled [] none

/-- A run that is under way: the turns taken so far and the program that is left. -/
inductive Leads : Program Question Answer Result → List (Turn Question Answer) →
    Program Question Answer Result → Prop where
  | refl (program : Program Question Answer Result) : Leads program [] program
  | tell {entry : Log.Entry} {rest left : Program Question Answer Result}
      {turns : List (Turn Question Answer)} (told : Leads rest turns left) :
      Leads (.tell entry rest) turns left
  | ask {question : Question} {rest : Answer question → Program Question Answer Result}
      {turns : List (Turn Question Answer)} {left : Program Question Answer Result}
      (answer : Answer question) (answered : Leads (rest answer) turns left) :
      Leads (.ask question rest) (⟨question, answer⟩ :: turns) left

section Runs

variable {program : Program Question Answer Result} {turns : List (Turn Question Answer)}
  {ending : Option Result}

@[simp]
theorem runs_done_iff {result : Result} :
    Runs (.done result : Program Question Answer Result) turns ending ↔
      turns = [] ∧ ending = some result := by
  constructor
  · intro run
    cases run
    exact ⟨rfl, rfl⟩
  · rintro ⟨rfl, rfl⟩
    exact .done result

@[simp]
theorem runs_pure_iff {result : Result} :
    Runs (pure result : Program Question Answer Result) turns ending ↔
      turns = [] ∧ ending = some result :=
  runs_done_iff

@[simp]
theorem runs_tell_iff {entry : Log.Entry} :
    Runs (.tell entry program) turns ending ↔ Runs program turns ending := by
  constructor
  · intro run
    cases run with
    | tell told => exact told
  · exact .tell

@[simp]
theorem runs_ask_iff {question : Question}
    {rest : Answer question → Program Question Answer Result} :
    Runs (.ask question rest) turns ending ↔
      ∃ answer later, Runs (rest answer) later ending ∧ turns = ⟨question, answer⟩ :: later := by
  constructor
  · intro run
    cases run with
    | ask answer answered => exact ⟨answer, _, answered, rfl⟩
  · rintro ⟨answer, later, answered, rfl⟩
    exact .ask answer answered

@[simp]
theorem runs_stalled_iff :
    Runs (.stalled : Program Question Answer Result) turns ending ↔ turns = [] ∧ ending = none := by
  constructor
  · intro run
    cases run
    exact ⟨rfl, rfl⟩
  · rintro ⟨rfl, rfl⟩
    exact .stalled

/-- A sequence runs its first part to the end and then the part that the result leads to; where the
first part stalls, the whole stalls. -/
theorem runs_bind_iff {first : Program Question Answer Other}
    {next : Other → Program Question Answer Result} :
    Runs (first >>= next) turns ending ↔
      (∃ before value after, Runs first before (some value) ∧ Runs (next value) after ending ∧
        turns = before ++ after) ∨ (Runs first turns none ∧ ending = none) := by
  induction first generalizing turns with
  | done result =>
      constructor
      · intro run
        exact Or.inl ⟨[], result, turns, .done result, run, rfl⟩
      · rintro (⟨before, value, after, ran, goesOn, rfl⟩ | ⟨ran, -⟩)
        · cases ran
          exact goesOn
        · cases ran
  | tell entry rest induction_hypothesis => simp [induction_hypothesis]
  | stalled => simp
  | ask question rest induction_hypothesis =>
      simp only [ask_bind, runs_ask_iff, induction_hypothesis]
      constructor
      · rintro ⟨answer, later, ⟨before, value, after, ran, goesOn, rfl⟩ | ⟨ran, rfl⟩, rfl⟩
        · exact Or.inl ⟨⟨question, answer⟩ :: before, value, after, ⟨answer, before, ran, rfl⟩,
            goesOn, rfl⟩
        · exact Or.inr ⟨⟨answer, later, ran, rfl⟩, rfl⟩
      · rintro (⟨_, value, after, ⟨answer, before, ran, rfl⟩, goesOn, rfl⟩ |
          ⟨⟨answer, later, ran, rfl⟩, rfl⟩)
        · exact ⟨answer, before ++ after, Or.inl ⟨before, value, after, ran, goesOn, rfl⟩, rfl⟩
        · exact ⟨answer, later, Or.inr ⟨ran, rfl⟩, rfl⟩

/-- Sequences with the same first part have the same runs if what follows has. -/
theorem runs_bind_congr {first : Program Question Answer Other}
    {next other : Other → Program Question Answer Result}
    (same : ∀ value turns, Runs (next value) turns ending ↔ Runs (other value) turns ending) :
    Runs (first >>= next) turns ending ↔ Runs (first >>= other) turns ending := by
  simp only [runs_bind_iff, same]

/-- A program whose result is only looked at has the runs of the program. -/
theorem runs_bind_pure_iff {first : Program Question Answer Other} {view : Other → Result} :
    Runs (first >>= fun value => pure (view value)) turns ending ↔
      ∃ ended, Runs first turns ended ∧ ending = ended.map view := by
  rw [runs_bind_iff]
  constructor
  · rintro (⟨before, value, after, ran, looked, rfl⟩ | ⟨ran, rfl⟩)
    · rcases runs_pure_iff.mp looked with ⟨rfl, rfl⟩
      rw [List.append_nil]
      exact ⟨some value, ran, rfl⟩
    · exact ⟨none, ran, rfl⟩
  · rintro ⟨ended, ran, rfl⟩
    cases ended with
    | none => exact Or.inr ⟨ran, rfl⟩
    | some value =>
        refine Or.inl ⟨turns, value, [], ran, runs_pure_iff.mpr ⟨rfl, rfl⟩, ?_⟩
        rw [List.append_nil]

theorem runs_bind_pure_some_iff {first : Program Question Answer Other} {view : Other → Result}
    {result : Result} :
    Runs (first >>= fun value => pure (view value)) turns (some result) ↔
      ∃ value, Runs first turns (some value) ∧ result = view value := by
  rw [runs_bind_pure_iff]
  constructor
  · rintro ⟨ended, ran, same⟩
    cases ended with
    | none => cases same
    | some value => exact ⟨value, ran, Option.some.inj same⟩
  · rintro ⟨value, ran, rfl⟩
    exact ⟨some value, ran, rfl⟩

@[simp]
theorem runs_question_iff {asked : Question} {ending : Option (Answer asked)} :
    Runs (question asked : Program Question Answer (Answer asked)) turns ending ↔
      ∃ answer, ending = some answer ∧ turns = [⟨asked, answer⟩] := by
  simp [question, and_assoc]

@[simp]
theorem runs_question_bind_iff {asked : Question}
    {next : Answer asked → Program Question Answer Result} :
    Runs (question asked >>= next) turns ending ↔
      ∃ answer later, Runs (next answer) later ending ∧ turns = ⟨asked, answer⟩ :: later := by
  simp [question]

@[simp]
theorem runs_note_bind_iff {entry : Log.Entry} {next : Unit → Program Question Answer Result} :
    Runs (note entry >>= next) turns ending ↔ Runs (next ()) turns ending := by
  simp [note]

theorem runs_ofNarrated_iff {computation : Narrated Fault Result}
    {ending : Option (Except Fault Result)} :
    Runs (ofNarrated computation : Program Question Answer (Except Fault Result)) turns ending ↔
      turns = [] ∧ ending = some computation.result := by
  have told : ∀ entries : List Log.Entry,
      Runs (entries.foldr .tell (.done computation.result) :
        Program Question Answer (Except Fault Result)) turns ending ↔
        turns = [] ∧ ending = some computation.result := by
    intro entries
    induction entries with
    | nil => simp
    | cons entry entries induction_hypothesis => simpa using induction_hypothesis
  exact told computation.log

/-- The answers alone decide how a program goes on: a run that begins with all turns of another one
is that other one. -/
theorem Runs.eq_of_append {more : List (Turn Question Answer)} {other : Option Result}
    (run : Runs program turns ending) (longer : Runs program (turns ++ more) other) :
    more = [] ∧ other = ending := by
  induction run with
  | done result => exact runs_done_iff.mp longer
  | stalled => exact runs_stalled_iff.mp longer
  | tell told induction_hypothesis => exact induction_hypothesis (runs_tell_iff.mp longer)
  | ask answer answered induction_hypothesis =>
      cases longer with
      | ask _ goesOn => exact induction_hypothesis goesOn

/-- A program that comes to its result in some surroundings goes on from there. -/
theorem run_bind {State : Type} {answer : (question : Question) → State → Answer question × State}
    {first : Program Question Answer Other} {next : Other → Program Question Answer Result}
    {told after : List Log.Entry} {state later : State} {value : Other}
    (ran : run answer told state first = ⟨after, later, some value⟩) :
    run answer told state (first >>= next) = run answer after later (next value) := by
  induction first generalizing told state with
  | done result =>
      cases ran
      rfl
  | stalled => cases ran
  | tell entry rest induction_hypothesis => exact induction_hypothesis ran
  | ask question rest induction_hypothesis => exact induction_hypothesis _ ran

end Runs

section Leads

variable {first middle last : Program Question Answer Result}
  {before after : List (Turn Question Answer)}

theorem Leads.trans (start : Leads first before middle) (goesOn : Leads middle after last) :
    Leads first (before ++ after) last := by
  induction start with
  | refl program => exact goesOn
  | tell told induction_hypothesis => exact .tell (induction_hypothesis goesOn)
  | ask answer answered induction_hypothesis => exact .ask answer (induction_hypothesis goesOn)

theorem Leads.runs {ending : Option Result} (start : Leads first before middle)
    (run : Runs middle after ending) : Runs first (before ++ after) ending := by
  induction start with
  | refl program => exact run
  | tell told induction_hypothesis => exact .tell (induction_hypothesis run)
  | ask answer answered induction_hypothesis => exact .ask answer (induction_hypothesis run)

/-- The runs that go on from where a program has come to are the runs of what is left of it. -/
theorem Leads.runs_iff {ending : Option Result} (start : Leads first before middle) :
    Runs first (before ++ after) ending ↔ Runs middle after ending := by
  refine ⟨fun run => ?_, start.runs⟩
  induction start with
  | refl program => exact run
  | tell told induction_hypothesis => exact induction_hypothesis (runs_tell_iff.mp run)
  | ask answer answered induction_hypothesis =>
      cases run with
      | ask _ goesOn => exact induction_hypothesis goesOn

/-- A program that has come to its result leads on to what follows it. -/
theorem Runs.leads_bind {program : Program Question Answer Other} {value : Other}
    {next : Other → Program Question Answer Result} (run : Runs program before (some value))
    (goesOn : Leads (next value) after last) : Leads (program >>= next) (before ++ after) last := by
  induction program generalizing before with
  | done result =>
      cases run
      exact goesOn
  | stalled => cases run
  | tell entry rest induction_hypothesis =>
      exact .tell (induction_hypothesis (runs_tell_iff.mp run))
  | ask question rest induction_hypothesis =>
      rcases runs_ask_iff.mp run with ⟨answer, later, answered, rfl⟩
      exact .ask answer (induction_hypothesis answer answered)

end Leads

end CdnPublish.Program
