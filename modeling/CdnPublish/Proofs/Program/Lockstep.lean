import CdnPublish.Proofs.Program.Questions

/-!
# Programs in step

Two programs are in step if they ask the same questions as long as the answers are alike, and then
end alike. What alike means may change in the course of the programs, so a `Tolerance` has phases: a
phase says how far the answers to a question may differ, and a question leads from one phase to the
next. Entries are left out of account.

`InStep` is read off the texts of the two programs, part by part. `InStep.runs` is what it is good
for: of any two runs whose answers are alike, both ask the same questions and both end alike.
-/

namespace CdnPublish.Program

/-- How far the answers that two programs are given may differ. -/
structure Tolerance (Question : Type) (Answer : Question → Type) (Phase : Type) where
  /-- The phase after a question. -/
  next : Phase → Question → Phase
  alike : Phase → (question : Question) → Answer question → Answer question → Prop

variable {Question : Type} {Answer : Question → Type} {Phase Result Other Value Another : Type}
  {tolerance : Tolerance Question Answer Phase} {phase : Phase}

/-- Two programs that, from a phase on, ask the same questions as long as the answers are alike, and
then end alike. -/
inductive InStep (tolerance : Tolerance Question Answer Phase)
    (ended : Phase → Result → Other → Prop) :
    Phase → Program Question Answer Result → Program Question Answer Other → Prop where
  | done {phase : Phase} {result : Result} {other : Other} (alike : ended phase result other) :
      InStep tolerance ended phase (.done result) (.done other)
  | tell_left {phase : Phase} {first : Program Question Answer Result}
      {second : Program Question Answer Other} (entry : Log.Entry)
      (steps : InStep tolerance ended phase first second) :
      InStep tolerance ended phase (.tell entry first) second
  | tell_right {phase : Phase} {first : Program Question Answer Result}
      {second : Program Question Answer Other} (entry : Log.Entry)
      (steps : InStep tolerance ended phase first second) :
      InStep tolerance ended phase first (.tell entry second)
  | ask {phase : Phase} (question : Question)
      {first : Answer question → Program Question Answer Result}
      {second : Answer question → Program Question Answer Other}
      (answered : ∀ answer another, tolerance.alike phase question answer another →
        InStep tolerance ended (tolerance.next phase question) (first answer) (second another)) :
      InStep tolerance ended phase (.ask question first) (.ask question second)
  | stalled (phase : Phase) : InStep tolerance ended phase .stalled .stalled

/-- The answers in two runs are alike as long as the questions are the same. -/
inductive Agree (tolerance : Tolerance Question Answer Phase) :
    Phase → List (Turn Question Answer) → List (Turn Question Answer) → Prop where
  | over_left (phase : Phase) (turns : List (Turn Question Answer)) : Agree tolerance phase [] turns
  | over_right (phase : Phase) (turns : List (Turn Question Answer)) :
      Agree tolerance phase turns []
  | apart (phase : Phase) {turn other : Turn Question Answer}
      (turns others : List (Turn Question Answer)) (differ : turn.question ≠ other.question) :
      Agree tolerance phase (turn :: turns) (other :: others)
  | more {phase : Phase} {question : Question} {answer another : Answer question}
      {turns others : List (Turn Question Answer)}
      (alike : tolerance.alike phase question answer another)
      (later : Agree tolerance (tolerance.next phase question) turns others) :
      Agree tolerance phase (⟨question, answer⟩ :: turns) (⟨question, another⟩ :: others)

/-- The questions of a run, in order. -/
def asked (turns : List (Turn Question Answer)) : List Question :=
  turns.map (·.question)

namespace InStep

variable {ended : Phase → Result → Other → Prop} {middle : Phase → Value → Another → Prop}

theorem bind {first : Program Question Answer Value} {second : Program Question Answer Another}
    {next : Value → Program Question Answer Result}
    {other : Another → Program Question Answer Other}
    (steps : InStep tolerance middle phase first second)
    (goesOn : ∀ phase value another, middle phase value another →
      InStep tolerance ended phase (next value) (other another)) :
    InStep tolerance ended phase (first >>= next) (second >>= other) := by
  induction steps with
  | done alike => exact goesOn _ _ _ alike
  | tell_left entry _ induction_hypothesis => exact .tell_left entry induction_hypothesis
  | tell_right entry _ induction_hypothesis => exact .tell_right entry induction_hypothesis
  | ask question _ induction_hypothesis => exact .ask question induction_hypothesis
  | stalled phase => exact .stalled phase

theorem mono {wider : Phase → Result → Other → Prop} {first : Program Question Answer Result}
    {second : Program Question Answer Other} (steps : InStep tolerance ended phase first second)
    (widen : ∀ last result other, ended last result other → wider last result other) :
    InStep tolerance wider phase first second := by
  induction steps with
  | done alike => exact .done (widen _ _ _ alike)
  | tell_left entry _ induction_hypothesis => exact .tell_left entry induction_hypothesis
  | tell_right entry _ induction_hypothesis => exact .tell_right entry induction_hypothesis
  | ask question _ induction_hypothesis => exact .ask question induction_hypothesis
  | stalled phase => exact .stalled phase

/-- Before a result that comes without asking, a program has nothing but entries. -/
theorem of_runs_nil {first : Program Question Answer Result}
    {second : Program Question Answer Other} {result : Result} {other : Other}
    (run : Runs first [] (some result)) (otherRun : Runs second [] (some other))
    (alike : ended phase result other) :
    InStep tolerance ended phase first second := by
  induction first with
  | done given =>
      rcases runs_done_iff.mp run with ⟨-, same⟩
      cases same
      induction second with
      | done given =>
          rcases runs_done_iff.mp otherRun with ⟨-, same⟩
          cases same
          exact .done alike
      | tell entry rest induction_hypothesis =>
          exact .tell_right entry (induction_hypothesis (runs_tell_iff.mp otherRun))
      | ask question rest _ => cases otherRun
      | stalled => cases otherRun
  | tell entry rest induction_hypothesis =>
      exact .tell_left entry (induction_hypothesis (runs_tell_iff.mp run))
  | ask question rest _ => cases run
  | stalled => cases run

/-- A program that asks one question is in step with any other that asks it first and makes alike
results of alike answers. -/
theorem of_ask {question : Question} [Nonempty (Answer question)]
    {rest : Answer question → Program Question Answer Result}
    {second : Program Question Answer Other}
    {judge : Answer question → Result} {otherJudge : Answer question → Other}
    (run : ∀ answer, Runs (rest answer) [] (some (judge answer)))
    (otherRun : ∀ answer, Runs second [⟨question, answer⟩] (some (otherJudge answer)))
    (alike : ∀ answer another, tolerance.alike phase question answer another →
      ended (tolerance.next phase question) (judge answer) (otherJudge another)) :
    InStep tolerance ended phase (.ask question rest) second := by
  rcases ‹Nonempty (Answer question)› with ⟨given⟩
  induction second with
  | done result => cases otherRun given
  | tell entry others induction_hypothesis =>
      exact .tell_right entry
        (induction_hypothesis fun answer => runs_tell_iff.mp (otherRun answer))
  | ask question others _ =>
      cases otherRun given
      refine .ask _ fun answer another isAlike => ?_
      refine of_runs_nil (run answer) ?_ (alike answer another isAlike)
      cases otherRun another with
      | ask _ answered => exact answered
  | stalled => cases otherRun given

theorem of_question {question : Question} [Nonempty (Answer question)]
    {first : Program Question Answer Result} {second : Program Question Answer Other}
    {judge : Answer question → Result} {otherJudge : Answer question → Other}
    (run : ∀ answer, Runs first [⟨question, answer⟩] (some (judge answer)))
    (otherRun : ∀ answer, Runs second [⟨question, answer⟩] (some (otherJudge answer)))
    (alike : ∀ answer another, tolerance.alike phase question answer another →
      ended (tolerance.next phase question) (judge answer) (otherJudge another)) :
    InStep tolerance ended phase first second := by
  rcases ‹Nonempty (Answer question)› with ⟨given⟩
  induction first with
  | done result => cases run given
  | tell entry rest induction_hypothesis =>
      exact .tell_left entry (induction_hypothesis fun answer => runs_tell_iff.mp (run answer))
  | ask question rest _ =>
      cases run given
      refine of_ask (fun answer => ?_) otherRun alike
      cases run answer with
      | ask _ answered => exact answered
  | stalled => cases run given

/-- A program is in step with itself if every question that it may ask is answered by a program
that is, with one and the same answer. -/
theorem answeredBy {Outer : Type} {Given : Outer → Type}
    {answer : (question : Outer) → Program Question Answer (Given question)}
    {allowed : Outer → Prop} {alike : Phase → Result → Result → Prop}
    {program : Program Outer Given Result} (asks : program.AsksOnly allowed)
    (answered : ∀ question, allowed question →
      InStep tolerance (fun last result other => last = phase ∧ result = other) phase
        (answer question) (answer question))
    (same : ∀ result, alike phase result result) :
    InStep tolerance alike phase (program.answeredBy answer) (program.answeredBy answer) := by
  induction program with
  | done result => exact .done (same result)
  | tell entry rest induction_hypothesis =>
      exact .tell_left entry (.tell_right entry (induction_hypothesis asks))
  | ask question rest induction_hypothesis =>
      apply (answered question asks.1).bind
      rintro last result other ⟨rfl, rfl⟩
      exact induction_hypothesis result (asks.2 result)
  | stalled => exact .stalled phase

/-- Two runs whose answers are alike ask the same questions, and either both end alike or both
stall. -/
theorem runs {first : Program Question Answer Result} {second : Program Question Answer Other}
    {turns others : List (Turn Question Answer)} {ending : Option Result} {another : Option Other}
    (steps : InStep tolerance ended phase first second) (run : Runs first turns ending)
    (otherRun : Runs second others another) (agree : Agree tolerance phase turns others) :
    asked turns = asked others ∧ ∃ last, Option.Rel (ended last) ending another := by
  induction steps generalizing turns others with
  | @done phase result other alike =>
      rcases runs_done_iff.mp run with ⟨rfl, rfl⟩
      rcases runs_done_iff.mp otherRun with ⟨rfl, rfl⟩
      exact ⟨rfl, phase, .some alike⟩
  | tell_left entry _ induction_hypothesis =>
      exact induction_hypothesis (runs_tell_iff.mp run) otherRun agree
  | tell_right entry _ induction_hypothesis =>
      exact induction_hypothesis run (runs_tell_iff.mp otherRun) agree
  | ask question _ induction_hypothesis =>
      rcases runs_ask_iff.mp run with ⟨answer, later, ran, rfl⟩
      rcases runs_ask_iff.mp otherRun with ⟨given, rest, otherRan, rfl⟩
      cases agree with
      | apart _ _ _ differ => exact absurd rfl differ
      | more alike goesOn =>
          rcases induction_hypothesis answer given alike ran otherRan goesOn with ⟨same, ends⟩
          exact ⟨congrArg (question :: ·) same, ends⟩
  | stalled phase =>
      rcases runs_stalled_iff.mp run with ⟨rfl, rfl⟩
      rcases runs_stalled_iff.mp otherRun with ⟨rfl, rfl⟩
      exact ⟨rfl, phase, .none⟩

end InStep

end CdnPublish.Program
