import CdnPublish.Proofs.Program.Runs

/-!
# Programs answered by programs

A program whose questions are answered by programs of other questions takes its turns at one remove:
every turn is a stretch of turns of the answering program, which comes to the answer. `Carried`
relates the turns of the one to the turns of the other.
-/

namespace CdnPublish.Program

variable {Question Inner : Type} {Answer : Question → Type} {InnerAnswer : Inner → Type}
  {Result : Type} {answer : (question : Question) → Program Inner InnerAnswer (Answer question)}

theorem answeredBy_bind {Other : Type} (first : Program Question Answer Other)
    (next : Other → Program Question Answer Result) :
    (first >>= next).answeredBy answer =
      first.answeredBy answer >>= fun value => (next value).answeredBy answer := by
  induction first with
  | done result => rfl
  | tell entry rest induction_hypothesis => exact congrArg (Program.tell entry) induction_hypothesis
  | ask question rest induction_hypothesis =>
      change answer question >>= _ = (answer question >>= _) >>= _
      rw [bind_assoc]
      exact congrArg (answer question >>= ·) (funext induction_hypothesis)
  | stalled => rfl

/-- Every turn is carried out by a run of the program that answers its question. -/
inductive Carried (answer : (question : Question) → Program Inner InnerAnswer (Answer question)) :
    List (Turn Question Answer) → List (Turn Inner InnerAnswer) → Prop where
  | none : Carried answer [] []
  | more {turn : Turn Question Answer} {later : List (Turn Question Answer)}
      {stretch rest : List (Turn Inner InnerAnswer)}
      (run : Runs (answer turn.question) stretch (some turn.answer))
      (carried : Carried answer later rest) : Carried answer (turn :: later) (stretch ++ rest)

theorem Carried.single {turn : Turn Question Answer} {later : List (Turn Question Answer)}
    {inner : Turn Inner InnerAnswer} {rest : List (Turn Inner InnerAnswer)}
    (run : Runs (answer turn.question) [inner] (some turn.answer))
    (carried : Carried answer later rest) : Carried answer (turn :: later) (inner :: rest) :=
  .more run carried

/-- What carries out a sequence of turns carries out its parts one after the other. -/
theorem carried_append_iff {first second : List (Turn Question Answer)}
    {turns : List (Turn Inner InnerAnswer)} :
    Carried answer (first ++ second) turns ↔
      ∃ before after, Carried answer first before ∧ Carried answer second after ∧
        turns = before ++ after := by
  induction first generalizing turns with
  | nil =>
      constructor
      · intro carried
        exact ⟨[], turns, .none, carried, rfl⟩
      · rintro ⟨before, after, start, carried, rfl⟩
        cases start
        exact carried
  | cons turn first induction_hypothesis =>
      constructor
      · intro carried
        cases carried with
        | more run carried =>
            rcases induction_hypothesis.mp carried with ⟨before, after, start, goesOn, rfl⟩
            exact ⟨_, after, .more run start, goesOn, by simp⟩
      · rintro ⟨before, after, start, goesOn, rfl⟩
        cases start with
        | more run start =>
            rw [List.append_assoc]
            exact .more run (induction_hypothesis.mpr ⟨_, after, start, goesOn, rfl⟩)

/-- Every turn that carries out others belongs to the answering of one of them. -/
theorem Carried.exists_of_mem {outer : List (Turn Question Answer)}
    {turns : List (Turn Inner InnerAnswer)} (carried : Carried answer outer turns)
    {turn : Turn Inner InnerAnswer} (mem : turn ∈ turns) :
    ∃ asked ∈ outer, ∃ stretch, Runs (answer asked.question) stretch (some asked.answer) ∧
      turn ∈ stretch := by
  induction carried with
  | none => cases mem
  | more run _ induction_hypothesis =>
      rcases List.mem_append.mp mem with here | later
      · exact ⟨_, .head _, _, run, here⟩
      · rcases induction_hypothesis later with ⟨asked, isAsked, stretch, ran, isPart⟩
        exact ⟨asked, .tail _ isAsked, stretch, ran, isPart⟩

/-- Where the turns that carry out a turn all pass a test exactly if it passes another, what passes
the one carries out what passes the other. -/
theorem Carried.filter {test : Turn Question Answer → Bool}
    {innerTest : Turn Inner InnerAnswer → Bool}
    (uniform : ∀ turn stretch, Runs (answer turn.question) stretch (some turn.answer) →
      ∀ inner ∈ stretch, innerTest inner = test turn)
    {outer : List (Turn Question Answer)} {turns : List (Turn Inner InnerAnswer)}
    (carried : Carried answer outer turns) :
    Carried answer (outer.filter test) (turns.filter innerTest) := by
  induction carried with
  | none => exact .none
  | @more turn later stretch rest run _ induction_hypothesis =>
      have same := uniform turn stretch run
      rw [List.filter_append]
      cases passes : test turn with
      | true =>
          rw [List.filter_cons_of_pos passes,
            List.filter_eq_self.mpr fun inner mem => (same inner mem).trans passes]
          exact .more run induction_hypothesis
      | false =>
          have fails : stretch.filter innerTest = [] := by
            apply List.filter_eq_nil_iff.mpr
            intro inner mem
            simp [same inner mem, passes]
          rw [List.filter_cons_of_neg (by simp [passes]), fails, List.nil_append]
          exact induction_hypothesis

/-- Where no answering program stalls, the runs of an answered program are the runs of the program,
carried out. -/
theorem runs_answeredBy_iff
    (answers : ∀ question stretch given, Runs (answer question) stretch given →
      ∃ value, given = some value)
    {program : Program Question Answer Result} {turns : List (Turn Inner InnerAnswer)}
    {ending : Option Result} :
    Runs (program.answeredBy answer) turns ending ↔
      ∃ outer, Runs program outer ending ∧ Carried answer outer turns := by
  induction program generalizing turns with
  | done result =>
      constructor
      · intro run
        rcases runs_done_iff.mp run with ⟨rfl, rfl⟩
        exact ⟨[], .done result, .none⟩
      · rintro ⟨outer, run, carried⟩
        rcases runs_done_iff.mp run with ⟨rfl, rfl⟩
        cases carried
        exact .done result
  | stalled =>
      constructor
      · intro run
        rcases runs_stalled_iff.mp run with ⟨rfl, rfl⟩
        exact ⟨[], .stalled, .none⟩
      · rintro ⟨outer, run, carried⟩
        rcases runs_stalled_iff.mp run with ⟨rfl, rfl⟩
        cases carried
        exact .stalled
  | tell entry rest induction_hypothesis =>
      simp only [answeredBy, runs_tell_iff]
      exact induction_hypothesis
  | ask question rest induction_hypothesis =>
      constructor
      · intro run
        rcases runs_bind_iff.mp run with ⟨stretch, value, later, ran, goesOn, rfl⟩ | ⟨stuck, -⟩
        · rcases (induction_hypothesis value).mp goesOn with ⟨outer, asked, carried⟩
          exact ⟨⟨question, value⟩ :: outer, .ask value asked, .more ran carried⟩
        · rcases answers question turns none stuck with ⟨value, never⟩
          cases never
      · rintro ⟨outer, run, carried⟩
        rcases runs_ask_iff.mp run with ⟨value, later, asked, rfl⟩
        cases carried with
        | more ran carried =>
            apply runs_bind_iff.mpr
            have goesOn := (induction_hypothesis value).mpr ⟨later, asked, carried⟩
            exact Or.inl ⟨_, value, _, ran, goesOn, rfl⟩

end CdnPublish.Program
