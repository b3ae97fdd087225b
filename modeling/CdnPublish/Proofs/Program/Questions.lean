import CdnPublish.Proofs.Program.Runs

/-!
# Which questions a program asks

`AsksOnly allowed program` says that the program asks only allowed questions, whatever the answers
are, and `NeverStalls program` that it comes to a result in the end. Both are read off the text of a
program, part by part, and bound what can be seen of a run without saying anything about its course.
-/

namespace CdnPublish.Program

variable {Question : Type} {Answer : Question → Type} {Result Other Fault : Type}
  {allowed : Question → Prop}

/-- Every question that the program may come to ask is allowed. -/
def AsksOnly (allowed : Question → Prop) : Program Question Answer Result → Prop
  | .done _ => True
  | .tell _ rest => rest.AsksOnly allowed
  | .ask question rest => allowed question ∧ ∀ answer, (rest answer).AsksOnly allowed
  | .stalled => True

/-- The questions of a run are among those that the program may ask. -/
theorem Runs.asks_allowed {program : Program Question Answer Result}
    {turns : List (Turn Question Answer)} {ending : Option Result}
    (run : Runs program turns ending) (asks : program.AsksOnly allowed) :
    ∀ turn ∈ turns, allowed turn.question := by
  induction run with
  | done result => simp
  | stalled => simp
  | tell told induction_hypothesis => exact induction_hypothesis asks
  | ask answer answered induction_hypothesis =>
      intro turn mem
      rcases List.mem_cons.mp mem with rfl | later
      · exact asks.1
      · exact induction_hypothesis (asks.2 answer) turn later

theorem AsksOnly.imp {permitted : Question → Prop} {program : Program Question Answer Result}
    (asks : program.AsksOnly allowed)
    (wider : ∀ question, allowed question → permitted question) :
    program.AsksOnly permitted := by
  induction program with
  | done result => trivial
  | stalled => trivial
  | tell entry rest induction_hypothesis => exact induction_hypothesis asks
  | ask question rest induction_hypothesis =>
      exact ⟨wider question asks.1, fun answer => induction_hypothesis answer (asks.2 answer)⟩

theorem asksOnly_pure {result : Result} :
    (pure result : Program Question Answer Result).AsksOnly allowed :=
  trivial

theorem asksOnly_question {asked : Question} (isAllowed : allowed asked) :
    (question asked : Program Question Answer (Answer asked)).AsksOnly allowed :=
  ⟨isAllowed, fun _ => trivial⟩

theorem asksOnly_ofNarrated (computation : Narrated Fault Result) :
    (ofNarrated computation : Program Question Answer (Except Fault Result)).AsksOnly allowed := by
  unfold ofNarrated
  induction computation.log with
  | nil => trivial
  | cons entry entries induction_hypothesis => exact induction_hypothesis

theorem asksOnly_bind {first : Program Question Answer Other}
    {next : Other → Program Question Answer Result} (before : first.AsksOnly allowed)
    (after : ∀ value, (next value).AsksOnly allowed) : (first >>= next).AsksOnly allowed := by
  induction first with
  | done result => exact after result
  | stalled => trivial
  | tell entry rest induction_hypothesis => exact induction_hypothesis before
  | ask question rest induction_hypothesis =>
      exact ⟨before.1, fun answer => induction_hypothesis answer (before.2 answer)⟩

theorem asksOnly_run_bind {first : ExceptT Fault (Program Question Answer) Other}
    {next : Other → ExceptT Fault (Program Question Answer) Result}
    (before : first.run.AsksOnly allowed) (after : ∀ value, (next value).run.AsksOnly allowed) :
    (first >>= next).run.AsksOnly allowed := by
  rw [ExceptT.run_bind]
  refine asksOnly_bind before fun given => ?_
  cases given with
  | ok value => exact after value
  | error fault => exact asksOnly_pure

/-- Patience never runs out. -/
def NeverStalls : Program Question Answer Result → Prop
  | .done _ => True
  | .tell _ rest => rest.NeverStalls
  | .ask _ rest => ∀ answer, (rest answer).NeverStalls
  | .stalled => False

/-- A complete run of a program that never stalls has a result. -/
theorem Runs.exists_result {program : Program Question Answer Result}
    {turns : List (Turn Question Answer)} {ending : Option Result}
    (run : Runs program turns ending) (steady : program.NeverStalls) :
    ∃ result, ending = some result := by
  induction run with
  | done result => exact ⟨result, rfl⟩
  | stalled => exact absurd steady id
  | tell told induction_hypothesis => exact induction_hypothesis steady
  | ask answer answered induction_hypothesis => exact induction_hypothesis (steady answer)

theorem neverStalls_bind {first : Program Question Answer Other}
    {next : Other → Program Question Answer Result} (before : first.NeverStalls)
    (after : ∀ value, (next value).NeverStalls) : (first >>= next).NeverStalls := by
  induction first with
  | done result => exact after result
  | stalled => exact absurd before id
  | tell entry rest induction_hypothesis => exact induction_hypothesis before
  | ask question rest induction_hypothesis =>
      exact fun answer => induction_hypothesis answer (before answer)

theorem neverStalls_run_bind {first : ExceptT Fault (Program Question Answer) Other}
    {next : Other → ExceptT Fault (Program Question Answer) Result}
    (before : first.run.NeverStalls) (after : ∀ value, (next value).run.NeverStalls) :
    (first >>= next).run.NeverStalls := by
  rw [ExceptT.run_bind]
  apply neverStalls_bind before
  intro given
  cases given with
  | ok value => exact after value
  | error fault => exact trivial

end CdnPublish.Program
