import CdnPublish.Narrated

/-!
# Programs that ask questions

A workflow talks to surroundings it does not control. A `Program` is such a workflow as data: it
ends with a result, tells an observer something, or asks a question and goes on with whatever the
answer is. The surroundings are a separate choice made by whoever runs the program, so the same
program runs against a real gateway, against a script, or against an arbitrary sequence of answers
in a proof.

A program that would wait forever is cut off by a patience given to it and is then `stalled`.
-/

namespace CdnPublish

/-- A workflow that asks questions, each with its own type of answers. -/
inductive Program (Question : Type) (Answer : Question → Type) (Result : Type) : Type where
  | done (result : Result)
  | tell (entry : Log.Entry) (next : Program Question Answer Result)
  | ask (question : Question) (next : Answer question → Program Question Answer Result)
  /-- Patience has run out. -/
  | stalled

namespace Program

variable {Question : Type} {Answer : Question → Type} {Result Other : Type}

/-- The first program and then the one that its result leads to. -/
def andThen (first : Program Question Answer Result)
    (next : Result → Program Question Answer Other) : Program Question Answer Other :=
  match first with
  | .done result => next result
  | .tell entry rest => .tell entry (rest.andThen next)
  | .ask question rest => .ask question fun answer => (rest answer).andThen next
  | .stalled => .stalled

instance : Monad (Program Question Answer) where
  pure := .done
  bind := andThen

/-- Asks one question. -/
def question (asked : Question) : Program Question Answer (Answer asked) :=
  .ask asked .done

/-- Tells one entry. -/
def note (entry : Log.Entry) : Program Question Answer Unit :=
  .tell entry (.done ())

/-- A narrated computation as a program that asks nothing. -/
def ofNarrated {Fault : Type} (computation : Narrated Fault Result) :
    Program Question Answer (Except Fault Result) :=
  computation.log.foldr .tell (.done computation.result)

/-- The program with every question answered by another program. -/
def answeredBy {Inner : Type} {InnerAnswer : Inner → Type}
    (answer : (question : Question) → Program Inner InnerAnswer (Answer question)) :
    Program Question Answer Result → Program Inner InnerAnswer Result
  | .done result => .done result
  | .tell entry rest => .tell entry (rest.answeredBy answer)
  | .ask question rest => (answer question).andThen fun given => (rest given).answeredBy answer
  | .stalled => .stalled

/-- How a run ended: the entries told, the last one first, the state of the surroundings, and the
result unless the program stalled. -/
structure Outcome (State Result : Type) where
  told : List Log.Entry
  state : State
  result : Option Result

/-- Runs a program in surroundings with a state. -/
def run {State : Type} (answer : (question : Question) → State → Answer question × State)
    (told : List Log.Entry) (state : State) : Program Question Answer Result → Outcome State Result
  | .done result => ⟨told, state, some result⟩
  | .tell entry rest => run answer (entry :: told) state rest
  | .ask question rest =>
    run answer told (answer question state).2 (rest (answer question state).1)
  | .stalled => ⟨told, state, none⟩

@[simp] theorem done_bind (result : Result) (next : Result → Program Question Answer Other) :
    (Program.done result >>= next) = next result := rfl

@[simp] theorem ask_bind (asked : Question) (rest : Answer asked → Program Question Answer Result)
    (next : Result → Program Question Answer Other) :
    (Program.ask asked rest >>= next) = .ask asked fun answer => rest answer >>= next := rfl

@[simp] theorem tell_bind (entry : Log.Entry) (rest : Program Question Answer Result)
    (next : Result → Program Question Answer Other) :
    (Program.tell entry rest >>= next) = .tell entry (rest >>= next) := rfl

@[simp] theorem stalled_bind (next : Result → Program Question Answer Other) :
    ((Program.stalled : Program Question Answer Result) >>= next) = .stalled := rfl

/-- Grouping does not matter. -/
theorem bind_assoc {Last : Type} (first : Program Question Answer Result)
    (second : Result → Program Question Answer Other)
    (third : Other → Program Question Answer Last) :
    ((first >>= second) >>= third) = first >>= fun result => second result >>= third := by
  induction first with
  | done result => rfl
  | tell entry rest induction_hypothesis => simp [induction_hypothesis]
  | ask asked rest induction_hypothesis =>
    simp only [ask_bind]
    congr 1
    funext answer
    exact induction_hypothesis answer
  | stalled => rfl

end Program

end CdnPublish
