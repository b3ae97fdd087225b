import CdnPublish.Poll
import CdnPublish.Proofs.Program.Fallible
import Mathlib.Data.List.Induction
import Mathlib.Order.Bounds.Basic

/-!
# When a wait for a task ends

A wait is a loop with a count of failures that every answer sets back. `EndsAt` says without the
loop and without the count which answer ends it: a terminal task, a failure that lasts, or the
transient failure that follows as many others in a row as there are retries. `Rounds` are the turns
of a wait with given answers, a sleep and a fetch for each of them.

The link between the two is the streak: the number of transient failures at the end of the answers
so far is the count that the loop carries. `awaitTerminal_exact` puts this together: the least index
at which an answer ends the wait decides how many rounds there are and what the result is.
-/

namespace CdnPublish.Poller

open Program

/-- What a fetch brings back: the task as it is now, or the reason why it is not known. -/
abbrev Fetched := Except SyncFault Task

namespace Fetched

/-- The fetch failed in a way that may be put up with. -/
def isTransient : Fetched → Bool
  | .ok _ => false
  | .error fault => fault.isTransient

/-- Whether this ends a wait in which so many transient failures came just before. -/
def endsAfter (retries failures : Nat) : Fetched → Bool
  | .ok task => task.state.isTerminal
  | .error fault => !(fault.isTransient && failures < retries)

/-- The task that is known once this has been fetched. -/
def known (task : Task) : Fetched → Task
  | .ok next => next
  | .error _ => task

/-- The failures in a row once this has been fetched. -/
def failures (before : Nat) : Fetched → Nat
  | .ok _ => 0
  | .error _ => before + 1

end Fetched

/-- The task that is known after a number of fetches. -/
def latest (task : Task) (answers : List Fetched) : Task :=
  answers.foldl Fetched.known task

/-- The transient failures that stand at the end. -/
def streak (answers : List Fetched) : Nat :=
  (answers.reverse.takeWhile Fetched.isTransient).length

/-- The turn in which a poller sleeps. -/
def pause (poller : Poller) : GatewayTurn :=
  ⟨.sleep poller.interval, ()⟩

/-- The fetch at this index ends a wait: it shows a terminal task, it fails for good, or it is a
transient failure that comes after as many others in a row as there are retries. -/
inductive EndsAt (retries : Nat) (answers : List Fetched) : Nat → Prop where
  | terminal {index : Nat} {task : Task} (fetched : answers[index]? = some (.ok task))
      (isTerminal : task.state.isTerminal = true) : EndsAt retries answers index
  | fatal {index : Nat} {fault : SyncFault} (fetched : answers[index]? = some (.error fault))
      (lasting : fault.isTransient = false) : EndsAt retries answers index
  | exhausted {index : Nat} (enough : retries ≤ index)
      (transient : ∀ place, index - retries ≤ place → place ≤ index →
        ∃ fault, answers[place]? = some (.error fault) ∧ fault.isTransient = true) :
      EndsAt retries answers index

/-- The turns of a wait whose fetches bring back the given answers: a sleep and a fetch for each
answer, the fetch being made for the task that is known by then. -/
inductive Rounds (poller : Poller) (fetch : Fetch) :
    Task → List Fetched → List GatewayTurn → Prop where
  | none (task : Task) : Rounds poller fetch task [] []
  | more {task : Task} {answer : Fetched} {answers : List Fetched}
      {fetched turns : List GatewayTurn} (first : Runs (fetch task) fetched (some answer))
      (later : Rounds poller fetch (answer.known task) answers turns) :
      Rounds poller fetch task (answer :: answers) (poller.pause :: (fetched ++ turns))

variable {poller : Poller} {fetch : Fetch} {task : Task} {patience failures : Nat}
  {answer : Fetched} {answers : List Fetched} {turns fetched : List GatewayTurn}
  {ending : Option Fetched}

theorem rounds_of_terminal (finished : task.state.isTerminal = true) :
    poller.rounds fetch patience failures task = .done (.ok task) := by
  unfold rounds
  simp only [finished, ↓reduceIte]
  rfl

theorem rounds_of_impatient (waiting : task.state.isTerminal = false) :
    poller.rounds fetch 0 failures task = .stalled := by
  unfold rounds
  simp only [waiting, Bool.false_eq_true, ↓reduceIte]

/-- What a wait does once it has fetched. -/
def afterFetch (poller : Poller) (fetch : Fetch) (patience failures : Nat) (task : Task) :
    Fetched → GatewayProgram Fetched
  | .ok next => .tell (observation task next) (poller.rounds fetch patience 0 next)
  | .error fault =>
    if fault.isTransient && failures < poller.retries then
      .tell (poller.retryEntry task (failures + 1) fault)
        (poller.rounds fetch patience (failures + 1) task)
    else
      .done (.error fault)

/-- A wait for a task that is not terminal sleeps, fetches and looks at what it has fetched. -/
theorem rounds_of_waiting (waiting : task.state.isTerminal = false) :
    poller.rounds fetch (patience + 1) failures task =
      Gateway.sleep poller.interval >>= fun _ =>
        fetch task >>= poller.afterFetch fetch patience failures task := by
  rw [rounds]
  simp only [waiting, Bool.false_eq_true, ↓reduceIte]
  rfl

theorem afterFetch_of_goesOn (fetch : Fetch) (patience : Nat) (task : Task)
    (goesOn : answer.endsAfter poller.retries failures = false) :
    ∃ entry, poller.afterFetch fetch patience failures task answer =
      .tell entry
        (poller.rounds fetch patience (answer.failures failures) (answer.known task)) := by
  cases answer with
  | ok next => exact ⟨_, rfl⟩
  | error fault =>
      have retried : (fault.isTransient && decide (failures < poller.retries)) = true := by
        simpa [Fetched.endsAfter] using goesOn
      refine ⟨poller.retryEntry task (failures + 1) fault, ?_⟩
      simp only [afterFetch, retried, ↓reduceIte]
      rfl

theorem runs_afterFetch_of_ends (ends : answer.endsAfter poller.retries failures = true) :
    Runs (poller.afterFetch fetch patience failures task answer) turns ending ↔
      turns = [] ∧ ending = some answer := by
  cases answer with
  | ok next =>
      simp only [Fetched.endsAfter] at ends
      simp [afterFetch, rounds_of_terminal ends]
  | error fault =>
      have final : (fault.isTransient && decide (failures < poller.retries)) = false := by
        simpa [Fetched.endsAfter, imp_iff_not_or] using ends
      simp [afterFetch, final]

/-- A round is a sleep and a fetch; what follows depends on what has been fetched. -/
theorem leads_afterFetch (waiting : task.state.isTerminal = false)
    (run : Runs (fetch task) fetched (some answer)) :
    Leads (poller.rounds fetch (patience + 1) failures task) (poller.pause :: fetched)
      (poller.afterFetch fetch patience failures task answer) := by
  rw [rounds_of_waiting waiting]
  have slept : Runs (Gateway.sleep poller.interval) [poller.pause] (some ()) :=
    runs_question_iff.mpr ⟨(), rfl, rfl⟩
  have fetching := run.leads_bind
    (.refl (poller.afterFetch fetch patience failures task answer))
  rw [List.append_nil] at fetching
  exact slept.leads_bind fetching

/-- A round that does not end the wait leads to the next one. -/
theorem leads_round (patience : Nat) (waiting : task.state.isTerminal = false)
    (run : Runs (fetch task) fetched (some answer))
    (goesOn : answer.endsAfter poller.retries failures = false) :
    Leads (poller.rounds fetch (patience + 1) failures task) (poller.pause :: fetched)
      (poller.rounds fetch patience (answer.failures failures) (answer.known task)) := by
  rcases afterFetch_of_goesOn fetch patience task goesOn with ⟨entry, next⟩
  have first : Leads (poller.rounds fetch (patience + 1) failures task) (poller.pause :: fetched)
      _ := leads_afterFetch waiting run
  rw [next] at first
  simpa using first.trans (.tell (.refl _))

/-- A round that ends the wait comes to what has been fetched. -/
theorem runs_last_round_iff (waiting : task.state.isTerminal = false)
    (run : Runs (fetch task) fetched (some answer))
    (ends : answer.endsAfter poller.retries failures = true) :
    Runs (poller.rounds fetch (patience + 1) failures task) (poller.pause :: (fetched ++ turns))
      ending ↔ turns = [] ∧ ending = some answer :=
  (leads_afterFetch waiting run).runs_iff.trans (runs_afterFetch_of_ends ends)

theorem exists_first_round (waiting : task.state.isTerminal = false) {result : Fetched}
    (run : Runs (poller.rounds fetch patience failures task) turns (some result)) :
    ∃ (remaining : Nat) (fetched later : List GatewayTurn) (answer : Fetched),
      patience = remaining + 1 ∧
      Runs (fetch task) fetched (some answer) ∧ turns = poller.pause :: (fetched ++ later) ∧
      ((answer.endsAfter poller.retries failures = true ∧ later = [] ∧ result = answer) ∨
        (answer.endsAfter poller.retries failures = false ∧
          Runs (poller.rounds fetch remaining (answer.failures failures) (answer.known task)) later
            (some result))) := by
  cases patience with
  | zero =>
      rw [rounds] at run
      simp [waiting] at run
  | succ remaining =>
      rw [rounds_of_waiting waiting] at run
      rcases runs_question_bind_iff.mp run with ⟨-, later, ran, rfl⟩
      rcases runs_bind_iff.mp ran with ⟨fetched, answer, after, brought, goes, rfl⟩ | ⟨-, never⟩
      · refine ⟨remaining, fetched, after, answer, rfl, brought, rfl, ?_⟩
        cases ends : Fetched.endsAfter poller.retries failures answer with
        | true =>
            rcases (runs_afterFetch_of_ends ends).mp goes with ⟨rfl, same⟩
            exact Or.inl ⟨rfl, rfl, Option.some.inj same⟩
        | false =>
            rcases afterFetch_of_goesOn fetch remaining task ends with ⟨entry, next⟩
            rw [next] at goes
            exact Or.inr ⟨rfl, runs_tell_iff.mp goes⟩
      · cases never

/-- A wait brings back no task but one that has come to its end. -/
theorem isTerminal_of_runs_rounds {ended : Task}
    (run : Runs (poller.rounds fetch patience failures task) turns (some (.ok ended))) :
    ended.state.isTerminal = true := by
  induction patience using Nat.strong_induction_on generalizing task failures turns with
  | _ patience induction_hypothesis =>
      cases finished : task.state.isTerminal with
      | true =>
          rw [rounds_of_terminal finished] at run
          rcases runs_done_iff.mp run with ⟨-, same⟩
          cases same
          exact finished
      | false =>
          rcases exists_first_round finished run with
            ⟨remaining, -, later, answer, rfl, -, -, ⟨ends, -, rfl⟩ | ⟨-, goesOn⟩⟩
          · exact ends
          · exact induction_hypothesis remaining (Nat.lt_succ_self remaining) goesOn

theorem isTerminal_of_runs_awaitTask {poller : Poller} {task ended : Task}
    {turns : List GatewayTurn}
    (run : Runs (poller.awaitTask task).run turns (some (.ok ended))) :
    ended.state.isTerminal = true := by
  rcases runs_run_bind_ok_iff.mp run with ⟨before, last, after, ran, told, rfl⟩
  have noted := Workflow.runs_note_bind_iff.mp told
  rcases runs_run_pure_iff.mp noted with ⟨-, same⟩
  cases same
  exact isTerminal_of_runs_rounds ran

section Streak

variable {sofar : List Fetched}

theorem streak_append_transient (transient : answer.isTransient = true) :
    streak (sofar ++ [answer]) = streak sofar + 1 := by
  simp [streak, transient]

theorem streak_append_lasting (lasting : answer.isTransient = false) :
    streak (sofar ++ [answer]) = 0 := by
  simp [streak, lasting]

theorem streak_append_of_goesOn {retries : Nat}
    (goesOn : answer.endsAfter retries (streak sofar) = false) :
    streak (sofar ++ [answer]) = answer.failures (streak sofar) := by
  cases answer with
  | ok next => exact streak_append_lasting rfl
  | error fault =>
      have retried : fault.isTransient = true ∧ streak sofar < retries := by
        simpa [Fetched.endsAfter] using goesOn
      exact streak_append_transient retried.1

/-- A streak is that long if that many answers at the end are transient failures. -/
theorem le_streak_iff {count : Nat} :
    count ≤ streak answers ↔ count ≤ answers.length ∧
      ∀ place, answers.length - count ≤ place → place < answers.length →
        ∃ fault, answers[place]? = some (.error fault) ∧ fault.isTransient = true := by
  induction answers using List.reverseRecOn generalizing count with
  | nil =>
      constructor
      · intro long
        exact ⟨long, fun place _ short => absurd short (Nat.not_lt_zero place)⟩
      · exact fun enough => enough.1
  | append_singleton sofar answer induction_hypothesis =>
      have last : (sofar ++ [answer])[sofar.length]? = some answer := by simp
      have earlier : ∀ place, place < sofar.length →
          (sofar ++ [answer])[place]? = sofar[place]? :=
        fun place short => List.getElem?_append_left short
      rw [List.length_append, List.length_singleton]
      rcases count with _ | count
      · constructor
        · exact fun _ => ⟨Nat.zero_le _, fun place long short => by omega⟩
        · exact fun _ => Nat.zero_le _
      cases kind : answer.isTransient with
      | false =>
          rw [streak_append_lasting kind]
          constructor
          · intro impossible
            omega
          · rintro ⟨enough, transient⟩
            rcases transient sofar.length (by omega) (by omega) with ⟨fault, fetched, isTransient⟩
            rw [last] at fetched
            rcases Option.some.inj fetched with rfl
            rw [Fetched.isTransient] at kind
            rw [kind] at isTransient
            cases isTransient
      | true =>
          rw [streak_append_transient kind, Nat.add_le_add_iff_right, induction_hypothesis]
          constructor
          · rintro ⟨enough, transient⟩
            refine ⟨by omega, fun place long short => ?_⟩
            by_cases inner : place < sofar.length
            · rw [earlier place inner]
              exact transient place (by omega) inner
            · have same : place = sofar.length := by omega
              subst same
              cases answer with
              | ok next => cases kind
              | error fault => exact ⟨fault, last, kind⟩
          · rintro ⟨enough, transient⟩
            refine ⟨by omega, fun place long short => ?_⟩
            rw [← earlier place short]
            exact transient place (by omega) (by omega)

/-- An answer ends a wait if it does so after the streak of transient failures before it. -/
theorem endsAt_iff {retries index : Nat} :
    EndsAt retries answers index ↔ ∃ answer, answers[index]? = some answer ∧
      Fetched.endsAfter retries (streak (answers.take index)) answer = true := by
  constructor
  · rintro (⟨fetched, isTerminal⟩ | ⟨fetched, lasting⟩ | ⟨enough, transient⟩)
    · exact ⟨_, fetched, isTerminal⟩
    · exact ⟨_, fetched, by simp [Fetched.endsAfter, lasting]⟩
    · rcases transient index (by omega) le_rfl with ⟨fault, fetched, isTransient⟩
      have short : index < answers.length := (List.getElem?_eq_some_iff.mp fetched).1
      have long : retries ≤ streak (answers.take index) := by
        refine le_streak_iff.mpr ⟨?_, fun place late early => ?_⟩
        · rw [List.length_take]
          omega
        · rw [List.length_take] at late early
          rw [List.getElem?_take_of_lt (by omega)]
          exact transient place (by omega) (by omega)
      refine ⟨_, fetched, ?_⟩
      simp [Fetched.endsAfter, long]
  · rintro ⟨answer, fetched, ends⟩
    have short : index < answers.length := (List.getElem?_eq_some_iff.mp fetched).1
    cases answer with
    | ok task => exact .terminal fetched ends
    | error fault =>
        cases kind : fault.isTransient with
        | false => exact .fatal fetched kind
        | true =>
            have long : retries ≤ streak (answers.take index) := by
              simpa [Fetched.endsAfter, kind] using ends
            rcases le_streak_iff.mp long with ⟨enough, transient⟩
            rw [List.length_take] at enough transient
            refine .exhausted (by omega) fun place late early => ?_
            rcases Nat.lt_or_eq_of_le early with inner | rfl
            · rcases transient place (by omega) (by omega) with ⟨other, found, isTransient⟩
              rw [List.getElem?_take_of_lt inner] at found
              exact ⟨other, found, isTransient⟩
            · exact ⟨fault, fetched, kind⟩

instance (retries index : Nat) (answers : List Fetched) :
    Decidable (EndsAt retries answers index) :=
  decidable_of_iff
    ((answers[index]?).any (Fetched.endsAfter retries (streak (answers.take index))) = true)
    (by rw [endsAt_iff, Option.any_eq_true])

theorem endsAt_take_iff {retries index count : Nat} (inside : index < count) :
    EndsAt retries (answers.take count) index ↔ EndsAt retries answers index := by
  rw [endsAt_iff, endsAt_iff, List.getElem?_take_of_lt inside, List.take_take,
    Nat.min_eq_left (Nat.le_of_lt inside)]

/-- Whether an answer ends the wait depends on the streak in front of it. -/
theorem endsAt_append_cons_iff {retries : Nat} {later : List Fetched} :
    EndsAt retries (sofar ++ answer :: later) sofar.length ↔
      answer.endsAfter retries (streak sofar) = true := by
  rw [endsAt_iff]
  simp

/-- As long as a wait has not ended, its streak is within the retries. -/
theorem streak_le_of_open {retries : Nat} (isOpen : ∀ index, ¬EndsAt retries answers index) :
    streak answers ≤ retries := by
  induction answers using List.reverseRecOn with
  | nil => exact Nat.zero_le _
  | append_singleton sofar answer induction_hypothesis =>
      have goesOn : answer.endsAfter retries (streak sofar) = false := by
        have notHere := isOpen sofar.length
        rw [endsAt_append_cons_iff] at notHere
        simpa using notHere
      rw [streak_append_of_goesOn goesOn]
      cases answer with
      | ok next => exact Nat.zero_le _
      | error fault =>
          have retried : fault.isTransient = true ∧ streak sofar < retries := by
            simpa [Fetched.endsAfter] using goesOn
          exact retried.2

end Streak

theorem waiting_known {retries : Nat} (waiting : task.state.isTerminal = false)
    (goesOn : answer.endsAfter retries failures = false) :
    (answer.known task).state.isTerminal = false := by
  cases answer with
  | ok next => exact goesOn
  | error fault => exact waiting

theorem rounds_append_iff {first second : List Fetched} :
    Rounds poller fetch task (first ++ second) turns ↔
      ∃ before after, Rounds poller fetch task first before ∧
        Rounds poller fetch (latest task first) second after ∧ turns = before ++ after := by
  induction first generalizing task turns with
  | nil =>
      constructor
      · intro taken
        exact ⟨[], turns, .none task, taken, rfl⟩
      · rintro ⟨before, after, start, taken, rfl⟩
        cases start
        exact taken
  | cons answer first induction_hypothesis =>
      constructor
      · intro taken
        cases taken with
        | more round later =>
            rcases induction_hypothesis.mp later with ⟨before, after, start, goesOn, rfl⟩
            exact ⟨_, after, .more round start, goesOn, by simp⟩
      · rintro ⟨before, after, start, goesOn, rfl⟩
        cases start with
        | more round later =>
            have taken := Rounds.more round
              (induction_hypothesis.mpr ⟨_, after, later, goesOn, rfl⟩)
            simpa using taken

/-- While no answer ends the wait, it is at the top of the next round: with the task that was
fetched last, and with the streak of transient failures as its count. Every round moves one answer
from those to come to those so far. -/
theorem Rounds.leads (patience : Nat) (sofar : List Fetched)
    (rounds : Rounds poller fetch task answers turns)
    (waiting : task.state.isTerminal = false)
    (isOpen : ∀ index, ¬EndsAt poller.retries (sofar ++ answers) (sofar.length + index))
    (patient : answers.length ≤ patience) :
    Leads (poller.rounds fetch patience (streak sofar) task) turns
      (poller.rounds fetch (patience - answers.length) (streak (sofar ++ answers))
        (latest task answers)) ∧ (latest task answers).state.isTerminal = false := by
  induction rounds generalizing sofar patience with
  | none task =>
      rw [List.append_nil]
      exact ⟨.refl _, waiting⟩
  | @more task answer answers fetched turns round later induction_hypothesis =>
      have goesOn : answer.endsAfter poller.retries (streak sofar) = false := by
        have notHere := isOpen 0
        rw [Nat.add_zero, endsAt_append_cons_iff] at notHere
        simpa using notHere
      rcases (Nat.exists_eq_add_of_le' (Nat.le_trans (by simp) patient) : ∃ remaining, patience =
        remaining + 1) with ⟨remaining, rfl⟩
      have next := induction_hypothesis remaining (sofar ++ [answer])
        (waiting_known waiting goesOn)
        (fun index ended => isOpen (index + 1) (by
          simpa [Nat.add_assoc, Nat.add_comm, Nat.add_left_comm] using ended))
        (by simpa using patient)
      rw [streak_append_of_goesOn goesOn, List.append_assoc, List.singleton_append] at next
      have first := leads_round remaining waiting round goesOn
      refine ⟨?_, next.2⟩
      simpa [latest] using first.trans next.1

/-- A wait that comes to a result has gone through rounds of which the last ends it. -/
theorem exists_rounds_of_runs (sofar : List Fetched) {result : Fetched}
    (waiting : task.state.isTerminal = false)
    (run : Runs (poller.rounds fetch patience (streak sofar) task) turns (some result)) :
    ∃ answers index, Rounds poller fetch task answers turns ∧ answers.length = index + 1 ∧
      answers[index]? = some result ∧
      EndsAt poller.retries (sofar ++ answers) (sofar.length + index) ∧
      ∀ earlier, earlier < index →
        ¬EndsAt poller.retries (sofar ++ answers) (sofar.length + earlier) := by
  induction patience generalizing sofar task turns with
  | zero =>
      rcases exists_first_round waiting run with ⟨remaining, -, -, -, impossible, -⟩
      cases impossible
  | succ patience induction_hypothesis =>
      rcases exists_first_round waiting run with
        ⟨remaining, fetched, later, answer, same, round, rfl, ended | ⟨goesOn, goes⟩⟩
      · rcases ended with ⟨ends, rfl, rfl⟩
        refine ⟨[result], 0, .more round (.none _), rfl, rfl, ?_, fun earlier impossible => ?_⟩
        · exact endsAt_append_cons_iff.mpr ends
        · cases impossible
      · rcases Nat.succ.inj same with rfl
        rw [← streak_append_of_goesOn goesOn] at goes
        rcases induction_hypothesis _ (waiting_known waiting goesOn) goes with
          ⟨answers, index, rounds, length, last, ends, isOpen⟩
        have shift : ∀ place, EndsAt poller.retries (sofar ++ answer :: answers)
            (sofar.length + (place + 1)) ↔
            EndsAt poller.retries (sofar ++ [answer] ++ answers)
              ((sofar ++ [answer]).length + place) := by
          intro place
          rw [List.append_assoc, List.singleton_append, List.length_append, List.length_singleton,
            Nat.add_assoc, Nat.add_comm 1 place]
        refine ⟨answer :: answers, index + 1, .more round rounds, by rw [List.length_cons, length],
          by simpa using last, (shift index).mpr ends, ?_⟩
        intro earlier early
        rcases earlier with _ | earlier
        · rw [Nat.add_zero, endsAt_append_cons_iff, goesOn]
          exact Bool.false_ne_true
        · rw [shift]
          exact isOpen earlier (by omega)

theorem not_endsAt_take_of_isLeast {retries index : Nat} {script : List Fetched}
    (least : IsLeast {place | EndsAt retries script place} index) (place : Nat) :
    ¬EndsAt retries (script.take index) place := by
  intro ended
  rcases endsAt_iff.mp ended with ⟨answer, fetched, -⟩
  have short := (List.getElem?_eq_some_iff.mp fetched).1
  rw [List.length_take] at short
  have inside : place < index := by omega
  exact absurd (least.2 ((endsAt_take_iff inside).mp ended)) (by omega)

theorem runs_rounds_of_isLeast {script : List Fetched} {index : Nat}
    (waiting : task.state.isTerminal = false)
    (least : IsLeast {place | EndsAt poller.retries script place} index)
    (patient : index < patience)
    (taken : Rounds poller fetch task (script.take (index + 1)) turns) :
    Runs (poller.rounds fetch patience 0 task) turns script[index]? := by
  rcases endsAt_iff.mp least.1 with ⟨answer, fetched, ends⟩
  have short : index < script.length := (List.getElem?_eq_some_iff.mp fetched).1
  rw [List.take_add_one, fetched] at taken
  rcases rounds_append_iff.mp taken with ⟨before, after, firstRounds, lastRound, rfl⟩
  have length : (script.take index).length = index := by
    rw [List.length_take]
    omega
  have isOpen : ∀ place, ¬EndsAt poller.retries ([] ++ script.take index)
      (([] : List Fetched).length + place) := by
    intro place
    simpa using not_endsAt_take_of_isLeast least place
  rcases firstRounds.leads patience [] waiting isOpen (by omega) with ⟨leads, unfinished⟩
  have left : ∃ remaining, patience - index = remaining + 1 :=
    Nat.exists_eq_add_of_le' (by omega)
  rcases left with ⟨remaining, enough⟩
  rw [List.nil_append, length, enough] at leads
  cases lastRound with
  | more round later =>
      cases later
      rw [fetched]
      exact leads.runs ((runs_last_round_iff unfinished round ends).mpr ⟨rfl, rfl⟩)

/-- A fetch that asks one question can bring back any answers. -/
theorem exists_rounds_getTask (poller : Poller) (link : Task → String) (task : Task)
    (answers : List Fetched) :
    ∃ turns, Rounds poller (fun task => Gateway.getTask (link task)) task answers turns := by
  induction answers generalizing task with
  | nil => exact ⟨[], .none task⟩
  | cons answer answers induction_hypothesis =>
      rcases induction_hypothesis (answer.known task) with ⟨turns, later⟩
      exact ⟨_, .more (runs_question_iff.mpr ⟨answer, rfl, rfl⟩) later⟩

/-- How a wait goes. A terminal task comes back without a turn. For any other task the least index
at which one of the answers ends the wait decides: there are as many rounds as answers up to that
one, and that answer is the result. As long as no answer ends the wait, all of them are consumed and
the wait stands before its next round, with a count of failures that is within the retries. Every
wait that comes to a result has gone that way. -/
theorem awaitTerminal_exact (poller : Poller) (fetch : Fetch) (task : Task) :
    (task.state.isTerminal = true → ∀ turns ending,
      Runs (poller.awaitTerminal fetch task).run turns ending ↔
        turns = [] ∧ ending = some (.ok task)) ∧
    (task.state.isTerminal = false →
      (∀ script index turns, IsLeast {place | EndsAt poller.retries script place} index →
        index < poller.patience → Rounds poller fetch task (script.take (index + 1)) turns →
        Runs (poller.awaitTerminal fetch task).run turns script[index]?) ∧
      (∀ script turns, (∀ index, ¬EndsAt poller.retries script index) →
        script.length ≤ poller.patience → Rounds poller fetch task script turns →
        Leads (poller.awaitTerminal fetch task).run turns
          (poller.rounds fetch (poller.patience - script.length) (streak script)
            (latest task script)) ∧
        (latest task script).state.isTerminal = false ∧ streak script ≤ poller.retries) ∧
      (∀ turns result, Runs (poller.awaitTerminal fetch task).run turns (some result) →
        ∃ answers index, Rounds poller fetch task answers turns ∧ answers.length = index + 1 ∧
          IsLeast {place | EndsAt poller.retries answers place} index ∧
          answers[index]? = some result)) := by
  refine ⟨fun finished turns ending => ?_, fun waiting => ⟨?_, ?_, ?_⟩⟩
  · rw [awaitTerminal, Workflow.run_ofAnswer, rounds_of_terminal finished]
    exact runs_done_iff
  · intro script index turns least patient taken
    exact runs_rounds_of_isLeast waiting least patient taken
  · intro script turns isOpen patient taken
    rcases taken.leads poller.patience [] waiting (fun index => by simpa using isOpen index) patient
      with ⟨leads, unfinished⟩
    exact ⟨leads, unfinished, streak_le_of_open isOpen⟩
  · intro turns result run
    rcases exists_rounds_of_runs [] waiting run with
      ⟨answers, index, taken, length, last, ends, isOpen⟩
    refine ⟨answers, index, taken, length, ⟨by simpa using ends, fun place ended => ?_⟩, last⟩
    by_contra early
    exact isOpen place (by omega) (by simpa using ended)

/-- Answers in which a transient failure comes alone and, after a task, twice in a row. -/
def lostTwice : List Fetched :=
  [.error (.transport "u" "lost"), .ok ⟨"t", .notStarted, .none, none, none, none⟩,
    .error (.transport "u" "lost"), .error (.transport "u" "late"),
    .ok ⟨"t", .complete, .none, none, none, none⟩]

/-- With one retry, the second failure in a row ends a wait, and the failure before the task does
not count. -/
theorem awaitTerminal_exact_lostTwice :
    (Task.mk "t" .inProgress .none none none none).state.isTerminal = false ∧
    IsLeast {place | EndsAt 1 lostTwice place} 3 ∧
    ∃ turns, Runs ((Poller.mk 5 1 9).awaitTerminal (fun task => Gateway.getTask task.id)
      ⟨"t", .inProgress, .none, none, none, none⟩).run turns
        (some (.error (.transport "u" "late"))) := by
  have isOpen : ∀ place < 3, ¬EndsAt 1 lostTwice place := by decide
  have least : IsLeast {place | EndsAt 1 lostTwice place} 3 := by
    refine ⟨by decide, fun place ended => ?_⟩
    by_contra early
    exact isOpen place (by omega) ended
  rcases exists_rounds_getTask (Poller.mk 5 1 9) Task.id ⟨"t", .inProgress, .none, none, none, none⟩
    (lostTwice.take 4) with ⟨turns, taken⟩
  have run := ((awaitTerminal_exact _ _ _).2 rfl).1 lostTwice 3 turns least (by decide) taken
  exact ⟨rfl, least, turns, run⟩

end CdnPublish.Poller
