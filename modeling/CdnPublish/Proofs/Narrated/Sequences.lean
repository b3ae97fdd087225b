import CdnPublish.Narrated
import Mathlib

/-!
# Sequences that may fail

What a sequence of computations comes to when the first fault ends it: either every one of them has
come to a value, or there is a first one that has not. For narrated computations the log makes no
difference to that.
-/

namespace CdnPublish

section Except

variable {Input Value Other Fault : Type} {step : Input → Except Fault Value} {inputs : List Input}

theorem bind_eq_ok_iff {first : Except Fault Other} {next : Other → Except Fault Value}
    {value : Value} :
    first >>= next = .ok value ↔ ∃ given, first = .ok given ∧ next given = .ok value := by
  cases first with
  | ok given => simp [bind, Except.bind]
  | error fault => simp [bind, Except.bind]

theorem bind_eq_error_iff {first : Except Fault Other} {next : Other → Except Fault Value}
    {fault : Fault} :
    first >>= next = .error fault ↔
      first = .error fault ∨ ∃ given, first = .ok given ∧ next given = .error fault := by
  cases first with
  | ok given => simp [bind, Except.bind]
  | error other => simp [bind, Except.bind]

theorem mapError_eq_ok_iff {Wider : Type} {widen : Fault → Wider} {given : Except Fault Value}
    {value : Value} : given.mapError widen = .ok value ↔ given = .ok value := by
  cases given <;> simp [Except.mapError]

theorem mapError_eq_error_iff {Wider : Type} {widen : Fault → Wider} {given : Except Fault Value}
    {wider : Wider} :
    given.mapError widen = .error wider ↔ ∃ fault, given = .error fault ∧ widen fault = wider := by
  cases given <;> simp [Except.mapError]

/-- Where two lists are related element by element, each element of the second has its counterpart
in the first. -/
theorem exists_mem_of_forall₂ {related : Input → Value → Prop} {values : List Value} {value : Value}
    (all : List.Forall₂ related inputs values) (mem : value ∈ values) :
    ∃ input ∈ inputs, related input value := by
  induction all with
  | nil => cases mem
  | cons here later induction_hypothesis =>
      rcases List.mem_cons.mp mem with rfl | mem
      · exact ⟨_, .head _, here⟩
      · rcases induction_hypothesis mem with ⟨input, inputMem, isRelated⟩
        exact ⟨input, .tail _ inputMem, isRelated⟩

theorem mapM_eq_ok_iff {values : List Value} :
    inputs.mapM step = .ok values ↔
      List.Forall₂ (fun input value => step input = .ok value) inputs values := by
  induction inputs generalizing values with
  | nil => simp [pure, Except.pure, eq_comm]
  | cons input inputs induction_hypothesis =>
      rw [List.mapM_cons, bind_eq_ok_iff]
      simp only [bind_eq_ok_iff, induction_hypothesis, List.forall₂_cons_left_iff]
      constructor
      · rintro ⟨value, here, later, there, same⟩
        exact ⟨value, later, here, there, (Except.ok.inj same).symm⟩
      · rintro ⟨value, later, here, there, rfl⟩
        exact ⟨value, here, later, there, rfl⟩

theorem exists_mapM_eq_ok_iff :
    (∃ values, inputs.mapM step = .ok values) ↔
      ∀ input ∈ inputs, ∃ value, step input = .ok value := by
  simp only [mapM_eq_ok_iff]
  induction inputs with
  | nil => simp
  | cons input inputs induction_hypothesis =>
      rw [List.forall_mem_cons, ← induction_hypothesis]
      constructor
      · rintro ⟨values, all⟩
        cases all with
        | cons here later => exact ⟨⟨_, here⟩, _, later⟩
      · rintro ⟨⟨value, here⟩, values, later⟩
        exact ⟨value :: values, .cons here later⟩

theorem forM_eq_ok_iff {look : Input → Except Fault Unit} :
    inputs.forM look = .ok () ↔ ∀ input ∈ inputs, look input = .ok () := by
  induction inputs with
  | nil => simp [pure, Except.pure]
  | cons input inputs induction_hypothesis =>
      change look input >>= (fun _ => inputs.forM look) = .ok () ↔ _
      rw [bind_eq_ok_iff, List.forall_mem_cons, ← induction_hypothesis]
      constructor
      · rintro ⟨⟨⟩, here, later⟩
        exact ⟨here, later⟩
      · rintro ⟨here, later⟩
        exact ⟨(), here, later⟩

/-- A sequence fails with the fault of its first step that fails. -/
theorem mapM_eq_error_iff {fault : Fault} :
    inputs.mapM step = .error fault ↔
      ∃ before input after, inputs = before ++ input :: after ∧
        (∀ earlier ∈ before, ∃ value, step earlier = .ok value) ∧ step input = .error fault := by
  induction inputs with
  | nil => simp [pure, Except.pure]
  | cons input inputs induction_hypothesis =>
      rw [List.mapM_cons, bind_eq_error_iff]
      simp only [bind_eq_error_iff, induction_hypothesis]
      constructor
      · rintro (here | ⟨value, here, ⟨before, later, after, rfl, fine, there⟩ | ⟨_, _, never⟩⟩)
        · exact ⟨[], input, inputs, rfl, by simp, here⟩
        · refine ⟨input :: before, later, after, rfl, ?_, there⟩
          intro earlier mem
          rcases List.mem_cons.mp mem with rfl | further
          · exact ⟨value, here⟩
          · exact fine earlier further
        · cases never
      · rintro ⟨before, later, after, split, fine, there⟩
        cases before with
        | nil =>
            rcases List.cons.inj split with ⟨rfl, rfl⟩
            exact Or.inl there
        | cons first before =>
            rcases List.cons.inj split with ⟨rfl, rfl⟩
            rcases fine input List.mem_cons_self with ⟨value, here⟩
            refine Or.inr ⟨value, here, Or.inl ⟨before, later, after, rfl, ?_, there⟩⟩
            exact fun earlier mem => fine earlier (List.mem_cons_of_mem _ mem)

end Except

namespace Narrated

variable {Fault Input Value : Type}

theorem id_map (computation : Narrated Fault Value) : id <$> computation = computation := by
  rcases computation with ⟨log, _ | value⟩
  · rfl
  · exact congrArg (Narrated.mk · (.ok value)) (List.append_nil log)

theorem bind_assoc {Other Last : Type} (first : Narrated Fault Value)
    (second : Value → Narrated Fault Other) (third : Other → Narrated Fault Last) :
    first >>= second >>= third = first >>= fun value => second value >>= third := by
  rcases first with ⟨log, _ | value⟩
  · rfl
  · change (Narrated.mk (log ++ (second value).log) (second value).result >>= third) =
      Narrated.mk (log ++ (second value >>= third).log) (second value >>= third).result
    rcases second value with ⟨later, _ | other⟩
    · rfl
    · exact congrArg (Narrated.mk · (third other).result) (List.append_assoc ..)

instance : LawfulMonad (Narrated Fault) :=
  LawfulMonad.mk' _ id_map (fun _ _ => rfl) bind_assoc

/-- How a sequence of computations ends is decided by how each of them ends. -/
theorem result_mapM (step : Input → Narrated Fault Value) (inputs : List Input) :
    (inputs.mapM step).result = inputs.mapM fun input => (step input).result := by
  induction inputs with
  | nil => rfl
  | cons input inputs induction_hypothesis =>
      rw [List.mapM_cons, List.mapM_cons, result_bind]
      simp only [result_bind, induction_hypothesis]
      rfl

theorem result_forM_tell (entries : List Log.Entry) :
    (entries.forM tell : Narrated Fault Unit).result = .ok () := by
  induction entries with
  | nil => rfl
  | cons entry entries induction_hypothesis =>
      change (tell entry >>= fun _ => entries.forM tell : Narrated Fault Unit).result = .ok ()
      rw [result_bind, result_tell]
      exact induction_hypothesis

end Narrated

end CdnPublish
