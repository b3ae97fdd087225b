import CdnPublish.Proofs.Text.Split

/-!
# Following parts by their text

The parts of a relative path can be followed from a list of names without looking at any file: an
empty part and a dot change nothing, two dots take the last name away, and every other part is one
more name. `LeadsTo` says where the parts lead, and `ClimbsAbove` that on the way two dots meet an
empty list.
-/

namespace CdnPublish.Text

variable {Symbol : Type}

/-- The parts lead from some names to others. -/
inductive LeadsTo (dot : Symbol) :
    List (List Symbol) → List (List Symbol) → List (List Symbol) → Prop where
  | done (names : List (List Symbol)) : LeadsTo dot names [] names
  | stay {names rest result : List (List Symbol)} {part : List Symbol}
      (idle : part = [] ∨ part = [dot]) (later : LeadsTo dot names rest result) :
      LeadsTo dot names (part :: rest) result
  | up (names : List (List Symbol)) (last : List Symbol) {rest result : List (List Symbol)}
      (later : LeadsTo dot names rest result) :
      LeadsTo dot (names ++ [last]) ([dot, dot] :: rest) result
  | enter {names rest result : List (List Symbol)} {part : List Symbol}
      (proper : part ≠ [] ∧ part ≠ [dot] ∧ part ≠ [dot, dot])
      (later : LeadsTo dot (names ++ [part]) rest result) :
      LeadsTo dot names (part :: rest) result

/-- On their way the parts come to no name at all and climb further. -/
def ClimbsAbove (dot : Symbol) (names parts : List (List Symbol)) : Prop :=
  ∃ before after, parts = before ++ [dot, dot] :: after ∧ LeadsTo dot names before []

variable {dot : Symbol} {names parts rest result : List (List Symbol)} {part : List Symbol}

/-- What stands in front of the names stays there. -/
theorem LeadsTo.append_left (above : List (List Symbol)) (leads : LeadsTo dot names parts result) :
    LeadsTo dot (above ++ names) parts (above ++ result) := by
  induction leads with
  | done names => exact .done _
  | stay idle later induction_hypothesis => exact .stay idle induction_hypothesis
  | up names last later induction_hypothesis =>
      rw [← List.append_assoc]
      exact .up _ last induction_hypothesis
  | enter proper later induction_hypothesis =>
      apply LeadsTo.enter proper
      simpa using induction_hypothesis

/-- Every name at the end is one from the start or a proper part. -/
theorem LeadsTo.mem_result (leads : LeadsTo dot names parts result) {name : List Symbol}
    (mem : name ∈ result) :
    name ∈ names ∨ (name ∈ parts ∧ name ≠ [] ∧ name ≠ [dot] ∧ name ≠ [dot, dot]) := by
  induction leads with
  | done names => exact Or.inl mem
  | stay idle later induction_hypothesis =>
      rcases induction_hypothesis mem with old | ⟨inRest, proper⟩
      · exact Or.inl old
      · exact Or.inr ⟨by simp [inRest], proper⟩
  | up names last later induction_hypothesis =>
      rcases induction_hypothesis mem with old | ⟨inRest, proper⟩
      · exact Or.inl (by simp [old])
      · exact Or.inr ⟨by simp [inRest], proper⟩
  | enter proper later induction_hypothesis =>
      rcases induction_hypothesis mem with old | ⟨inRest, isProper⟩
      · rcases List.mem_append.mp old with inNames | isPart
        · exact Or.inl inNames
        · rw [List.mem_singleton.mp isPart]
          exact Or.inr ⟨by simp, proper⟩
      · exact Or.inr ⟨by simp [inRest], isProper⟩

/-- Parts lead alike when they are respelled, as long as no part comes to mean something else. -/
theorem LeadsTo.map {Other : Type} {otherDot : Other} (respell : List Symbol → List Other)
    (empty : ∀ part, respell part = [] ↔ part = [])
    (single : ∀ part, respell part = [otherDot] ↔ part = [dot])
    (double : ∀ part, respell part = [otherDot, otherDot] ↔ part = [dot, dot])
    (leads : LeadsTo dot names parts result) :
    LeadsTo otherDot (names.map respell) (parts.map respell) (result.map respell) := by
  induction leads with
  | done names => exact .done _
  | stay idle later induction_hypothesis =>
      apply LeadsTo.stay _ induction_hypothesis
      exact idle.imp (empty _).mpr (single _).mpr
  | up names last later induction_hypothesis =>
      simp only [List.map_append, List.map_cons, List.map_nil, (double _).mpr rfl]
      exact .up _ _ induction_hypothesis
  | enter proper later induction_hypothesis =>
      apply LeadsTo.enter
      · exact ⟨mt (empty _).mp proper.1, mt (single _).mp proper.2.1, mt (double _).mp proper.2.2⟩
      · simpa using induction_hypothesis

theorem ClimbsAbove.cons_stay (idle : part = [] ∨ part = [dot])
    (climbs : ClimbsAbove dot names rest) : ClimbsAbove dot names (part :: rest) := by
  rcases climbs with ⟨before, after, rfl, leads⟩
  exact ⟨part :: before, after, rfl, .stay idle leads⟩

theorem ClimbsAbove.cons_up (last : List Symbol) (climbs : ClimbsAbove dot names rest) :
    ClimbsAbove dot (names ++ [last]) ([dot, dot] :: rest) := by
  rcases climbs with ⟨before, after, rfl, leads⟩
  exact ⟨[dot, dot] :: before, after, rfl, .up names last leads⟩

theorem ClimbsAbove.cons_enter (proper : part ≠ [] ∧ part ≠ [dot] ∧ part ≠ [dot, dot])
    (climbs : ClimbsAbove dot (names ++ [part]) rest) : ClimbsAbove dot names (part :: rest) := by
  rcases climbs with ⟨before, after, rfl, leads⟩
  exact ⟨part :: before, after, rfl, .enter proper leads⟩

end CdnPublish.Text
