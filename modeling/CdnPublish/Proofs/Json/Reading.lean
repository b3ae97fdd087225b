import CdnPublish.Json.Tree
import CdnPublish.Proofs.Json.Tokens

/-!
# Reading printed values

The tokens of a printed value are read back as one tree, wherever in a larger text they stand: a
reader who waits for a value holds the tree behind them and has everything else untouched.
-/

namespace CdnPublish.Json

namespace Tree

/-- A reader who waits for a value has this tree behind the tokens. -/
def Yields (tokens : List Token) (tree : Tree) : Prop :=
  ∀ stack, tokens.foldlM step? (stack, .value) = some (stack, .complete tree)

/-- A reader who waits for the name of a member, behind these members of an object. -/
def Awaits (before : List (Option String × Tree)) : Position → Prop
  | .firstName => before = []
  | .name members => members = before
  | _ => False

variable {name : Option String} {tree : Tree} {tokens : List Token}
  {before : List (Option String × Tree)} {position : Position} {stack : List Frame}

theorem step?_name (awaits : Awaits before position) :
    step? (stack, position) (.string name) = some (stack, .colon before name) := by
  cases position with
  | firstName =>
      obtain rfl : before = [] := awaits
      rfl
  | name members =>
      obtain rfl : members = before := awaits
      rfl
  | value => exact absurd awaits id
  | firstElement => exact absurd awaits id
  | colon members last => exact absurd awaits id
  | complete tree => exact absurd awaits id

/-- The tokens of a member: its name, a colon, and what is read as its value. -/
def YieldsMember (tokens : List Token) (entry : Option String × Tree) : Prop :=
  ∃ value, tokens = .string entry.1 :: .colon :: value ∧ Yields value entry.2

theorem YieldsMember.foldlM {entry : Option String × Tree} (yields : YieldsMember tokens entry)
    (awaits : Awaits before position) :
    tokens.foldlM step? (stack, position) =
      some (.object before entry.1 :: stack, .complete entry.2) := by
  rcases yields with ⟨value, rfl, yields⟩
  rw [List.foldlM_cons, step?_name awaits]
  exact yields (.object before entry.1 :: stack)

variable {parts : List (List Token)} {entries : List (Option String × Tree)}

/-- The members of an object with the brace behind them are read in any object, behind whatever
members it has already. -/
theorem foldlM_members (all : List.Forall₂ YieldsMember parts entries) (proper : parts ≠ [])
    (awaits : Awaits before position) :
    (List.intercalate [Token.comma] parts ++ [Token.closeObject]).foldlM step? (stack, position) =
      some (stack, .complete (.object (before.reverse ++ entries))) := by
  induction all generalizing before position with
  | nil => exact absurd rfl proper
  | @cons part entry parts entries here later induction_hypothesis =>
      cases later with
      | nil =>
          rw [List.intercalate_singleton, List.foldlM_append, here.foldlM awaits]
          simp [step?, proceed?]
      | cons next others =>
          have behind : Awaits (entry :: before) (.name (entry :: before)) := rfl
          have rest := induction_hypothesis (by simp) behind
          rw [List.intercalate_cons_cons, List.append_assoc, List.append_assoc, List.foldlM_append,
            here.foldlM awaits]
          simpa [step?, proceed?] using rest

/-- Members between braces are read as an object. -/
theorem yields_object (all : List.Forall₂ YieldsMember parts entries) :
    Yields (.openObject :: (List.intercalate [Token.comma] parts ++ [Token.closeObject]))
      (.object entries) := by
  intro stack
  cases all with
  | nil => rfl
  | cons here later =>
      have empty : Awaits [] .firstName := rfl
      exact foldlM_members (.cons here later) (by simp) empty

theorem step?_firstElement {token : Token} (goesOn : token ≠ .closeArray) :
    step? (stack, .firstElement) token = start? stack token := by
  unfold step?
  split <;> simp_all

/-- A reader who waits for the first element of an array reads what one reads who waits for a
value. -/
theorem foldlM_firstElement {last : List Frame × Position} (proper : tokens ≠ [])
    (read : tokens.foldlM step? (stack, .value) = some last) :
    tokens.foldlM step? (stack, .firstElement) = some last := by
  cases tokens with
  | nil => exact absurd rfl proper
  | cons token tokens =>
      have goesOn : token ≠ .closeArray := by
        rintro rfl
        cases read
      rw [List.foldlM_cons, step?_firstElement goesOn]
      exact read

variable {trees elements : List Tree}

/-- The elements of an array with the bracket behind them are read in any array, behind whatever
elements it has already. -/
theorem foldlM_elements (all : List.Forall₂ Yields parts trees) (proper : parts ≠ []) :
    (List.intercalate [Token.comma] parts ++ [Token.closeArray]).foldlM step?
        (.array elements :: stack, .value) =
      some (stack, .complete (.array (elements.reverse ++ trees))) := by
  induction all generalizing elements with
  | nil => exact absurd rfl proper
  | @cons part tree parts trees here later induction_hypothesis =>
      cases later with
      | nil =>
          rw [List.intercalate_singleton, List.foldlM_append, here]
          simp [step?, proceed?]
      | cons next others =>
          have rest := @induction_hypothesis (tree :: elements) (by simp)
          rw [List.intercalate_cons_cons, List.append_assoc, List.append_assoc, List.foldlM_append,
            here]
          simpa [step?, proceed?] using rest

/-- Values between brackets are read as an array. -/
theorem yields_array (all : List.Forall₂ Yields parts trees) :
    Yields (.openArray :: (List.intercalate [Token.comma] parts ++ [Token.closeArray]))
      (.array trees) := by
  intro stack
  cases all with
  | nil => rfl
  | cons here later =>
      have started : step? (stack, .value) .openArray = some (.array [] :: stack, .firstElement) :=
        rfl
      rw [List.foldlM_cons, started]
      exact foldlM_firstElement (by simp) (foldlM_elements (.cons here later) (by simp))

end Tree

open CdnPublish.Json.Tree

/-- The text of a value is read as a tree. -/
def Spells (value : Json) (tree : Tree) : Prop :=
  ∃ tokens, Token.ReadsAs value.compact tokens ∧ Yields tokens tree

/-- A member is written under its name, with a value that spells a tree. -/
def SpellsMember (member : String × Json) (entry : Option String × Tree) : Prop :=
  entry.1 = some member.1 ∧ Spells member.2 entry.2

theorem spells_null : Spells .null .null :=
  ⟨[.null], Token.reads_null.readsAs, fun _ => rfl⟩

theorem spells_string (text : String) : Spells (.string text) (.string (some text)) :=
  ⟨[.string (some text)], (Token.reads_quoted text).readsAs, fun _ => rfl⟩

variable {value : Json} {tree : Tree} {members : List (String × Json)}
  {entries : List (Option String × Tree)}

theorem SpellsMember.exists_tokens {member : String × Json} {entry : Option String × Tree}
    (spelled : SpellsMember member entry) :
    ∃ tokens, Token.ReadsAs (quoted member.1 ++ ':' :: compact member.2) tokens ∧
      YieldsMember tokens entry := by
  rcases spelled with ⟨named, tokens, reads, yields⟩
  refine ⟨.string entry.1 :: .colon :: tokens, ?_, tokens, rfl, yields⟩
  rw [named]
  exact .cons (Token.reads_quoted member.1) (.cons Token.reads_colon reads)

/-- Printed members are read as the tokens of each of them with commas in between. -/
theorem exists_parts_members (spelled : List.Forall₂ SpellsMember members entries) :
    ∃ parts, Token.ReadsAs (commaSeparated (compactMembers members))
      (List.intercalate [Token.comma] parts) ∧ List.Forall₂ YieldsMember parts entries := by
  induction spelled with
  | nil => exact ⟨[], .nil, .nil⟩
  | @cons member entry members entries here later induction_hypothesis =>
      rcases here.exists_tokens with ⟨tokens, reads, yields⟩
      rcases induction_hypothesis with ⟨parts, readLater, yieldLater⟩
      refine ⟨tokens :: parts, ?_, .cons yields yieldLater⟩
      cases later with
      | nil =>
          cases yieldLater
          rw [List.intercalate_singleton]
          exact reads
      | cons next others =>
          cases yieldLater
          have joined := reads.append (.cons Token.reads_comma readLater)
          simpa [compactMembers, commaSeparated, List.intercalate_cons_cons] using joined

/-- An object spells the object of the trees that its members spell. -/
theorem spells_object (spelled : List.Forall₂ SpellsMember members entries) :
    Spells (.object members) (.object entries) := by
  rcases exists_parts_members spelled with ⟨parts, reads, yield⟩
  have closed := reads.append Token.reads_closeObject.readsAs
  exact ⟨_, Token.reads_openObject.readsAs.append closed, yields_object yield⟩

/-- The printed text of a value is read as the tree that it spells. -/
theorem ofString?_render (spelled : Spells value tree) :
    Tree.ofString? value.render = some tree := by
  rcases spelled with ⟨tokens, reads, yields⟩
  have scanned : Token.ofReceived? (value.compact.map some) = some tokens :=
    Token.ofReceived?_of_readsAs reads
  simp [Tree.ofString?, Tree.ofReceived?, render, scanned, ofTokens?, yields []]

end CdnPublish.Json
