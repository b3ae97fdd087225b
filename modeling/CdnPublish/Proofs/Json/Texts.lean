import CdnPublish.Proofs.Json.Reading

/-!
# Texts put together from texts

Only a numeral could go on where a text ends, and a mark or a blank ends a numeral too. Where a mark
stands between two texts that are made of tokens, the whole is therefore made of the tokens of the
one, the mark, and the tokens of the other.
-/

namespace CdnPublish.Json

namespace Token

open Text (Received)

variable {received rest left more : Received} {character letter mark stop : Char}
  {token sign : Token} {tokens others : List Token}

/-- A character that cannot stand inside a numeral. -/
def Ends (stop : Char) : Prop :=
  stop.isDigit = false ∧ stop ∉ ['.', 'e', 'E', '+', '-']

/-- A punctuation mark and its token. -/
inductive Marks : Char → Token → Prop where
  | openArray : Marks '[' .openArray
  | closeArray : Marks ']' .closeArray
  | openObject : Marks '\x7b' .openObject
  | closeObject : Marks '\x7d' .closeObject
  | comma : Marks ',' .comma
  | colon : Marks ':' .colon

theorem Marks.ends (marks : Marks mark sign) : Ends mark := by
  cases marks <;> exact ⟨by decide, by decide⟩

theorem Marks.next? (marks : Marks mark sign) (more : Received) :
    Token.next? mark more = some (sign, more) := by
  cases marks <;> rfl

theorem Marks.isSpace (marks : Marks mark sign) : Token.isSpace mark = false := by
  cases marks <;> rfl

theorem ends_of_isSpace (isBlank : isSpace stop = true) : Ends stop := by
  have blanks : stop = ' ' ∨ stop = '\n' ∨ stop = '\t' ∨ stop = '\r' := by
    simpa [isSpace, or_assoc] using isBlank
  rcases blanks with rfl | rfl | rfl | rfl <;> exact ⟨by decide, by decide⟩

theorem Ends.digit? (ends : Ends stop) : Token.digit? (some stop) = none := by
  simp [Token.digit?, ends.1]

theorem word?_append {word : List Char} (read : word? word rest = some left) (more : Received) :
    word? word (rest ++ more) = some (left ++ more) := by
  induction word generalizing rest with
  | nil =>
      obtain rfl : rest = left := Option.some.inj read
      rfl
  | cons letter word induction_hypothesis =>
      rcases rest with _ | ⟨_ | character, rest⟩
      · cases read
      · cases read
      · by_cases same : character = letter
        · simp only [word?, same, ↓reduceIte, List.cons_append] at read ⊢
          exact induction_hypothesis read
        · simp [word?, same] at read

/-- A string ends at its closing quote, whatever follows. -/
theorem pieces?_append {sofar pieces : List Piece} (read : pieces? sofar rest = some (pieces, left))
    (more : Received) : pieces? sofar (rest ++ more) = some (pieces, left ++ more) := by
  fun_induction pieces? sofar rest with
  | case1 => cases read
  | case2 sofar rest induction_hypothesis => exact induction_hypothesis read
  | case3 sofar rest =>
      cases read
      rfl
  | case4 sofar first second third fourth rest unit named induction_hypothesis =>
      simp only [List.cons_append, pieces?, named]
      exact induction_hypothesis read
  | case5 => cases read
  | case6 sofar letter rest _ character named induction_hypothesis =>
      simp only [List.cons_append, pieces?_escapedLetter named]
      exact induction_hypothesis read
  | case7 => cases read
  | case8 => cases read
  | case9 sofar character rest noQuote _ _ plain induction_hypothesis =>
      simp only [Bool.or_eq_true, decide_eq_true_eq, not_or] at plain
      rw [List.cons_append, pieces?_plain noQuote plain.1 plain.2]
      exact induction_hypothesis read

theorem digits_append (ends : Ends stop) :
    digits (received ++ some stop :: more) =
      ((digits received).1, (digits received).2 ++ some stop :: more) := by
  induction received with
  | nil => simp [digits, ends.digit?]
  | cons symbol received induction_hypothesis =>
      simp only [digits, Prod.mk.injEq] at induction_hypothesis ⊢
      cases isDigit : (digit? symbol).isSome with
      | true => simp [isDigit, List.filterMap_cons, induction_hypothesis]
      | false => simp [isDigit]

theorem integer?_append (ends : Ends stop) {integer : List Nat}
    (read : integer? received = some (integer, left)) :
    integer? (received ++ some stop :: more) = some (integer, left ++ some stop :: more) := by
  unfold integer? at read ⊢
  rw [digits_append ends]
  rcases found : digits received with ⟨_ | ⟨first, _ | ⟨second, others⟩⟩, behind⟩
  · simp [found] at read
  · simp_all
  · simp_all

theorem fraction?_append (ends : Ends stop) {fraction : List Nat}
    (read : fraction? received = some (fraction, left)) :
    fraction? (received ++ some stop :: more) = some (fraction, left ++ some stop :: more) := by
  unfold fraction? at read
  split at read
  · next rest =>
      simp only [List.cons_append, fraction?, digits_append ends]
      rcases found : digits rest with ⟨_ | ⟨first, others⟩, behind⟩
      · simp [found] at read
      · simp_all
  · next noPoint =>
      cases read
      unfold fraction?
      split
      · next rest pointed =>
          rcases received with _ | ⟨symbol, received⟩
          · cases pointed
            exact absurd (by decide) ends.2
          · cases pointed
            exact absurd rfl (noPoint received)
      · rfl

/-- The sign of an exponent, and what follows it. -/
def signed : Received → Bool × Received
  | some '+' :: unsigned => (false, unsigned)
  | some '-' :: unsigned => (true, unsigned)
  | unsigned => (false, unsigned)

theorem signed_append (ends : Ends stop) : signed (received ++ some stop :: more) =
    ((signed received).1, (signed received).2 ++ some stop :: more) := by
  have unsigned : stop ≠ '+' ∧ stop ≠ '-' := by
    have others := ends.2
    simp only [List.mem_cons, not_or] at others
    exact ⟨others.2.2.2.1, others.2.2.2.2.1⟩
  rcases received with _ | ⟨symbol, received⟩
  · unfold signed
    split <;> simp_all
  · rw [List.cons_append]
    unfold signed
    split <;> simp_all

/-- The digits of an exponent behind its sign. -/
def exponentDigits? (isNegative : Bool) (unsigned : Received) :
    Option (Option (Bool × List Nat) × Received) :=
  match (digits unsigned).1 with
  | [] => none
  | first :: others => some (some (isNegative, first :: others), (digits unsigned).2)

theorem exponentDigits?_append (ends : Ends stop) {isNegative : Bool}
    {exponent : Option (Bool × List Nat)}
    (read : exponentDigits? isNegative received = some (exponent, left)) :
    exponentDigits? isNegative (received ++ some stop :: more) =
      some (exponent, left ++ some stop :: more) := by
  unfold exponentDigits? at read ⊢
  rw [digits_append ends]
  rcases found : digits received with ⟨_ | ⟨first, others⟩, behind⟩
  · simp [found] at read
  · simp_all

theorem exponent?_letter (isLetter : letter = 'e' ∨ letter = 'E') :
    exponent? (some letter :: rest) = exponentDigits? (signed rest).1 (signed rest).2 := by
  have lettered : (decide (letter = 'e') || decide (letter = 'E')) = true := by
    simpa using isLetter
  simp only [exponent?, lettered, ↓reduceIte]
  rfl

theorem exponent?_other (noLetter : ¬(letter = 'e' ∨ letter = 'E')) :
    exponent? (some letter :: rest) = some (none, some letter :: rest) := by
  have unlettered : (decide (letter = 'e') || decide (letter = 'E')) = false := by
    simpa using noLetter
  simp only [exponent?, unlettered, Bool.false_eq_true, ↓reduceIte]

theorem exponent?_append (ends : Ends stop) {exponent : Option (Bool × List Nat)}
    (read : exponent? received = some (exponent, left)) :
    exponent? (received ++ some stop :: more) = some (exponent, left ++ some stop :: more) := by
  rcases received with _ | ⟨_ | letter, rest⟩
  · cases read
    have noLetter : ¬(stop = 'e' ∨ stop = 'E') := by
      have others := ends.2
      simp only [List.mem_cons, not_or] at others
      exact not_or.mpr ⟨others.2.1, others.2.2.1⟩
    exact exponent?_other noLetter
  · cases read
    rfl
  · by_cases isLetter : letter = 'e' ∨ letter = 'E'
    · rw [exponent?_letter isLetter] at read
      rw [List.cons_append, exponent?_letter isLetter, signed_append ends]
      exact exponentDigits?_append ends read
    · rw [exponent?_other isLetter] at read
      cases read
      exact exponent?_other isLetter

theorem numeral?_append (ends : Ends stop) {isNegative : Bool} {numeral : Numeral}
    (read : numeral? isNegative received = some (numeral, left)) :
    numeral? isNegative (received ++ some stop :: more) =
      some (numeral, left ++ some stop :: more) := by
  simp only [numeral?, Option.bind_eq_bind, Option.bind_eq_some_iff, Prod.exists] at read
  rcases read with ⟨integer, _, integral, fraction, _, fractional, exponent, _, scaled, same⟩
  cases same
  simp [numeral?, integer?_append ends integral, fraction?_append ends fractional,
    exponent?_append ends scaled]

theorem map_word?_append {word : List Char} {found : Token}
    (read : (word? word rest).map (found, ·) = some (token, left)) (more : Received) :
    (word? word (rest ++ more)).map (found, ·) = some (token, left ++ more) := by
  rcases Option.map_eq_some_iff.mp read with ⟨behind, matched, same⟩
  cases same
  rw [word?_append matched]
  rfl

theorem map_numeral?_append (ends : Ends stop) {isNegative : Bool}
    (read : (numeral? isNegative received).map (fun (number, left) => (.numeral number, left)) =
      some (token, left)) :
    (numeral? isNegative (received ++ some stop :: more)).map
      (fun (number, left) => (.numeral number, left)) =
        some (token, left ++ some stop :: more) := by
  rcases Option.map_eq_some_iff.mp read with ⟨⟨number, behind⟩, scanned, same⟩
  cases same
  rw [numeral?_append ends scanned]
  rfl

/-- A token in front of a mark ends where it ends at the end of a text. -/
theorem next?_append (ends : Ends stop)
    (read : next? character rest = some (token, left)) :
    next? character (rest ++ some stop :: more) = some (token, left ++ some stop :: more) := by
  unfold next? at read
  split at read
  case h_1 | h_2 | h_3 | h_4 | h_5 | h_6 =>
      cases read
      rfl
  case h_7 | h_8 | h_9 => exact map_word?_append read _
  case h_10 =>
      rcases Option.map_eq_some_iff.mp read with ⟨⟨pieces, behind⟩, closed, same⟩
      cases same
      simp [next?, pieces?_append closed]
  case h_11 => exact map_numeral?_append ends read
  case h_12 =>
      simp only [next?, *]
      exact map_numeral?_append ends read

namespace Scans

variable {fuel spare : Nat}

theorem add (scans : Scans fuel received tokens) (spare : Nat) :
    Scans (fuel + spare) received tokens := by
  induction scans with
  | nil fuel => exact .nil _
  | blank isBlank later induction_hypothesis =>
      rw [Nat.add_right_comm]
      exact .blank isBlank induction_hypothesis
  | token solid first later induction_hypothesis =>
      rw [Nat.add_right_comm]
      exact .token solid first induction_hypothesis

/-- Where no numeral goes on, the scan goes on with whatever fuel there is for what follows. -/
theorem append (ends : Ends stop) (before : Scans fuel received tokens)
    (behind : Scans spare (some stop :: more) others) :
    Scans (fuel + spare) (received ++ some stop :: more) (tokens ++ others) := by
  induction before with
  | nil fuel =>
      rw [Nat.add_comm]
      exact behind.add fuel
  | blank isBlank later induction_hypothesis =>
      rw [Nat.add_right_comm]
      exact .blank isBlank induction_hypothesis
  | token solid first later induction_hypothesis =>
      rw [Nat.add_right_comm]
      exact .token solid (next?_append ends first) induction_hypothesis

end Scans

theorem ofReceived?_append (ends : Ends stop) (first : ofReceived? received = some tokens)
    (second : ofReceived? (some stop :: more) = some others) :
    ofReceived? (received ++ some stop :: more) = some (tokens ++ others) := by
  rw [ofReceived?_eq_some_iff] at first second ⊢
  rw [List.length_append]
  exact first.append ends second

theorem ofReceived?_blank (isBlank : isSpace stop = true) (read : ofReceived? more = some others) :
    ofReceived? (some stop :: more) = some others := by
  rw [ofReceived?_eq_some_iff] at read ⊢
  exact .blank isBlank read

/-- A text with a mark in it is made of the tokens of either part and the mark. -/
theorem ofReceived?_mark (marks : Marks mark sign) (first : ofReceived? received = some tokens)
    (second : ofReceived? more = some others) :
    ofReceived? (received ++ some mark :: more) = some (tokens ++ sign :: others) := by
  have behind : ofReceived? (some mark :: more) = some (sign :: others) := by
    rw [ofReceived?_eq_some_iff] at second ⊢
    exact .token marks.isSpace (marks.next? more) second
  exact ofReceived?_append marks.ends first behind

theorem ofReceived?_between {opening closing : Char} {first last : Token}
    (opens : Marks opening first) (closes : Marks closing last)
    (inside : ofReceived? received = some tokens) :
    ofReceived? (some opening :: (received ++ [some closing])) =
      some (first :: (tokens ++ [last])) := by
  have nothing : ofReceived? [] = some [] := rfl
  exact ofReceived?_mark opens nothing (ofReceived?_mark closes inside nothing)

end Token

namespace Tree

variable {inner next outer stack : List Frame} {position place : Position} {token : Token}
  {tokens : List Token} {tree : Tree}

theorem start?_append_stack (started : start? inner token = some (next, place)) :
    start? (inner ++ stack) token = some (next ++ stack, place) := by
  cases token <;> cases started <;> rfl

theorem proceed?_append_stack (proceeded : proceed? tree inner token = some (next, place)) :
    proceed? tree (inner ++ stack) token = some (next ++ stack, place) := by
  rcases inner with _ | ⟨frame, inner⟩
  · cases proceeded
  · cases frame <;> cases token <;> cases proceeded <;> rfl

/-- A reader never looks below what it has opened itself. -/
theorem step?_append_stack (stepped : step? (inner, position) token = some (next, place)) :
    step? (inner ++ stack, position) token = some (next ++ stack, place) := by
  cases position with
  | value => exact start?_append_stack stepped
  | firstElement =>
      by_cases closes : token = .closeArray
      · subst closes
        rcases inner with _ | ⟨⟨before⟩ | ⟨before, name⟩, inner⟩
        · cases stepped
        · cases before <;> cases stepped
          rfl
        · cases stepped
      · rw [step?_firstElement closes] at stepped ⊢
        exact start?_append_stack stepped
  | firstName =>
      cases token <;> cases stepped
      · rfl
      · rfl
  | name before =>
      cases token <;> cases stepped
      rfl
  | colon before name =>
      cases token <;> cases stepped
      rfl
  | complete tree => exact proceed?_append_stack stepped

theorem foldlM_append_stack
    (read : tokens.foldlM step? (inner, position) = some (next, place)) :
    tokens.foldlM step? (inner ++ stack, position) = some (next ++ stack, place) := by
  induction tokens generalizing inner position with
  | nil =>
      cases read
      rfl
  | cons token tokens induction_hypothesis =>
      rw [List.foldlM_cons] at read ⊢
      rcases Option.bind_eq_some_iff.mp read with ⟨⟨between, last⟩, stepped, later⟩
      rw [step?_append_stack stepped]
      exact induction_hypothesis later

/-- What is read as a tree by itself is read as that tree wherever a value may stand. -/
theorem yields_of_ofTokens? (read : ofTokens? tokens = some tree) : Yields tokens tree := by
  intro stack
  unfold ofTokens? at read
  split at read
  · next last reached =>
      obtain rfl : last = tree := Option.some.inj read
      have framed : tokens.foldlM step? ([] ++ stack, .value) =
          some ([] ++ stack, .complete last) := foldlM_append_stack reached
      exact framed
  · cases read

end Tree

open Text (Received)
open CdnPublish.Json.Tree

/-- The text of a member: a name, a colon and a value, each with blanks around it. -/
def MemberText (text : Received) (entry : Option String × Tree) : Prop :=
  ∃ name value, text = name ++ some ':' :: value ∧
    Token.ofReceived? name = some [.string entry.1] ∧ Tree.ofReceived? value = some entry.2

/-- The text of an object: members with commas in between, between braces, with blanks around
them. -/
def ObjectText (text : Received) (entries : List (Option String × Tree)) : Prop :=
  ∃ lead members trail,
    text = lead ++ some '\x7b' :: (List.intercalate [some ','] members ++ some '\x7d' :: trail) ∧
    Token.ofReceived? lead = some [] ∧ Token.ofReceived? trail = some [] ∧
    List.Forall₂ MemberText members entries

variable {text : Received} {entry : Option String × Tree} {members : List Received}
  {entries : List (Option String × Tree)}

theorem MemberText.exists_tokens (spelled : MemberText text entry) :
    ∃ tokens, Token.ofReceived? text = some tokens ∧ YieldsMember tokens entry := by
  rcases spelled with ⟨name, value, rfl, named, read⟩
  rcases Option.bind_eq_some_iff.mp read with ⟨tokens, scanned, structured⟩
  exact ⟨_, Token.ofReceived?_mark .colon named scanned, tokens, rfl,
    yields_of_ofTokens? structured⟩

/-- Texts with commas in between are made of the tokens of each of them with commas in between. -/
theorem exists_parts {Entry : Type} {Reads : Received → Entry → Prop}
    {Gives : List Token → Entry → Prop} {texts : List Received} {entries : List Entry}
    (scanned : ∀ text entry, Reads text entry →
      ∃ tokens, Token.ofReceived? text = some tokens ∧ Gives tokens entry)
    (all : List.Forall₂ Reads texts entries) :
    ∃ parts, Token.ofReceived? (List.intercalate [some ','] texts) =
      some (List.intercalate [Token.comma] parts) ∧ List.Forall₂ Gives parts entries := by
  induction all with
  | nil => exact ⟨[], rfl, .nil⟩
  | cons here later induction_hypothesis =>
      rcases scanned _ _ here with ⟨tokens, first, gives⟩
      rcases induction_hypothesis with ⟨parts, others, giveLater⟩
      refine ⟨tokens :: parts, ?_, .cons gives giveLater⟩
      cases later with
      | nil =>
          cases giveLater
          rw [List.intercalate_singleton, List.intercalate_singleton]
          exact first
      | cons next rest =>
          cases giveLater
          have joined := Token.ofReceived?_mark .comma first others
          simpa [List.intercalate_cons_cons] using joined

/-- The text of an object is read as the object of what its members are read as. -/
theorem ofReceived?_of_objectText (spelled : ObjectText text entries) :
    Tree.ofReceived? text = some (.object entries) := by
  rcases spelled with ⟨lead, members, trail, rfl, blankBefore, blankBehind, spelled⟩
  have memberwise : ∀ text entry, MemberText text entry →
      ∃ tokens, Token.ofReceived? text = some tokens ∧ YieldsMember tokens entry :=
    fun _ _ member => member.exists_tokens
  rcases exists_parts memberwise spelled with ⟨parts, scanned, yield⟩
  have closed := Token.ofReceived?_mark .closeObject scanned blankBehind
  have opened := Token.ofReceived?_mark .openObject blankBefore closed
  rw [Tree.ofReceived?, opened, List.nil_append]
  simp only [Option.bind_some, ofTokens?, yields_object yield []]

/-- Values between brackets with commas in between are read as the array of what each is read as. -/
theorem ofReceived?_array {trees : List Tree}
    (all : List.Forall₂ (fun text tree => Tree.ofReceived? text = some tree) members trees) :
    Tree.ofReceived? (some '[' :: (List.intercalate [some ','] members ++ [some ']'])) =
      some (.array trees) := by
  have elementwise : ∀ text tree, Tree.ofReceived? text = some tree →
      ∃ tokens, Token.ofReceived? text = some tokens ∧ Yields tokens tree := by
    intro text tree read
    rcases Option.bind_eq_some_iff.mp read with ⟨tokens, scanned, structured⟩
    exact ⟨tokens, scanned, yields_of_ofTokens? structured⟩
  rcases exists_parts elementwise all with ⟨parts, scanned, yield⟩
  rw [Tree.ofReceived?, Token.ofReceived?_between .openArray .closeArray scanned]
  simp only [Option.bind_some, ofTokens?, yields_array yield []]

end CdnPublish.Json
