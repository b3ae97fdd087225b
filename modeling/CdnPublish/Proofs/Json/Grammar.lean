import CdnPublish.Proofs.Json.Texts

/-!
# The notation of values

How a value is written is said here by rules for its text, without a word about how it is read. The
rules leave every choice that the notation leaves: blanks, escapes, the ways to write a number.
Whatever is written by these rules is read.
-/

namespace CdnPublish.Json

open Text (Received)

/-- Blanks, of which there may be none. -/
def BlankForm (text : List Char) : Prop :=
  ∀ character ∈ text, character ∈ [' ', '\t', '\n', '\r']

/-- Decimal digits, of which there is one at least. -/
def DigitsForm (text : List Char) : Prop :=
  text ≠ [] ∧ ∀ digit ∈ text, digit.isDigit = true

/-- The hexadecimal digits. -/
def hexDigits : List Char :=
  ['0', '1', '2', '3', '4', '5', '6', '7', '8', '9', 'a', 'b', 'c', 'd', 'e', 'f',
    'A', 'B', 'C', 'D', 'E', 'F']

/-- What stands in a string for a character or for half of one. -/
inductive UnitForm : List Char → Prop where
  | plain {character : Char} (noQuote : character ≠ '"') (noBackslash : character ≠ '\\')
      (visible : 0x20 ≤ character.toNat) : UnitForm [character]
  | letter {letter : Char} (named : letter ∈ ['"', '\\', '/', 'b', 'f', 'n', 'r', 't']) :
      UnitForm ['\\', letter]
  | code {first second third fourth : Char}
      (digits : ∀ digit ∈ [first, second, third, fourth], digit ∈ hexDigits) :
      UnitForm ['\\', 'u', first, second, third, fourth]

/-- A string between its quotes. -/
def StringForm (text : List Char) : Prop :=
  ∃ units : List (List Char), (∀ unit ∈ units, UnitForm unit) ∧
    text = '"' :: (units.flatten ++ ['"'])

/-- The integral part of a number: a zero, or digits of which the first is none. -/
def IntegerForm (text : List Char) : Prop :=
  DigitsForm text ∧ (text.head? = some '0' → text = ['0'])

/-- The fraction of a number, which may be left out. -/
inductive FractionForm : List Char → Prop where
  | absent : FractionForm []
  | digits {text : List Char} (form : DigitsForm text) : FractionForm ('.' :: text)

/-- The exponent of a number, which may be left out. -/
inductive ExponentForm : List Char → Prop where
  | absent : ExponentForm []
  | digits {letter : Char} {sign text : List Char} (isLetter : letter = 'e' ∨ letter = 'E')
      (isSign : sign ∈ [[], ['+'], ['-']]) (form : DigitsForm text) :
      ExponentForm (letter :: (sign ++ text))

/-- A number. -/
inductive NumeralForm : List Char → Prop where
  | parts {sign integer fraction exponent : List Char} (isSign : sign ∈ [[], ['-']])
      (integral : IntegerForm integer) (fractional : FractionForm fraction)
      (scaled : ExponentForm exponent) :
      NumeralForm (sign ++ (integer ++ (fraction ++ exponent)))

/-- The name of a member with blanks around it. -/
inductive NameForm : List Char → Prop where
  | padded {before name behind : List Char} (blankBefore : BlankForm before)
      (blankBehind : BlankForm behind) (form : StringForm name) :
      NameForm (before ++ (name ++ behind))

/-- A value with blanks around it. -/
inductive ValueForm : List Char → Prop where
  | word {text : List Char}
      (isWord : text ∈ [['n', 'u', 'l', 'l'], ['t', 'r', 'u', 'e'], ['f', 'a', 'l', 's', 'e']]) :
      ValueForm text
  | numeral {text : List Char} (form : NumeralForm text) : ValueForm text
  | string {text : List Char} (form : StringForm text) : ValueForm text
  | blankArray {space : List Char} (blank : BlankForm space) : ValueForm ('[' :: (space ++ [']']))
  | array {elements : List (List Char)}
      (forms : ∀ element ∈ elements, ValueForm element) :
      ValueForm ('[' :: (List.intercalate [','] elements ++ [']']))
  | blankObject {space : List Char} (blank : BlankForm space) :
      ValueForm ('\x7b' :: (space ++ ['\x7d']))
  | object {members : List (List Char × List Char)}
      (names : ∀ member ∈ members, NameForm member.1)
      (forms : ∀ member ∈ members, ValueForm member.2) :
      ValueForm ('\x7b' :: (List.intercalate [',']
        (members.map fun member => member.1 ++ ':' :: member.2) ++ ['\x7d']))
  | padded {before text behind : List Char} (blankBefore : BlankForm before)
      (blankBehind : BlankForm behind) (form : ValueForm text) :
      ValueForm (before ++ (text ++ behind))

variable {text space sign integer fraction exponent : List Char} {received rest : Received}

section Blanks

variable {tokens : List Token}

theorem BlankForm.isSpace (blank : BlankForm text) :
    ∀ character ∈ text, Token.isSpace character = true := by
  intro character present
  have listed := blank character present
  simp only [List.mem_cons, List.not_mem_nil, or_false] at listed
  rcases listed with rfl | rfl | rfl | rfl <;> rfl

theorem Token.ofReceived?_blanks (blank : BlankForm space)
    (read : ofReceived? received = some tokens) :
    ofReceived? (space.map some ++ received) = some tokens := by
  induction space with
  | nil => exact read
  | cons character space induction_hypothesis =>
      have later : BlankForm space := fun other present => blank other (by simp [present])
      exact ofReceived?_blank (blank.isSpace character (by simp)) (induction_hypothesis later)

theorem Token.ofReceived?_space (blank : BlankForm space) :
    ofReceived? (space.map some) = some [] := by
  have nothing : ofReceived? [] = some [] := rfl
  simpa using ofReceived?_blanks blank nothing

theorem Token.ofReceived?_padded {before behind : List Char} (blankBefore : BlankForm before)
    (blankBehind : BlankForm behind) (read : ofReceived? (text.map some) = some tokens) :
    ofReceived? ((before ++ (text ++ behind)).map some) = some tokens := by
  rw [List.map_append, List.map_append]
  apply ofReceived?_blanks blankBefore
  cases behind with
  | nil => simpa using read
  | cons character behind =>
      have ends := ends_of_isSpace (blankBehind.isSpace character (by simp))
      simpa using ofReceived?_append ends read (ofReceived?_space blankBehind)

end Blanks

theorem Token.ofReceived?_single {character : Char} {token : Token}
    (solid : isSpace character = false) (read : next? character rest = some (token, [])) :
    ofReceived? (some character :: rest) = some [token] := by
  rw [ofReceived?_eq_some_iff]
  exact .token solid read (.nil _)

section Strings

theorem exists_hexValue? : ∀ digit ∈ hexDigits, ∃ value, Token.hexValue? digit = some value := by
  have all : hexDigits.all (fun digit => (Token.hexValue? digit).isSome) = true := by decide
  intro digit present
  exact Option.isSome_iff_exists.mp (List.all_eq_true.mp all digit present)

theorem UnitForm.exists_takenAs (form : UnitForm text) : ∃ piece, Token.TakenAs text piece := by
  cases form with
  | @plain character noQuote noBackslash visible =>
      exact ⟨.character character, fun _ _ =>
        Token.pieces?_plain noQuote noBackslash (Nat.not_lt.mpr visible)⟩
  | @letter letter named =>
      have all : ['"', '\\', '/', 'b', 'f', 'n', 'r', 't'].all
          (fun letter => (Token.escapedLetter? letter).isSome) = true := by decide
      rcases Option.isSome_iff_exists.mp (List.all_eq_true.mp all letter named) with
        ⟨character, stands⟩
      exact ⟨.character character, fun _ _ => Token.pieces?_escapedLetter stands⟩
  | @code first second third fourth digits =>
      simp only [List.forall_mem_cons] at digits
      rcases digits with ⟨isFirst, isSecond, isThird, isFourth, -⟩
      rcases exists_hexValue? first isFirst with ⟨firstValue, hasFirst⟩
      rcases exists_hexValue? second isSecond with ⟨secondValue, hasSecond⟩
      rcases exists_hexValue? third isThird with ⟨thirdValue, hasThird⟩
      rcases exists_hexValue? fourth isFourth with ⟨fourthValue, hasFourth⟩
      refine ⟨.escaped ((firstValue * 16 + secondValue) * 256 + thirdValue * 16 + fourthValue), ?_⟩
      intro read rest
      simp [Token.pieces?, Token.codeUnit?, hasFirst, hasSecond, hasThird, hasFourth]

theorem exists_forall₂ {Text Entry : Type} {Reads : Text → Entry → Prop} {texts : List Text}
    (each : ∀ text ∈ texts, ∃ entry, Reads text entry) :
    ∃ entries, List.Forall₂ Reads texts entries := by
  induction texts with
  | nil => exact ⟨[], .nil⟩
  | cons text texts induction_hypothesis =>
      rw [List.forall_mem_cons] at each
      rcases each.1 with ⟨entry, reads⟩
      rcases induction_hypothesis each.2 with ⟨entries, all⟩
      exact ⟨entry :: entries, .cons reads all⟩

theorem StringForm.exists_token (form : StringForm text) :
    ∃ named, Token.ofReceived? (text.map some) = some [.string named] := by
  rcases form with ⟨units, forms, rfl⟩
  rcases exists_forall₂ fun unit present => (forms unit present).exists_takenAs with
    ⟨pieces, taken⟩
  have closed : Token.pieces? [] ((units.flatten ++ ['"']).map some) = some (pieces, []) := by
    rw [List.map_append]
    exact Token.pieces?_closed taken [] []
  refine ⟨(Token.assemble [] pieces).map String.ofList, Token.ofReceived?_single (by decide) ?_⟩
  change (Token.pieces? [] ((units.flatten ++ ['"']).map some)).map _ = _
  rw [closed]
  rfl

theorem NameForm.exists_token (form : NameForm text) :
    ∃ named, Token.ofReceived? (text.map some) = some [.string named] := by
  rcases form with ⟨blankBefore, blankBehind, quoted⟩
  rcases quoted.exists_token with ⟨named, read⟩
  exact ⟨named, Token.ofReceived?_padded blankBefore blankBehind read⟩

end Strings

section Numerals

/-- No digit stands next. -/
def Stops (received : Received) : Prop :=
  ∀ symbol ∈ received.head?, Token.digit? symbol = none

theorem stops_nil : Stops [] :=
  fun _ nothing => nomatch nothing

theorem Stops.digits (stops : Stops rest) (all : ∀ digit ∈ text, digit.isDigit = true) :
    Token.digits (text.map some ++ rest) = (text.map fun digit => digit.toNat - 0x30, rest) := by
  induction text with
  | nil =>
      rcases rest with _ | ⟨symbol, rest⟩
      · rfl
      · have noDigit := stops symbol rfl
        simp [Token.digits, noDigit]
  | cons digit text induction_hypothesis =>
      rw [List.forall_mem_cons] at all
      have here : Token.digit? (some digit) = some (digit.toNat - 0x30) := by
        simp [Token.digit?, all.1]
      have later := induction_hypothesis all.2
      simp only [Token.digits, Prod.mk.injEq] at later ⊢
      simp [here, later]

theorem eq_zero_of_isDigit {digit : Char} (isDigit : digit.isDigit = true)
    (zero : digit.toNat - 0x30 = 0) : digit = '0' := by
  simp only [Char.isDigit, ge_iff_le, Bool.and_eq_true, decide_eq_true_eq] at isDigit
  have low : 0x30 ≤ digit.toNat := UInt32.le_iff_toNat_le.mp isDigit.1
  have same : digit.toNat = '0'.toNat := Nat.le_antisymm (Nat.sub_eq_zero_iff_le.mp zero) low
  exact Char.toNat_inj.mp same

theorem IntegerForm.exists_integer? (form : IntegerForm integer) (stops : Stops rest) :
    ∃ found, Token.integer? (integer.map some ++ rest) = some (found, rest) := by
  rcases form with ⟨⟨proper, all⟩, alone⟩
  unfold Token.integer?
  rw [stops.digits all]
  rcases integer with _ | ⟨first, _ | ⟨second, others⟩⟩
  · exact absurd rfl proper
  · exact ⟨_, rfl⟩
  · have noZero : first.toNat - 0x30 ≠ 0 := by
      intro zero
      obtain rfl := eq_zero_of_isDigit (all first (by simp)) zero
      have single := alone rfl
      cases single
    exact ⟨_, if_neg noZero⟩

theorem ExponentForm.stops (form : ExponentForm exponent) : Stops (exponent.map some) := by
  cases form with
  | absent => exact stops_nil
  | digits isLetter isSign form =>
      intro symbol first
      obtain rfl := Option.some.inj first
      rcases isLetter with rfl | rfl <;> rfl

theorem FractionForm.stops (form : FractionForm fraction) (scaled : ExponentForm exponent) :
    Stops (fraction.map some ++ exponent.map some) := by
  cases form with
  | absent => exact scaled.stops
  | digits form =>
      intro symbol first
      obtain rfl := Option.some.inj first
      rfl

theorem FractionForm.exists_fraction? (form : FractionForm fraction)
    (scaled : ExponentForm exponent) :
    ∃ found, Token.fraction? (fraction.map some ++ exponent.map some) =
      some (found, exponent.map some) := by
  cases form with
  | absent =>
      cases scaled with
      | absent => exact ⟨[], rfl⟩
      | digits isLetter isSign form =>
          refine ⟨[], ?_⟩
          rcases isLetter with rfl | rfl <;> rfl
  | @digits text form =>
      rcases form with ⟨proper, all⟩
      have run := scaled.stops.digits all
      rcases text with _ | ⟨first, others⟩
      · exact absurd rfl proper
      · refine ⟨(first :: others).map fun digit => digit.toNat - 0x30, ?_⟩
        rw [List.map_cons, List.cons_append]
        simp only [Token.fraction?, run]
        rfl

theorem DigitsForm.signed (form : DigitsForm text) (isSign : sign ∈ [[], ['+'], ['-']]) :
    (Token.signed (sign.map some ++ text.map some)).2 = text.map some := by
  simp only [List.mem_cons, List.not_mem_nil, or_false] at isSign
  rcases isSign with rfl | rfl | rfl
  · rcases form with ⟨proper, all⟩
    rcases text with _ | ⟨first, others⟩
    · exact absurd rfl proper
    · have isDigit := all first (by simp)
      rw [List.map_nil, List.nil_append, List.map_cons]
      unfold Token.signed
      split <;> simp_all
  · rfl
  · rfl

theorem ExponentForm.exists_exponent? (form : ExponentForm exponent) :
    ∃ found, Token.exponent? (exponent.map some) = some (found, []) := by
  cases form with
  | absent => exact ⟨none, rfl⟩
  | @digits letter sign text isLetter isSign form =>
      have run : Token.digits (text.map some) =
          (text.map fun digit => digit.toNat - 0x30, []) := by
        simpa using stops_nil.digits form.2
      rw [List.map_cons, List.map_append, Token.exponent?_letter isLetter, form.signed isSign,
        Token.exponentDigits?, run]
      rcases text with _ | ⟨first, others⟩
      · exact absurd rfl form.1
      · exact ⟨_, rfl⟩

theorem IntegerForm.exists_numeral? (integral : IntegerForm integer)
    (fractional : FractionForm fraction) (scaled : ExponentForm exponent) (isNegative : Bool) :
    ∃ numeral, Token.numeral? isNegative ((integer ++ (fraction ++ exponent)).map some) =
      some (numeral, []) := by
  rcases integral.exists_integer? (fractional.stops scaled) with ⟨whole, readWhole⟩
  rcases fractional.exists_fraction? scaled with ⟨part, readPart⟩
  rcases scaled.exists_exponent? with ⟨power, readPower⟩
  refine ⟨⟨isNegative, whole, part, power⟩, ?_⟩
  rw [List.map_append, List.map_append]
  simp [Token.numeral?, readWhole, readPart, readPower]

theorem Token.next?_digit {first : Char} (isDigit : first.isDigit = true) :
    next? first rest = (numeral? false (some first :: rest)).map fun (number, left) =>
      (.numeral number, left) := by
  unfold next?
  split
  case h_12 => rfl
  all_goals cases isDigit

theorem Token.isSpace_of_isDigit {first : Char} (isDigit : first.isDigit = true) :
    isSpace first = false := by
  by_contra isBlank
  have ends := ends_of_isSpace (eq_true_of_ne_false isBlank)
  rw [ends.1] at isDigit
  cases isDigit

theorem NumeralForm.exists_token (form : NumeralForm text) :
    ∃ number, Token.ofReceived? (text.map some) = some [.numeral number] := by
  rcases form with @⟨sign, integer, fraction, exponent, isSign, integral, fractional, scaled⟩
  simp only [List.mem_cons, List.not_mem_nil, or_false] at isSign
  rcases isSign with rfl | rfl
  · rcases integral.exists_numeral? fractional scaled false with ⟨number, read⟩
    rcases integral with ⟨⟨proper, all⟩, -⟩
    rcases integer with _ | ⟨first, others⟩
    · exact absurd rfl proper
    · have isDigit := all first (by simp)
      refine ⟨number, Token.ofReceived?_single (Token.isSpace_of_isDigit isDigit) ?_⟩
      rw [Token.next?_digit isDigit]
      exact congrArg _ read
  · rcases integral.exists_numeral? fractional scaled true with ⟨number, read⟩
    refine ⟨number, Token.ofReceived?_single (by decide) ?_⟩
    exact congrArg (Option.map fun (number, left) => (Token.numeral number, left)) read

end Numerals

theorem Tree.ofReceived?_token {token : Token} {tree : Tree} (scalar : ofToken? token = some tree)
    (read : Token.ofReceived? received = some [token]) : ofReceived? received = some tree := by
  rw [ofReceived?, read]
  cases token <;> cases scalar <;> rfl

theorem map_intercalate (texts : List (List Char)) :
    (List.intercalate [','] texts).map some =
      List.intercalate [some ','] (texts.map (List.map some)) := by
  induction texts with
  | nil => rfl
  | cons text texts induction_hypothesis =>
      cases texts with
      | nil => simp
      | cons next others => simpa [List.intercalate_cons_cons] using induction_hypothesis

theorem NameForm.exists_memberText {value : List Char} {tree : Tree} (form : NameForm text)
    (read : Tree.ofReceived? (value.map some) = some tree) :
    ∃ entry, MemberText ((text ++ ':' :: value).map some) entry := by
  rcases form.exists_token with ⟨named, scanned⟩
  refine ⟨(named, tree), text.map some, value.map some, ?_, scanned, read⟩
  rw [List.map_append, List.map_cons]

/-- Whatever is written as a value is read as one. -/
theorem ValueForm.exists_tree (form : ValueForm text) :
    ∃ tree, Tree.ofReceived? (text.map some) = some tree := by
  induction form with
  | word isWord =>
      simp only [List.mem_cons, List.not_mem_nil, or_false] at isWord
      rcases isWord with rfl | rfl | rfl <;> exact ⟨_, rfl⟩
  | numeral form =>
      rcases form.exists_token with ⟨number, read⟩
      exact ⟨_, Tree.ofReceived?_token rfl read⟩
  | string form =>
      rcases form.exists_token with ⟨named, read⟩
      exact ⟨_, Tree.ofReceived?_token rfl read⟩
  | blankArray blank =>
      have brackets := Token.ofReceived?_between .openArray .closeArray
        (Token.ofReceived?_space blank)
      refine ⟨.array [], ?_⟩
      rw [List.map_cons, List.map_append, Tree.ofReceived?]
      exact congrArg (Option.bind · Tree.ofTokens?) brackets
  | @array elements forms induction_hypothesis =>
      have each : ∀ text ∈ elements.map (List.map some), ∃ tree,
          Tree.ofReceived? text = some tree := by
        rw [List.forall_mem_map]
        exact induction_hypothesis
      rcases exists_forall₂ each with ⟨trees, all⟩
      refine ⟨.array trees, ?_⟩
      rw [List.map_cons, List.map_append, map_intercalate]
      exact ofReceived?_array all
  | blankObject blank =>
      have braces := Token.ofReceived?_between .openObject .closeObject
        (Token.ofReceived?_space blank)
      refine ⟨.object [], ?_⟩
      rw [List.map_cons, List.map_append, Tree.ofReceived?]
      exact congrArg (Option.bind · Tree.ofTokens?) braces
  | @object members names forms induction_hypothesis =>
      have each : ∀ text ∈ (members.map fun member =>
          member.1 ++ ':' :: member.2).map (List.map some), ∃ entry, MemberText text entry := by
        rw [List.forall_mem_map, List.forall_mem_map]
        intro member present
        rcases induction_hypothesis member present with ⟨tree, read⟩
        exact (names member present).exists_memberText read
      rcases exists_forall₂ each with ⟨entries, all⟩
      refine ⟨.object entries, ofReceived?_of_objectText ?_⟩
      refine ⟨[], _, [], ?_, rfl, rfl, all⟩
      rw [List.map_cons, List.map_append, map_intercalate]
      rfl
  | padded blankBefore blankBehind form induction_hypothesis =>
      rcases induction_hypothesis with ⟨tree, read⟩
      rcases Option.bind_eq_some_iff.mp read with ⟨tokens, scanned, structured⟩
      refine ⟨tree, ?_⟩
      rw [Tree.ofReceived?, Token.ofReceived?_padded blankBefore blankBehind scanned]
      exact structured

end CdnPublish.Json
