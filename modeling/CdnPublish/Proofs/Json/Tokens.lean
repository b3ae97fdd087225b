import CdnPublish.Json.Printer
import CdnPublish.Json.Token
import Mathlib

/-!
# Reading printed tokens

A printed string is read back as the text that it was printed from, whatever its characters are,
and so is every mark and word that is printed between strings. A text that is put together from
such parts is read as their tokens, one after the other.
-/

namespace CdnPublish.Json.Token

open Text (Received)

/-- A piece that is read for a character: the character itself, or the code of a control
character. -/
def Piece.StandsFor (piece : Piece) (character : Char) : Prop :=
  piece = .character character ∨ (piece = .escaped character.toNat ∧ character.toNat < 0x20)

variable {character : Char} {read : List Char} {pieces : List Piece} {text : List Char}

theorem assemble_escaped_control {code : Nat} (control : code < 0x20) :
    assemble read (.escaped code :: pieces) = assemble (Char.ofNat code :: read) pieces := by
  have noHigh : isHighHalf code = false := by simp [isHighHalf]; omega
  have noLow : isLowHalf code = false := by simp [isLowHalf]; omega
  cases pieces with
  | nil => simp [assemble, noHigh, noLow]
  | cons piece pieces =>
      cases piece with
      | character character => simp [assemble, noHigh, noLow]
      | escaped code => simp [assemble, noHigh, noLow]
      | spoiled => simp [assemble, noHigh, noLow]

theorem assemble_of_standFor (stand : List.Forall₂ Piece.StandsFor pieces text) :
    assemble read pieces = some (read.reverse ++ text) := by
  induction stand generalizing read with
  | nil => simp [assemble]
  | cons here later induction_hypothesis =>
      rcases here with rfl | ⟨rfl, control⟩
      · simp [assemble, induction_hypothesis]
      · simp [assemble_escaped_control control, induction_hypothesis]

theorem codeUnit?_control {code : Nat} (control : code < 0x20) :
    codeUnit? '0' '0' (hexDigit (code / 16)) (hexDigit (code % 16)) = some code := by
  have all : ∀ code : Fin 0x20,
      codeUnit? '0' '0' (hexDigit (code.val / 16)) (hexDigit (code.val % 16)) =
        some code.val := by decide
  exact all ⟨code, control⟩

/-- A letter behind a backslash is read as the character that it names. -/
theorem pieces?_escapedLetter {letter : Char} {read : List Piece} {rest : Received}
    (named : escapedLetter? letter = some character) :
    pieces? read (some '\\' :: some letter :: rest) =
      pieces? (.character character :: read) rest := by
  have other : letter ≠ 'u' := by
    rintro rfl
    cases named
  rw [pieces?.eq_def]
  split <;> grind

theorem pieces?_plain {read : List Piece} {rest : Received} (noQuote : character ≠ '"')
    (noBackslash : character ≠ '\\') (visible : ¬character.toNat < 0x20) :
    pieces? read (some character :: rest) = pieces? (.character character :: read) rest := by
  rw [pieces?.eq_def]
  split <;> simp_all

/-- What stands in a string, whatever is read before it and follows it, is taken as one piece. -/
def TakenAs (unit : List Char) (piece : Piece) : Prop :=
  ∀ read rest, pieces? read (unit.map some ++ rest) = pieces? (piece :: read) rest

/-- A character inside a string is taken as one piece that stands for it. -/
theorem exists_takenAs_escaped (character : Char) :
    ∃ piece : Piece, piece.StandsFor character ∧ TakenAs (escaped character) piece := by
  by_cases control : character.toNat < 0x20 ∧ escaped character =
      ['\\', 'u', '0', '0', hexDigit (character.toNat / 16), hexDigit (character.toNat % 16)]
  · rcases control with ⟨small, printed⟩
    refine ⟨.escaped character.toNat, Or.inr ⟨rfl, small⟩, ?_⟩
    intro read rest
    rw [printed]
    simp [pieces?, codeUnit?_control small]
  · refine ⟨.character character, Or.inl rfl, ?_⟩
    intro read rest
    have cases : (∃ letter, escaped character = ['\\', letter] ∧
        escapedLetter? letter = some character) ∨
        (escaped character = [character] ∧ character ≠ '"' ∧ character ≠ '\\' ∧
          ¬character.toNat < 0x20) := by
      unfold escaped at control ⊢
      split_ifs at control ⊢ <;> simp_all [escapedLetter?]
    rcases cases with ⟨letter, printed, named⟩ | ⟨printed, noQuote, noBackslash, visible⟩
    · rw [printed]
      exact pieces?_escapedLetter named
    · rw [printed]
      exact pieces?_plain noQuote noBackslash visible

/-- The characters of a string are taken as pieces that stand for them. -/
theorem exists_takenAs_text (text : List Char) :
    ∃ pieces : List Piece, List.Forall₂ Piece.StandsFor pieces text ∧
      List.Forall₂ TakenAs (text.map escaped) pieces := by
  induction text with
  | nil => exact ⟨[], .nil, .nil⟩
  | cons character text induction_hypothesis =>
      rcases exists_takenAs_escaped character with ⟨piece, stands, taken⟩
      rcases induction_hypothesis with ⟨pieces, stand, areTaken⟩
      exact ⟨piece :: pieces, .cons stands stand, .cons taken areTaken⟩

/-- A string up to its closing quote is made of the pieces that its units are taken as. -/
theorem pieces?_closed {units : List (List Char)} (taken : List.Forall₂ TakenAs units pieces)
    (read : List Piece) (rest : Received) :
    pieces? read (units.flatten.map some ++ some '"' :: rest) =
      some (read.reverse ++ pieces, rest) := by
  induction taken generalizing read with
  | nil => simp [pieces?]
  | cons here later induction_hypothesis =>
      rw [List.flatten_cons, List.map_append, List.append_assoc, here, induction_hypothesis]
      simp

/-- Whatever follows these characters, they are read as a token. -/
def Reads (characters : List Char) (token : Token) : Prop :=
  ∃ first rest, characters = first :: rest ∧ isSpace first = false ∧
    ∀ after, next? first (rest.map some ++ after) = some (token, after)

theorem reads_openObject : Reads ['\x7b'] .openObject :=
  ⟨_, _, rfl, by decide, fun _ => rfl⟩

theorem reads_closeObject : Reads ['\x7d'] .closeObject :=
  ⟨_, _, rfl, by decide, fun _ => rfl⟩

theorem reads_comma : Reads [','] .comma :=
  ⟨_, _, rfl, by decide, fun _ => rfl⟩

theorem reads_colon : Reads [':'] .colon :=
  ⟨_, _, rfl, by decide, fun _ => rfl⟩

theorem reads_null : Reads ['n', 'u', 'l', 'l'] .null :=
  ⟨_, _, rfl, by decide, fun _ => rfl⟩

/-- A printed string is read as its text. -/
theorem reads_quoted (text : String) : Reads (quoted text) (.string (some text)) := by
  refine ⟨'"', text.toList.flatMap escaped ++ ['"'], rfl, by decide, ?_⟩
  intro after
  rcases exists_takenAs_text text.toList with ⟨pieces, stand, areTaken⟩
  have whole : pieces? [] ((text.toList.flatMap escaped ++ ['"']).map some ++ after) =
      some (pieces, after) := by
    simpa [List.flatMap] using pieces?_closed areTaken [] after
  have assembled : assemble [] pieces = some text.toList := assemble_of_standFor stand
  change (pieces? [] ((text.toList.flatMap escaped ++ ['"']).map some ++ after)).map _ = _
  rw [whole]
  simp [assembled]

/-- A text that is put together from parts which are read as these tokens. -/
inductive ReadsAs : List Char → List Token → Prop where
  | nil : ReadsAs [] []
  | cons {characters text : List Char} {token : Token} {tokens : List Token}
      (here : Reads characters token) (later : ReadsAs text tokens) :
      ReadsAs (characters ++ text) (token :: tokens)

variable {received : Received} {more : List Char} {token : Token} {tokens others : List Token}

theorem ReadsAs.append (first : ReadsAs text tokens) (second : ReadsAs more others) :
    ReadsAs (text ++ more) (tokens ++ others) := by
  induction first with
  | nil => exact second
  | cons here later induction_hypothesis =>
      rw [List.append_assoc]
      exact .cons here induction_hypothesis

theorem Reads.readsAs (reads : Reads text token) : ReadsAs text [token] := by
  simpa using ReadsAs.cons reads .nil

/-- A text is made of these tokens, with fuel for each of them and for each blank. -/
inductive Scans : Nat → Received → List Token → Prop where
  | nil (fuel : Nat) : Scans fuel [] []
  | blank {fuel : Nat} {character : Char} {rest : Received} {tokens : List Token}
      (isBlank : isSpace character = true) (later : Scans fuel rest tokens) :
      Scans (fuel + 1) (some character :: rest) tokens
  | token {fuel : Nat} {character : Char} {rest left : Received} {token : Token}
      {tokens : List Token} (solid : isSpace character = false)
      (first : next? character rest = some (token, left)) (later : Scans fuel left tokens) :
      Scans (fuel + 1) (some character :: rest) (token :: tokens)

theorem exists_scans_of_scan? {read : List Token} {fuel : Nat}
    (scanned : scan? read fuel received = some tokens) :
    ∃ found, Scans fuel received found ∧ tokens = read.reverse ++ found := by
  fun_induction scan? read fuel received with
  | case1 =>
      cases scanned
      exact ⟨[], .nil _, (List.append_nil _).symm⟩
  | case2 => cases scanned
  | case3 => cases scanned
  | case4 read fuel character rest isBlank induction_hypothesis =>
      rcases induction_hypothesis scanned with ⟨found, scans, rfl⟩
      exact ⟨found, .blank isBlank scans, rfl⟩
  | case5 => cases scanned
  | case6 read fuel character rest solid token left first induction_hypothesis =>
      rcases induction_hypothesis scanned with ⟨found, scans, rfl⟩
      exact ⟨token :: found, .token (by simpa using solid) first scans, by simp⟩

theorem Scans.scan? {fuel : Nat} (scans : Scans fuel received tokens) (read : List Token) :
    Token.scan? read fuel received = some (read.reverse ++ tokens) := by
  induction scans generalizing read with
  | nil fuel => cases fuel <;> simp [Token.scan?]
  | blank isBlank later induction_hypothesis =>
      simp [Token.scan?, isBlank, induction_hypothesis]
  | token solid first later induction_hypothesis =>
      simp [Token.scan?, solid, first, induction_hypothesis]

theorem ofReceived?_eq_some_iff :
    ofReceived? received = some tokens ↔ Scans received.length received tokens := by
  constructor
  · intro scanned
    rcases exists_scans_of_scan? scanned with ⟨found, scans, rfl⟩
    exact scans
  · intro scans
    exact scans.scan? []

theorem ReadsAs.scans {fuel : Nat} (reads : ReadsAs text tokens) (enough : text.length ≤ fuel) :
    Scans fuel (text.map some) tokens := by
  induction reads generalizing fuel with
  | nil => exact .nil fuel
  | @cons characters text token tokens here later induction_hypothesis =>
      rcases here with ⟨first, rest, rfl, noSpace, next⟩
      cases fuel with
      | zero => simp at enough
      | succ fuel =>
          have fits : text.length ≤ fuel := by
            simp at enough
            omega
          rw [List.cons_append, List.map_cons, List.map_append]
          exact .token noSpace (next _) (induction_hypothesis fits)

theorem ofReceived?_of_readsAs (reads : ReadsAs text tokens) :
    ofReceived? (text.map some) = some tokens := by
  rw [ofReceived?_eq_some_iff, List.length_map]
  exact reads.scans (Nat.le_refl _)

end CdnPublish.Json.Token
