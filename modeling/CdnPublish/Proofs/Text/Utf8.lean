import CdnPublish.Text.Utf8
import Mathlib

/-!
# Reading back what was received

A sequence of bytes that is received as a character is the encoding of that character, so a text
that was received without a flaw has exactly one spelling in bytes. A byte below 0x80 is always a
character of its own: it ends whatever sequence stands before it, and no other sequence is received
as that character.
-/

namespace CdnPublish.Text

section Sequences

variable {byte first second third low high : UInt8} {following bits value : Nat}
  {rest left : Bytes}

theorem toNat_ofNat_of_valid (value : Nat) (valid : value.isValidChar) :
    (Char.ofNat value).val.toNat = value := by
  simp [Char.ofNat, valid, Char.ofNatAux]

theorem ofNat_eq_byte (byte : UInt8) (same : value = byte.toNat) : UInt8.ofNat value = byte := by
  rw [same, UInt8.ofNat_toNat]

theorem encode_ascii (isAscii : byte.toNat < 0x80) :
    String.utf8EncodeChar (Char.ofNat byte.toNat) = [byte] := by
  have code := toNat_ofNat_of_valid byte.toNat (Or.inl (by omega))
  unfold String.utf8EncodeChar
  simp only [code]
  rw [if_pos (by omega), ofNat_eq_byte byte rfl]

theorem encode_two (lead : 0xC2 ≤ byte.toNat ∧ byte.toNat < 0xE0)
    (one : 0x80 ≤ first.toNat ∧ first.toNat ≤ 0xBF) :
    String.utf8EncodeChar (Char.ofNat (byte.toNat % 32 * 64 + first.toNat % 64)) =
      [byte, first] := by
  have code := toNat_ofNat_of_valid (byte.toNat % 32 * 64 + first.toNat % 64)
    (Or.inl (by omega))
  unfold String.utf8EncodeChar
  simp only [code]
  rw [if_neg (by omega), if_pos (by omega), ofNat_eq_byte byte (by omega),
    ofNat_eq_byte first (by omega)]

theorem encode_three (lead : 0xE0 ≤ byte.toNat ∧ byte.toNat < 0xF0)
    (one : 0x80 ≤ first.toNat ∧ first.toNat ≤ 0xBF)
    (two : 0x80 ≤ second.toNat ∧ second.toNat ≤ 0xBF)
    (notOverlong : byte.toNat = 0xE0 → 0xA0 ≤ first.toNat)
    (notSurrogate : byte.toNat = 0xED → first.toNat ≤ 0x9F) :
    String.utf8EncodeChar (Char.ofNat
      ((byte.toNat % 16 * 64 + first.toNat % 64) * 64 + second.toNat % 64)) =
      [byte, first, second] := by
  have code := toNat_ofNat_of_valid
    ((byte.toNat % 16 * 64 + first.toNat % 64) * 64 + second.toNat % 64) (by
      unfold Nat.isValidChar
      omega)
  unfold String.utf8EncodeChar
  simp only [code]
  rw [if_neg (by omega), if_neg (by omega), if_pos (by omega),
    ofNat_eq_byte byte (by omega), ofNat_eq_byte first (by omega),
    ofNat_eq_byte second (by omega)]

theorem encode_four (lead : 0xF0 ≤ byte.toNat ∧ byte.toNat ≤ 0xF4)
    (one : 0x80 ≤ first.toNat ∧ first.toNat ≤ 0xBF)
    (two : 0x80 ≤ second.toNat ∧ second.toNat ≤ 0xBF)
    (three : 0x80 ≤ third.toNat ∧ third.toNat ≤ 0xBF)
    (notOverlong : byte.toNat = 0xF0 → 0x90 ≤ first.toNat)
    (inRange : byte.toNat = 0xF4 → first.toNat ≤ 0x8F) :
    String.utf8EncodeChar (Char.ofNat (((byte.toNat % 8 * 64 + first.toNat % 64) * 64 +
      second.toNat % 64) * 64 + third.toNat % 64)) = [byte, first, second, third] := by
  have code := toNat_ofNat_of_valid (((byte.toNat % 8 * 64 + first.toNat % 64) * 64 +
      second.toNat % 64) * 64 + third.toNat % 64) (by
    unfold Nat.isValidChar
    omega)
  unfold String.utf8EncodeChar
  simp only [code]
  rw [if_neg (by omega), if_neg (by omega), if_neg (by omega),
    ofNat_eq_byte byte (by omega), ofNat_eq_byte first (by omega),
    ofNat_eq_byte second (by omega), ofNat_eq_byte third (by omega)]

theorem exists_of_continuation
    (read : continuation (following + 1) low high bits rest = (some value, left)) :
    ∃ byte more, rest = byte :: more ∧ (low.toNat ≤ byte.toNat ∧ byte.toNat ≤ high.toNat) ∧
      continuation following 0x80 0xBF (bits * 64 + byte.toNat % 64) more = (some value, left) := by
  cases rest with
  | nil => cases read
  | cons byte more =>
      unfold continuation at read
      split at read
      · rename_i inRange
        rcases Bool.and_eq_true_iff.mp inRange with ⟨lower, upper⟩
        exact ⟨byte, more, rfl, ⟨UInt8.le_iff_toNat_le.mp (of_decide_eq_true lower),
          UInt8.le_iff_toNat_le.mp (of_decide_eq_true upper)⟩, read⟩
      · cases read

/-- What a lead byte promises, for each length of a sequence. -/
inductive Lead.Fits (byte : UInt8) : Lead → Prop where
  | one (range : byte.toNat < 0x80) : Fits byte ⟨0, 0x80, 0xBF, byte.toNat⟩
  | two (range : 0xC2 ≤ byte.toNat ∧ byte.toNat < 0xE0) :
      Fits byte ⟨1, 0x80, 0xBF, byte.toNat % 32⟩
  | three {low high : UInt8} {bits : Nat} (range : 0xE0 ≤ byte.toNat ∧ byte.toNat < 0xF0)
      (own : bits = byte.toNat % 16) (bounds : 0x80 ≤ low.toNat ∧ high.toNat ≤ 0xBF)
      (notOverlong : byte.toNat = 0xE0 → 0xA0 ≤ low.toNat)
      (notSurrogate : byte.toNat = 0xED → high.toNat ≤ 0x9F) : Fits byte ⟨2, low, high, bits⟩
  | four {low high : UInt8} {bits : Nat} (range : 0xF0 ≤ byte.toNat ∧ byte.toNat ≤ 0xF4)
      (own : bits = byte.toNat % 8) (bounds : 0x80 ≤ low.toNat ∧ high.toNat ≤ 0xBF)
      (notOverlong : byte.toNat = 0xF0 → 0x90 ≤ low.toNat)
      (inRange : byte.toNat = 0xF4 → high.toNat ≤ 0x8F) : Fits byte ⟨3, low, high, bits⟩

theorem Lead.fits {lead : Lead} (known : Lead.of? byte = some lead) : lead.Fits byte := by
  unfold Lead.of? at known
  simp only [UInt8.lt_iff_toNat_lt, beq_iff_eq, ← UInt8.toNat_inj, UInt8.reduceToNat] at known
  split_ifs at known <;> cases known
  · exact .one (by omega)
  · exact .two (by omega)
  · exact .three (by omega) (by omega) (by decide) (by simp) (by omega)
  · exact .three (by omega) (by omega) (by decide) (by omega) (by simp)
  · exact .three (by omega) (by omega) (by decide) (by omega) (by omega)
  · exact .four (by omega) (by omega) (by decide) (by simp) (by omega)
  · exact .four (by omega) (by omega) (by decide) (by omega) (by omega)
  · exact .four (by omega) (by omega) (by decide) (by omega) (by simp)

/-- What is received as a character is the encoding of that character. What the lead byte asks of
the byte after it keeps out values that are written shorter, surrogates, and values beyond the last
character. -/
theorem encode_of_firstCharacter {character : Char}
    (received : firstCharacter byte rest = (some character, left)) :
    String.utf8EncodeChar character ++ left = byte :: rest := by
  unfold firstCharacter at received
  cases known : Lead.of? byte with
  | none =>
      rw [known] at received
      cases received
  | some lead =>
      rw [known] at received
      have decoded : ∃ value, continuation lead.following lead.low lead.high lead.bits rest =
          (some value, left) ∧ character = Char.ofNat value := by
        cases read : continuation lead.following lead.low lead.high lead.bits rest with
        | mk value after =>
            simp only [read] at received
            cases value with
            | none => cases received
            | some value =>
                cases received
                exact ⟨value, rfl, rfl⟩
      rcases decoded with ⟨value, read, rfl⟩
      cases Lead.fits known with
      | one range =>
          cases read
          rw [encode_ascii range, List.singleton_append]
      | two range =>
          rcases exists_of_continuation read with ⟨first, more, rfl, one, goesOn⟩
          cases goesOn
          rw [encode_two range one]
          rfl
      | three range own bounds notOverlong notSurrogate =>
          rcases exists_of_continuation read with ⟨first, more, rfl, one, next⟩
          rcases exists_of_continuation next with ⟨second, more, rfl, two, goesOn⟩
          cases goesOn
          dsimp only at one two
          rw [own, encode_three range ⟨by omega, by omega⟩ two (by omega) (by omega)]
          rfl
      | four range own bounds notOverlong inRange =>
          rcases exists_of_continuation read with ⟨first, more, rfl, one, next⟩
          rcases exists_of_continuation next with ⟨second, more, rfl, two, next⟩
          rcases exists_of_continuation next with ⟨third, more, rfl, three, goesOn⟩
          cases goesOn
          dsimp only at one two three
          rw [own, encode_four range ⟨by omega, by omega⟩ two three (by omega) (by omega)]
          rfl

end Sequences

section Received

variable {bytes : Bytes} {character : Char} {text : List Char}

/-- Bytes are read from one character to the next. -/
theorem received_induction {motive : Bytes → Prop} (nil : motive [])
    (cons : ∀ byte rest, motive (firstCharacter byte rest).2 → motive (byte :: rest))
    (bytes : Bytes) : motive bytes := by
  induction length : bytes.length using Nat.strongRecOn generalizing bytes with
  | _ length induction_hypothesis =>
      cases bytes with
      | nil => exact nil
      | cons byte rest =>
          have shorter := firstCharacter_length_le byte rest
          rw [List.length_cons] at length
          exact cons byte rest (induction_hypothesis _ (by omega) _ rfl)

theorem scan_eq (read : Received) (bytes : Bytes) :
    scan read bytes = read.reverse ++ receive bytes := by
  unfold receive
  induction bytes using received_induction generalizing read with
  | nil => simp [scan]
  | cons byte rest induction_hypothesis =>
      rw [scan, scan, induction_hypothesis, induction_hypothesis [_]]
      simp

@[simp]
theorem receive_nil : receive [] = [] := by
  simp [receive, scan]

theorem receive_cons (byte : UInt8) (rest : Bytes) :
    receive (byte :: rest) =
      (firstCharacter byte rest).1 :: receive (firstCharacter byte rest).2 := by
  rw [receive, scan, scan_eq]
  rfl

theorem decodeLossy_eq_nil_iff : decodeLossy bytes = [] ↔ bytes = [] := by
  cases bytes with
  | nil => simp [decodeLossy]
  | cons byte rest => simp [decodeLossy, receive_cons]

/-- A text that is received without a flaw is the reading of its encoding. -/
theorem encode_of_receive (received : receive bytes = text.map some) :
    text.flatMap String.utf8EncodeChar = bytes := by
  induction bytes using received_induction generalizing text with
  | nil =>
      rw [receive_nil] at received
      cases text with
      | nil => rfl
      | cons character text => cases received
  | cons byte rest induction_hypothesis =>
      rw [receive_cons] at received
      cases text with
      | nil => cases received
      | cons character text =>
          rw [List.map_cons] at received
          rcases List.cons.inj received with ⟨first, later⟩
          rw [List.flatMap_cons, induction_hypothesis later]
          exact encode_of_firstCharacter (Prod.ext first rfl)

theorem decode?_eq_some_iff : decode? bytes = some text ↔ receive bytes = text.map some := by
  unfold decode?
  generalize receive bytes = received
  induction received generalizing text with
  | nil => cases text <;> simp
  | cons first received induction_hypothesis =>
      rw [List.mapM_cons]
      cases first with
      | none => cases text <;> simp
      | some character =>
          cases text with
          | nil => cases received.mapM id <;> simp
          | cons next text =>
              rw [List.map_cons, List.cons.injEq, ← induction_hypothesis]
              cases received.mapM id <;> simp

theorem encode_of_decode? (decoded : decode? bytes = some text) :
    text.flatMap String.utf8EncodeChar = bytes :=
  encode_of_receive (decode?_eq_some_iff.mp decoded)

theorem decodeLossy_of_decode? (decoded : decode? bytes = some text) :
    decodeLossy bytes = text := by
  rw [decodeLossy, decode?_eq_some_iff.mp decoded, List.map_map]
  exact List.map_id text

theorem receive_of_decodeLossy (unflawed : '\uFFFD' ∉ decodeLossy bytes) :
    receive bytes = (decodeLossy bytes).map some := by
  rw [decodeLossy, List.map_map]
  refine (List.map_id _).symm.trans (List.map_congr_left fun first mem => ?_)
  cases first with
  | none => exact absurd (List.mem_map.mpr ⟨none, mem, rfl⟩) unflawed
  | some character => rfl

theorem encode_of_decodeLossy (unflawed : '\uFFFD' ∉ decodeLossy bytes) :
    (decodeLossy bytes).flatMap String.utf8EncodeChar = bytes :=
  encode_of_receive (receive_of_decodeLossy unflawed)

/-- Bytes that are well formed and read alike are the same. -/
theorem eq_of_decodeLossy_eq {other : Bytes} (wellFormed : (decode? bytes).isSome = true)
    (otherWellFormed : (decode? other).isSome = true)
    (same : decodeLossy bytes = decodeLossy other) : bytes = other := by
  rcases Option.isSome_iff_exists.mp wellFormed with ⟨text, decoded⟩
  rcases Option.isSome_iff_exists.mp otherWellFormed with ⟨otherText, otherDecoded⟩
  rw [decodeLossy_of_decode? decoded, decodeLossy_of_decode? otherDecoded] at same
  rw [← encode_of_decode? decoded, ← encode_of_decode? otherDecoded, same]

theorem continuation_suffix (following : Nat) (low high : UInt8) (bits : Nat) (rest : Bytes) :
    (continuation following low high bits rest).2 <:+ rest := by
  fun_induction continuation following low high bits rest with
  | case1 => exact List.suffix_rfl
  | case2 => exact List.suffix_rfl
  | case3 _ _ _ _ byte rest _ shorter => exact shorter.trans (List.suffix_cons byte rest)
  | case4 => exact List.suffix_rfl

theorem firstCharacter_suffix (byte : UInt8) (rest : Bytes) :
    (firstCharacter byte rest).2 <:+ rest := by
  unfold firstCharacter
  split
  · exact List.suffix_rfl
  · exact continuation_suffix ..

theorem mem_of_mem_receive {sent : UInt8} (mem : some character ∈ receive bytes)
    (own : sent ∈ String.utf8EncodeChar character) : sent ∈ bytes := by
  induction bytes using received_induction with
  | nil => simp at mem
  | cons byte rest induction_hypothesis =>
      rw [receive_cons] at mem
      rcases List.mem_cons.mp mem with first | later
      · rw [← encode_of_firstCharacter (Prod.ext first.symm rfl)]
        exact List.mem_append_left _ own
      · have inRest := (firstCharacter_suffix byte rest).mem (induction_hypothesis later)
        exact List.mem_cons_of_mem byte inRest

/-- No sequence is received as a character below 0x80 but the byte itself. -/
theorem not_mem_decodeLossy (byte : UInt8) (isAscii : byte.toNat < 0x80) (absent : byte ∉ bytes) :
    Char.ofNat byte.toNat ∉ decodeLossy bytes := by
  intro mem
  rcases List.mem_map.mp mem with ⟨first, received, same⟩
  cases first with
  | none =>
      have code := toNat_ofNat_of_valid byte.toNat (Or.inl (by omega))
      rw [← same] at code
      have large : byte.toNat = 0xFFFD := code.symm
      omega
  | some character =>
      refine absent (mem_of_mem_receive received ?_)
      rw [show character = Char.ofNat byte.toNat from same, encode_ascii isAscii]
      exact List.mem_singleton_self byte

end Received

section Ascii

variable {byte stop low high : UInt8} {following bits : Nat} {before after rest : Bytes}

/-- A byte below 0x80 continues nothing. -/
theorem continuation_append (isAscii : stop.toNat < 0x80) (lower : 0x80 ≤ low.toNat) :
    continuation following low high bits (before ++ stop :: after) =
      ((continuation following low high bits before).1,
        (continuation following low high bits before).2 ++ stop :: after) := by
  induction following generalizing low high bits before with
  | zero => simp [continuation]
  | succ following induction_hypothesis =>
      cases before with
      | nil =>
          have outside : (low ≤ stop && stop ≤ high) = false := by
            simp only [Bool.and_eq_false_iff, decide_eq_false_iff_not, UInt8.le_iff_toNat_le]
            omega
          simp [continuation, outside]
      | cons byte before =>
          rw [List.cons_append, continuation, continuation]
          split
          · exact induction_hypothesis (by decide)
          · rfl

theorem firstCharacter_append (isAscii : stop.toNat < 0x80) :
    firstCharacter byte (before ++ stop :: after) =
      ((firstCharacter byte before).1, (firstCharacter byte before).2 ++ stop :: after) := by
  unfold firstCharacter
  cases known : Lead.of? byte with
  | none => rfl
  | some lead =>
      have lower : 0x80 ≤ lead.low.toNat := by
        cases Lead.fits known with
        | one range => exact Nat.le_refl _
        | two range => exact Nat.le_refl _
        | three range own bounds => exact bounds.1
        | four range own bounds => exact bounds.1
      simp only [continuation_append isAscii lower]

theorem firstCharacter_of_ascii (isAscii : byte.toNat < 0x80) :
    firstCharacter byte rest = (some (Char.ofNat byte.toNat), rest) := by
  have known : Lead.of? byte = some ⟨0, 0x80, 0xBF, byte.toNat⟩ :=
    if_pos (UInt8.lt_iff_toNat_lt.mpr isAscii)
  simp [firstCharacter, known, continuation]

/-- A byte below 0x80 is a character of its own, whatever stands before it. -/
theorem receive_append (isAscii : stop.toNat < 0x80) (before after : Bytes) :
    receive (before ++ stop :: after) =
      receive before ++ some (Char.ofNat stop.toNat) :: receive after := by
  induction before using received_induction with
  | nil => rw [List.nil_append, receive_cons, firstCharacter_of_ascii isAscii, receive_nil,
      List.nil_append]
  | cons byte rest induction_hypothesis =>
      rw [List.cons_append, receive_cons, receive_cons, firstCharacter_append isAscii,
        induction_hypothesis, List.cons_append]

theorem decodeLossy_append (isAscii : stop.toNat < 0x80) (before after : Bytes) :
    decodeLossy (before ++ stop :: after) =
      decodeLossy before ++ Char.ofNat stop.toNat :: decodeLossy after := by
  simp [decodeLossy, receive_append isAscii]

end Ascii

end CdnPublish.Text
