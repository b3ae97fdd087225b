import CdnPublish.ContentKey
import CdnPublish.Sha256

/-!
# Content keys of contents

The content key of a byte string is its SHA-256 digest in lower-case hexadecimal. A content that
arrives in pieces is digested read by read: an empty read ends it, an interrupted read is repeated
and any other failure is final.
-/

namespace CdnPublish

namespace Digest

/-- A number below sixteen as a hexadecimal digit. -/
def hexDigit (value : Nat) : Char :=
  if value < 10 then Char.ofNat (0x30 + value) else Char.ofNat (0x57 + value)

/-- A byte as two hexadecimal digits. -/
def hexByte (byte : UInt8) : List Char :=
  [hexDigit (byte.toNat / 16), hexDigit (byte.toNat % 16)]

/-- A byte string in lower-case hexadecimal. -/
def hex (bytes : Bytes) : List Char :=
  bytes.flatMap hexByte

/-- Every number below sixteen has a lower-case hexadecimal digit. -/
theorem isLowerHexDigit_hexDigit {value : Nat} (small : value < 16) :
    isLowerHexDigit (hexDigit value) = true := by
  have all : ∀ digit ∈ List.range 16, isLowerHexDigit (hexDigit digit) = true := by decide
  exact all value (List.mem_range.mpr small)

theorem hex_length (bytes : Bytes) : (hex bytes).length = 2 * bytes.length := by
  induction bytes with
  | nil => rfl
  | cons byte rest induction_hypothesis =>
    simp only [hex, List.flatMap_cons, List.length_append] at induction_hypothesis ⊢
    simp only [hexByte, List.length_cons, List.length_nil]
    omega

theorem hex_all (bytes : Bytes) : (hex bytes).all isLowerHexDigit = true := by
  induction bytes with
  | nil => rfl
  | cons byte rest induction_hypothesis =>
    have high : byte.toNat / 16 < 16 := by have := byte.toNat_lt; omega
    have low : byte.toNat % 16 < 16 := Nat.mod_lt _ (by decide)
    simp only [hex, List.flatMap_cons, List.all_append, hexByte, List.all_cons, List.all_nil,
      isLowerHexDigit_hexDigit high, isLowerHexDigit_hexDigit low, Bool.and_true, Bool.true_and]
    exact induction_hypothesis

theorem bigEndian_length (width value : Nat) : (Sha256.bigEndian width value).length = width := by
  induction width generalizing value with
  | zero => rfl
  | succ width induction_hypothesis => simp [Sha256.bigEndian, induction_hypothesis]

theorem bytes_length (state : Sha256.State) : state.bytes.length = 32 := by
  simp [Sha256.State.bytes, bigEndian_length]

theorem digest_length (message : Bytes) : (Sha256.digest message).length = 32 :=
  bytes_length _

end Digest

/-- The content key that a digest of thirty-two bytes stands for. -/
def ContentKey.ofDigest (digest : Bytes) (whole : digest.length = 32) : ContentKey where
  text := String.ofList (Digest.hex digest)
  valid := by
    constructor
    · simp [Digest.hex_length, whole]
    · simpa using Digest.hex_all digest

/-- The content key of a byte string. -/
def ContentKey.ofBytes (content : Bytes) : ContentKey :=
  .ofDigest (Sha256.digest content) (Digest.digest_length content)

namespace Digest

/-- How one read of a content ends. -/
inductive Read where
  | bytes (chunk : Bytes)
  /-- The read was interrupted and may be repeated. -/
  | interrupted
  | failed (message : String)
  deriving DecidableEq, Repr

/-- The hasher after a sequence of reads; where the sequence ends, the content ends. -/
def absorb (hasher : Sha256.Hasher) : List Read → Except String Sha256.Hasher
  | [] => .ok hasher
  | .bytes [] :: _ => .ok hasher
  | .bytes (byte :: chunk) :: rest => absorb (hasher.update (byte :: chunk)) rest
  | .interrupted :: rest => absorb hasher rest
  | .failed message :: _ => .error message

/-- The content key of what a sequence of reads delivers. -/
def ofReads (reads : List Read) : Except String ContentKey :=
  (absorb .start reads).map fun hasher => .ofDigest hasher.finish (bytes_length _)

end Digest

end CdnPublish
