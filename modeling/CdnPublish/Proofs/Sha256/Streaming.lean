import CdnPublish.Sha256

/-!
# Chunks make no difference to a digest

A hasher keeps whole blocks as a state and the start of a block as bytes. Whatever the chunks were
in which a message came, the two are those of the whole message, and so the digest is that of the
whole message.
-/

namespace CdnPublish.Sha256

variable {count : Nat} {state : State} {bytes : Bytes}

/-- Blocks are absorbed one part after the other. -/
theorem absorbBlocks_add (first second : Nat) (state : State) (bytes : Bytes) :
    absorbBlocks (first + second) state bytes =
      absorbBlocks second (absorbBlocks first state bytes) (bytes.drop (64 * first)) := by
  induction first generalizing state bytes with
  | zero => simp [absorbBlocks]
  | succ first induction_hypothesis =>
      have further : (bytes.drop 64).drop (64 * first) = bytes.drop (64 * (first + 1)) := by
        rw [List.drop_drop]
        congr 1
        omega
      rw [Nat.succ_add, absorbBlocks, induction_hypothesis, further, absorbBlocks]

/-- Bytes behind the absorbed blocks are not looked at. -/
theorem absorbBlocks_append (more : Bytes) (enough : 64 * count ≤ bytes.length) :
    absorbBlocks count state (bytes ++ more) = absorbBlocks count state bytes := by
  induction count generalizing state bytes with
  | zero => rfl
  | succ count induction_hypothesis =>
      have block : 64 ≤ bytes.length := by omega
      have left : 64 * count ≤ (bytes.drop 64).length := by
        rw [List.length_drop]
        omega
      rw [absorbBlocks, absorbBlocks, List.take_append_of_le_length block,
        List.drop_append_of_le_length block, induction_hypothesis left]

/-- The whole blocks of two parts are those of the first and then those that its rest makes up with
the second. -/
theorem length_append_div (first second : Bytes) :
    (first ++ second).length / 64 =
      first.length / 64 + (leftOver first ++ second).length / 64 := by
  rw [leftOver, List.length_append, List.length_append, List.length_drop]
  omega

theorem drop_append_eq (first second : Bytes) :
    (first ++ second).drop (64 * (first.length / 64)) = leftOver first ++ second :=
  List.drop_append_of_le_length (Nat.mul_div_le _ _)

theorem absorbAll_append (state : State) (first second : Bytes) :
    absorbAll state (first ++ second) =
      absorbAll (absorbAll state first) (leftOver first ++ second) := by
  calc absorbAll state (first ++ second) =
      absorbBlocks ((leftOver first ++ second).length / 64)
        (absorbBlocks (first.length / 64) state (first ++ second))
        ((first ++ second).drop (64 * (first.length / 64))) := by
        rw [absorbAll, length_append_div, absorbBlocks_add]
    _ = absorbAll (absorbAll state first) (leftOver first ++ second) := by
        rw [absorbBlocks_append second (Nat.mul_div_le _ _), drop_append_eq]
        rfl

theorem leftOver_append (first second : Bytes) :
    leftOver (first ++ second) = leftOver (leftOver first ++ second) := by
  rw [leftOver, length_append_div, Nat.mul_add, ← List.drop_drop, drop_append_eq]
  rfl

namespace Hasher

/-- An empty chunk changes nothing, since fewer bytes are kept than make a block. -/
theorem update_nil (hasher : Hasher) : hasher.update [] = hasher := by
  rcases hasher with ⟨state, pending, length, few⟩
  have noBlock : pending.length / 64 = 0 := Nat.div_eq_of_lt few
  simp [update, absorbAll, leftOver, noBlock, absorbBlocks]

/-- Two chunks after one another are one chunk. -/
theorem update_update (hasher : Hasher) (first second : Bytes) :
    (hasher.update first).update second = hasher.update (first ++ second) := by
  simp only [update, Hasher.mk.injEq]
  refine ⟨?_, ?_, ?_⟩
  · rw [← List.append_assoc]
    exact (absorbAll_append ..).symm
  · rw [← List.append_assoc]
    exact (leftOver_append ..).symm
  · rw [List.length_append, Nat.add_assoc]

/-- Finishing pads the whole message, however it came. -/
theorem finish_update_start (message : Bytes) : (start.update message).finish = digest message := by
  have length : (start.update message).length = message.length := Nat.zero_add _
  rw [finish, update_update, length]
  rfl

theorem foldl_update (hasher : Hasher) (chunks : List Bytes) :
    chunks.foldl update hasher = hasher.update chunks.flatten := by
  induction chunks generalizing hasher with
  | nil => exact (update_nil hasher).symm
  | cons chunk chunks induction_hypothesis =>
      rw [List.foldl_cons, induction_hypothesis, update_update, List.flatten_cons]

/-- The digest of a message that comes in chunks is the digest of the message. -/
theorem finish_foldl_update (chunks : List Bytes) :
    (chunks.foldl update start).finish = digest chunks.flatten := by
  rw [foldl_update, finish_update_start]

end Hasher

end CdnPublish.Sha256
