import CdnPublish.Digest
import CdnPublish.Proofs.Sha256.Streaming
import Mathlib

/-!
# Content keys and the reads that a content comes in

An empty read ends a content, and only the reads before it are heard. Among these the first failure
decides; without a failure the content key is that of the bytes that were read, no matter how they
were spread over the reads or how often a read was interrupted.
-/

namespace CdnPublish.Digest

/-- The bytes of a read that delivers some. -/
def Read.chunk? : Read → Option Bytes
  | .bytes chunk => some chunk
  | .interrupted => none
  | .failed _ => none

/-- The message of a read that fails for good. -/
def Read.failure? : Read → Option String
  | .bytes _ => none
  | .interrupted => none
  | .failed message => some message

/-- The reads before the end of the content: before the first empty read, or all of them. -/
def heard (reads : List Read) : List Read :=
  reads.takeWhile (· ≠ .bytes [])

/-- The bytes that are read before the end of the content. -/
def delivered (reads : List Read) : Bytes :=
  ((heard reads).filterMap Read.chunk?).flatten

/-- No read fails before the end of the content. -/
def Unfailing (reads : List Read) : Prop :=
  ∀ message, .failed message ∉ heard reads

/-- The first read that fails before the end of the content fails with this message. -/
def FailsFirst (message : String) (reads : List Read) : Prop :=
  ∃ before after, heard reads = before ++ .failed message :: after ∧
    ∀ other, .failed other ∉ before

variable {reads others : List Read} {message : String} {key : ContentKey}

theorem failure?_eq_some_iff {read : Read} :
    read.failure? = some message ↔ read = .failed message := by
  cases read <;> simp [Read.failure?]

theorem failure?_eq_none_iff {list : List Read} :
    (∀ read ∈ list, read.failure? = none) ↔ ∀ message, .failed message ∉ list := by
  constructor
  · intro none message mem
    cases none _ mem
  · intro unfailing read mem
    cases failure : read.failure? with
    | none => rfl
    | some message =>
        rw [failure?_eq_some_iff.mp failure] at mem
        exact absurd mem (unfailing message)

theorem findSome?_heard_eq_none_iff :
    (heard reads).findSome? Read.failure? = none ↔ Unfailing reads := by
  rw [List.findSome?_eq_none_iff, failure?_eq_none_iff]
  rfl

theorem findSome?_heard_eq_some_iff :
    (heard reads).findSome? Read.failure? = some message ↔ FailsFirst message reads := by
  rw [List.findSome?_eq_some_iff]
  simp only [failure?_eq_some_iff, failure?_eq_none_iff]
  constructor
  · rintro ⟨before, _, after, split, rfl, first⟩
    exact ⟨before, after, split, first⟩
  · rintro ⟨before, after, split, first⟩
    exact ⟨before, _, after, split, rfl, first⟩

/-- The hasher takes the chunks that are heard, unless a failure is heard first. -/
theorem absorb_eq (hasher : Sha256.Hasher) (reads : List Read) :
    absorb hasher reads =
      match (heard reads).findSome? Read.failure? with
      | some message => .error message
      | none => .ok (((heard reads).filterMap Read.chunk?).foldl .update hasher) := by
  fun_induction absorb hasher reads with
  | case1 => rfl
  | case2 => simp [heard]
  | case3 hasher byte chunk rest induction_hypothesis =>
      simpa [heard, List.findSome?_cons, Read.failure?, Read.chunk?] using induction_hypothesis
  | case4 hasher rest induction_hypothesis =>
      simpa [heard, List.findSome?_cons, List.filterMap_cons, Read.failure?, Read.chunk?]
        using induction_hypothesis
  | case5 hasher message rest => simp [heard, List.findSome?_cons, Read.failure?]

theorem ofReads_eq (reads : List Read) :
    ofReads reads =
      match (heard reads).findSome? Read.failure? with
      | some message => .error message
      | none => .ok (.ofBytes (delivered reads)) := by
  rw [ofReads, absorb_eq]
  cases (heard reads).findSome? Read.failure? with
  | some message => rfl
  | none =>
      have digested := Sha256.Hasher.finish_foldl_update ((heard reads).filterMap Read.chunk?)
      simp only [Except.map, ContentKey.ofBytes, delivered, digested]

theorem ofReads_eq_error_iff : ofReads reads = .error message ↔ FailsFirst message reads := by
  rw [ofReads_eq, ← findSome?_heard_eq_some_iff]
  cases (heard reads).findSome? Read.failure? <;> simp

theorem ofReads_eq_ok_iff :
    ofReads reads = .ok key ↔ Unfailing reads ∧ key = .ofBytes (delivered reads) := by
  rw [ofReads_eq, ← findSome?_heard_eq_none_iff]
  cases (heard reads).findSome? Read.failure? <;> simp [eq_comm]

/-- A content key does not show how the content was read. Reading fails exactly when a read fails
before the end of the content, and then with the first such failure. Otherwise the key is the
SHA-256 digest of the bytes before the end in lower-case hexadecimal, which reads back as this key,
and other reads that deliver the same bytes give the same key. -/
theorem ofReads_exact (reads : List Read) :
    ((∃ message, ofReads reads = .error message) ↔ ∃ message, .failed message ∈ heard reads) ∧
    (∀ message, ofReads reads = .error message ↔ FailsFirst message reads) ∧
    (∀ key, ofReads reads = .ok key →
      key.text = String.ofList (hex (Sha256.digest (delivered reads))) ∧
        ContentKey.parse? (String.ofList (hex (Sha256.digest (delivered reads)))) = some key) ∧
    (∀ others, Unfailing reads → Unfailing others → delivered reads = delivered others →
      ∃ key, ofReads reads = .ok key ∧ ofReads others = .ok key) := by
  refine ⟨?_, fun message => ofReads_eq_error_iff, ?_, ?_⟩
  · simp only [ofReads_eq_error_iff]
    constructor
    · rintro ⟨message, before, after, split, -⟩
      exact ⟨message, by simp [split]⟩
    · rintro ⟨message, mem⟩
      have someFailure : (heard reads).findSome? Read.failure? ≠ none := by
        rw [Ne, findSome?_heard_eq_none_iff]
        exact fun unfailing => unfailing message mem
      rcases Option.ne_none_iff_exists'.mp someFailure with ⟨first, found⟩
      exact ⟨first, findSome?_heard_eq_some_iff.mp found⟩
  · intro key given
    have same : key.text = String.ofList (hex (Sha256.digest (delivered reads))) := by
      rw [(ofReads_eq_ok_iff.mp given).2]
      rfl
    exact ⟨same, ContentKey.parse?_eq_some_iff.mpr same⟩
  · intro others unfailing alsoUnfailing same
    refine ⟨_, ofReads_eq_ok_iff.mpr ⟨unfailing, rfl⟩, ?_⟩
    exact ofReads_eq_ok_iff.mpr ⟨alsoUnfailing, by rw [same]⟩

/-- An interrupted read between two chunks and a failure after the end of the content leave the
key of the whole content; of two failures the first counts. -/
theorem ofReads_exact_interrupted :
    (∃ key, ofReads [.interrupted, .bytes [104], .interrupted, .bytes [105], .bytes [],
        .failed "late"] = .ok key ∧ ofReads [.bytes [104, 105]] = .ok key ∧
      key.text = "8f434346648f6b96df89dda901c5176b10a6d83961dd3c1ac88b59b2dc327aa4" ∧
      ContentKey.parse? key.text = some key) ∧
    ofReads [.bytes [104], .failed "first", .failed "second"] = .error "first" := by
  have unfailing : Unfailing [.interrupted, .bytes [104], .interrupted, .bytes [105], .bytes [],
      .failed "late"] := by
    simp [Unfailing, heard]
  have alsoUnfailing : Unfailing [.bytes [104, 105]] := by simp [Unfailing, heard]
  have digest : String.ofList (hex (Sha256.digest [104, 105])) =
      "8f434346648f6b96df89dda901c5176b10a6d83961dd3c1ac88b59b2dc327aa4" := by
    cbv
  constructor
  · rcases (ofReads_exact _).2.2.2 _ unfailing alsoUnfailing rfl with ⟨key, given, alsoGiven⟩
    rcases (ofReads_exact _).2.2.1 key alsoGiven with ⟨text, parsed⟩
    have hidden : delivered [.bytes [104, 105]] = [104, 105] := rfl
    rw [hidden, digest] at text
    exact ⟨key, given, alsoGiven, text, by simp⟩
  · exact ((ofReads_exact _).2.1 "first").mpr ⟨[.bytes [104]], [.failed "second"], rfl, by simp⟩

end CdnPublish.Digest
