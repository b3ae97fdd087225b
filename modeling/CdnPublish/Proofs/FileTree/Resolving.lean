import CdnPublish.Proofs.FileTree.Entries

/-!
# How a path is resolved

A path is resolved piece by piece. `Resolves` lists what a piece can do, one constructor for each
case, and a path leads to a place when its pieces do.
-/

namespace CdnPublish.FileTree

/-- A piece that names an entry. -/
def IsOrdinary (piece : Bytes) : Prop :=
  piece ≠ [] ∧ piece ≠ LocalPath.dot ∧ piece ≠ LocalPath.dotDot ∧ piece.length ≤ maxNameLength

/-- The pieces lead from a place to another one, with at most so many links on the way. -/
inductive Resolves (tree : FileTree) (followLast : Bool) :
    Nat → Place → List Bytes → Place → Prop where
  | done (links : Nat) (place : Place) : Resolves tree followLast links place [] place
  | stay {links : Nat} {place result : Place} {piece : Bytes} {rest : List Bytes}
      (inside : tree.isDirectoryAt place = true) (here : piece = [] ∨ piece = LocalPath.dot)
      (later : Resolves tree followLast links place rest result) :
      Resolves tree followLast links place (piece :: rest) result
  | up {links : Nat} {place result : Place} {rest : List Bytes}
      (inside : tree.isDirectoryAt place = true)
      (later : Resolves tree followLast links place.dropLast rest result) :
      Resolves tree followLast links place (LocalPath.dotDot :: rest) result
  | enter {links : Nat} {place result : Place} {piece : Bytes} {rest : List Bytes}
      {entry : FileEntry} (inside : tree.isDirectoryAt place = true) (ordinary : IsOrdinary piece)
      (stands : tree.entryAt? (place ++ [piece]) = some entry)
      (solid : ∀ target, entry ≠ .link target)
      (later : Resolves tree followLast links (place ++ [piece]) rest result) :
      Resolves tree followLast links place (piece :: rest) result
  | keep {links : Nat} {place : Place} {piece : Bytes} {target : LocalPath}
      (inside : tree.isDirectoryAt place = true) (ordinary : IsOrdinary piece)
      (stands : tree.entryAt? (place ++ [piece]) = some (.link target))
      (unfollowed : followLast = false) :
      Resolves tree followLast links place [piece] (place ++ [piece])
  | follow {links : Nat} {place result : Place} {piece : Bytes} {rest : List Bytes}
      {target : LocalPath} (inside : tree.isDirectoryAt place = true) (ordinary : IsOrdinary piece)
      (stands : tree.entryAt? (place ++ [piece]) = some (.link target))
      (followed : rest ≠ [] ∨ followLast = true)
      (later : Resolves tree followLast links (if target.isAbsolute then [] else place)
        (target.rawPieces ++ rest) result) :
      Resolves tree followLast (links + 1) place (piece :: rest) result

variable {tree : FileTree} {followLast : Bool} {links : Nat} {place result : Place}
  {pieces : List Bytes} {path : LocalPath}

theorem resolves_of_resolveFrom
    (resolved : tree.resolveFrom followLast links place pieces = .ok result) :
    Resolves tree followLast links place pieces result := by
  fun_induction resolveFrom tree followLast links place pieces with
  | case1 =>
      cases resolved
      exact .done _ _
  | case2 => cases resolved
  | case3 links place piece rest inside here induction_hypothesis =>
      exact .stay (by simpa using inside) (by simpa using here) (induction_hypothesis resolved)
  | case4 links place rest inside _ induction_hypothesis =>
      exact .up (by simpa using inside) (induction_hypothesis resolved)
  | case5 => cases resolved
  | case6 => cases resolved
  | case7 links place piece rest inside proper notUp short target stands last =>
      cases resolved
      have ordinary : IsOrdinary piece := by simp_all [IsOrdinary]
      rcases Bool.and_eq_true_iff.mp last with ⟨isLast, unfollowed⟩
      rw [of_decide_eq_true isLast]
      exact .keep (by simpa using inside) ordinary stands (by simpa using unfollowed)
  | case8 => cases resolved
  | case9 place piece rest inside proper notUp short target stands last links
      induction_hypothesis =>
      have ordinary : IsOrdinary piece := by simp_all [IsOrdinary]
      refine .follow (by simpa using inside) ordinary stands ?_ (induction_hypothesis resolved)
      by_cases more : rest = []
      · exact Or.inr (by simpa [more] using last)
      · exact Or.inl more
  | case10 links place piece rest inside proper notUp short entry notLink stands
      induction_hypothesis =>
      have ordinary : IsOrdinary piece := by simp_all [IsOrdinary]
      exact .enter (by simpa using inside) ordinary stands notLink (induction_hypothesis resolved)

theorem resolveFrom_of_resolves (resolves : Resolves tree followLast links place pieces result) :
    tree.resolveFrom followLast links place pieces = .ok result := by
  induction resolves with
  | done links place => rw [resolveFrom]
  | stay inside here later induction_hypothesis =>
      rw [resolveFrom, if_neg (by simp [inside]), if_pos (by simpa using here),
        induction_hypothesis]
  | up inside later induction_hypothesis =>
      rw [resolveFrom, if_neg (by simp [inside]), if_neg (by decide), if_pos rfl,
        induction_hypothesis]
  | enter inside ordinary stands solid later induction_hypothesis =>
      rw [resolveFrom, if_neg (by simp [inside]), if_neg (by simp [ordinary.1, ordinary.2.1]),
        if_neg ordinary.2.2.1, if_neg (Nat.not_lt.mpr ordinary.2.2.2), stands]
      split
      · rename_i never
        cases never
      · rename_i target same
        exact absurd (Option.some.inj same) (solid target)
      · exact induction_hypothesis
  | keep inside ordinary stands unfollowed =>
      rw [resolveFrom, if_neg (by simp [inside]), if_neg (by simp [ordinary.1, ordinary.2.1]),
        if_neg ordinary.2.2.1, if_neg (Nat.not_lt.mpr ordinary.2.2.2), stands]
      simp [unfollowed]
  | follow inside ordinary stands followed later induction_hypothesis =>
      rw [resolveFrom, if_neg (by simp [inside]), if_neg (by simp [ordinary.1, ordinary.2.1]),
        if_neg ordinary.2.2.1, if_neg (Nat.not_lt.mpr ordinary.2.2.2), stands]
      simp only [Bool.and_eq_true, decide_eq_true_eq, Bool.not_eq_true']
      rw [if_neg ?_, induction_hypothesis]
      rintro ⟨last, unfollowed⟩
      rcases followed with more | followed
      · exact more last
      · rw [followed] at unfollowed
        cases unfollowed

theorem resolveFrom_eq_ok_iff :
    tree.resolveFrom followLast links place pieces = .ok result ↔
      Resolves tree followLast links place pieces result :=
  ⟨resolves_of_resolveFrom, resolveFrom_of_resolves⟩

/-- Where a path starts. -/
def startOf (tree : FileTree) (path : LocalPath) : Place :=
  if path.isAbsolute then [] else tree.workingDirectory

/-- A path that the system accepts at all. -/
def IsAcceptable (path : LocalPath) : Prop :=
  (0 : UInt8) ∉ path.bytes ∧ path.bytes ≠ [] ∧ path.bytes.length ≤ maxPathLength

theorem resolve_eq_ok_iff :
    tree.resolve followLast path = .ok place ↔
      IsAcceptable path ∧
        Resolves tree followLast maxLinks (tree.startOf path) path.rawPieces place := by
  rw [← resolveFrom_eq_ok_iff]
  unfold resolve IsAcceptable
  by_cases hasNul : (0 : UInt8) ∈ path.bytes
  · simp [hasNul]
  · by_cases none : path.bytes = []
    · simp [none]
    · by_cases tooLong : maxPathLength < path.bytes.length
      · simp [hasNul, none, tooLong, Nat.not_le.mpr tooLong]
      · rw [if_neg hasNul, if_neg none, if_neg tooLong]
        exact (and_iff_right ⟨hasNul, none, Nat.not_lt.mp tooLong⟩).symm

end CdnPublish.FileTree
