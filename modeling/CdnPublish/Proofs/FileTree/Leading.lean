import CdnPublish.Proofs.FileTree.WellFormed

/-!
# Where paths lead, however many links they follow

In one path the system follows a limited number of links. Without that limit, pieces still lead to
one place at most, and pieces after pieces lead on from where the first ones lead to. A path with
one more name leads where the name leads from the place of the path.
-/

namespace CdnPublish.FileTree

open LocalPath (IsName slash)

variable {tree : FileTree} {followLast : Bool} {links extra : Nat}
  {place middle result other : Place} {pieces others front back : List Bytes} {path : LocalPath}
  {name : Bytes}

/-- The pieces lead from a place to another one, with every link followed. -/
def Leads (tree : FileTree) (place : Place) (pieces : List Bytes) (result : Place) : Prop :=
  ∃ links, Resolves tree true links place pieces result

/-- The path leads to a place, with every link followed. -/
def PathLeads (tree : FileTree) (path : LocalPath) (place : Place) : Prop :=
  Leads tree (tree.startOf path) path.rawPieces place

theorem Resolves.more (resolves : Resolves tree followLast links place pieces result)
    (extra : Nat) : Resolves tree followLast (links + extra) place pieces result := by
  induction resolves with
  | done links place => exact .done _ _
  | stay inside here later induction_hypothesis => exact .stay inside here induction_hypothesis
  | up inside later induction_hypothesis => exact .up inside induction_hypothesis
  | enter inside ordinary stands solid later induction_hypothesis =>
      exact .enter inside ordinary stands solid induction_hypothesis
  | keep inside ordinary stands unfollowed => exact .keep inside ordinary stands unfollowed
  | @follow links place result piece rest target inside ordinary stands followed later
      induction_hypothesis =>
      have count : links + 1 + extra = links + extra + 1 := by omega
      rw [count]
      exact .follow inside ordinary stands followed induction_hypothesis

theorem Resolves.append (first : Resolves tree true links place pieces middle)
    (second : Resolves tree true extra middle others result) :
    Resolves tree true (links + extra) place (pieces ++ others) result := by
  induction first with
  | done links place =>
      have count : links + extra = extra + links := by omega
      rw [count]
      exact second.more links
  | stay inside here later induction_hypothesis =>
      exact .stay inside here (induction_hypothesis second)
  | up inside later induction_hypothesis => exact .up inside (induction_hypothesis second)
  | enter inside ordinary stands solid later induction_hypothesis =>
      exact .enter inside ordinary stands solid (induction_hypothesis second)
  | keep inside ordinary stands unfollowed => cases unfollowed
  | @follow links place result piece rest target inside ordinary stands followed later
      induction_hypothesis =>
      have count : links + 1 + extra = links + extra + 1 := by omega
      have further := induction_hypothesis second
      rw [List.append_assoc] at further
      rw [count]
      exact .follow inside ordinary stands (Or.inr rfl) further

/-- A resolution leads through a place between any two parts of its pieces. The pieces of a link
come before what is left, so the cut moves behind them. -/
theorem Resolves.split (resolves : Resolves tree true links place pieces result)
    (parts : pieces = front ++ back) :
    ∃ middle, Leads tree place front middle ∧ Leads tree middle back result := by
  induction resolves generalizing front with
  | done links place =>
      rcases List.append_eq_nil_iff.mp parts.symm with ⟨rfl, rfl⟩
      exact ⟨place, ⟨0, .done 0 place⟩, 0, .done 0 place⟩
  | stay inside here later induction_hypothesis =>
      cases front with
      | nil =>
          subst parts
          exact ⟨_, ⟨0, .done 0 _⟩, _, .stay inside here later⟩
      | cons first front =>
          cases parts
          rcases induction_hypothesis rfl with ⟨middle, ⟨count, before⟩, after⟩
          exact ⟨middle, ⟨count, .stay inside here before⟩, after⟩
  | up inside later induction_hypothesis =>
      cases front with
      | nil =>
          subst parts
          exact ⟨_, ⟨0, .done 0 _⟩, _, .up inside later⟩
      | cons first front =>
          cases parts
          rcases induction_hypothesis rfl with ⟨middle, ⟨count, before⟩, after⟩
          exact ⟨middle, ⟨count, .up inside before⟩, after⟩
  | enter inside ordinary stands solid later induction_hypothesis =>
      cases front with
      | nil =>
          subst parts
          exact ⟨_, ⟨0, .done 0 _⟩, _, .enter inside ordinary stands solid later⟩
      | cons first front =>
          cases parts
          rcases induction_hypothesis rfl with ⟨middle, ⟨count, before⟩, after⟩
          exact ⟨middle, ⟨count, .enter inside ordinary stands solid before⟩, after⟩
  | keep inside ordinary stands unfollowed => cases unfollowed
  | follow inside ordinary stands followed later induction_hypothesis =>
      cases front with
      | nil =>
          subst parts
          exact ⟨_, ⟨0, .done 0 _⟩, _, .follow inside ordinary stands followed later⟩
      | cons first front =>
          cases parts
          rcases induction_hypothesis (List.append_assoc _ _ _).symm with
            ⟨middle, ⟨count, before⟩, after⟩
          exact ⟨middle, ⟨count + 1, .follow inside ordinary stands (Or.inr rfl) before⟩, after⟩

theorem leads_append_iff :
    Leads tree place (front ++ back) result ↔
      ∃ middle, Leads tree place front middle ∧ Leads tree middle back result := by
  constructor
  · rintro ⟨links, resolves⟩
    exact resolves.split rfl
  · rintro ⟨middle, ⟨links, first⟩, extra, second⟩
    exact ⟨links + extra, first.append second⟩

theorem Leads.unique (leads : Leads tree place pieces result)
    (alsoLeads : Leads tree place pieces other) : result = other := by
  rcases leads with ⟨links, resolves⟩
  rcases alsoLeads with ⟨extra, alsoResolves⟩
  have first := resolveFrom_of_resolves (resolves.more extra)
  have second := resolveFrom_of_resolves (alsoResolves.more links)
  rw [Nat.add_comm] at second
  exact Except.ok.inj (first.symm.trans second)

/-- What follows pieces leads on from where they lead to. -/
theorem Leads.append_iff (leads : Leads tree place front middle) :
    Leads tree place (front ++ back) result ↔ Leads tree middle back result := by
  rw [leads_append_iff]
  constructor
  · rintro ⟨other, before, after⟩
    exact before.unique leads ▸ after
  · intro after
    exact ⟨middle, leads, after⟩

theorem Leads.of_empty (leads : Leads tree place [[]] result) : result = place := by
  rcases leads with ⟨links, resolves⟩
  generalize pieces : [[]] = list at resolves
  cases resolves with
  | done => cases pieces
  | stay inside here later =>
      cases pieces
      cases later
      rfl
  | up inside later => cases pieces
  | enter inside ordinary stands solid later =>
      cases pieces
      exact absurd rfl ordinary.1
  | keep inside ordinary stands unfollowed => cases unfollowed
  | follow inside ordinary stands followed later =>
      cases pieces
      exact absurd rfl ordinary.1

/-- A name leads only to what is there, and to another place only through a link. -/
theorem Leads.of_name (isName : IsName name) (leads : Leads tree place [name] result) :
    tree.isDirectoryAt place = true ∧ ∃ entry, tree.entryAt? (place ++ [name]) = some entry ∧
      ((∀ target, entry ≠ .link target) → result = place ++ [name]) := by
  rcases leads with ⟨links, resolves⟩
  cases resolves with
  | stay inside here later =>
      rcases here with rfl | rfl
      · exact absurd rfl isName.ne_nil
      · exact absurd rfl isName.ne_dot
  | up inside later => exact absurd rfl isName.2.1
  | enter inside ordinary stands solid later =>
      cases later
      exact ⟨inside, _, stands, fun _ => rfl⟩
  | keep inside ordinary stands unfollowed => cases unfollowed
  | follow inside ordinary stands followed later =>
      exact ⟨inside, _, stands, fun solid => absurd rfl (solid _)⟩

theorem leads_name_of_solid {entry : FileEntry} (isName : IsName name)
    (short : name.length ≤ maxNameLength) (inside : tree.isDirectoryAt place = true)
    (stands : tree.entryAt? (place ++ [name]) = some entry)
    (solid : ∀ target, entry ≠ .link target) : Leads tree place [name] (place ++ [name]) := by
  have ordinary : IsOrdinary name := ⟨isName.ne_nil, isName.ne_dot, isName.2.1, short⟩
  exact ⟨0, .enter inside ordinary stands solid (.done 0 _)⟩

theorem pathLeads_of_resolve (resolved : tree.resolve true path = .ok place) :
    PathLeads tree path place :=
  ⟨maxLinks, (resolve_eq_ok_iff.mp resolved).2⟩

/-- Names put below a path lead on from where the path leads to. -/
theorem PathLeads.joinAll_iff {names : List Bytes} (leads : PathLeads tree path place)
    (areNames : ∀ name ∈ names, IsName name) (proper : names ≠ []) :
    PathLeads tree (path.joinAll names) result ↔ Leads tree place names result := by
  have start : tree.startOf (path.joinAll names) = tree.startOf path := by
    unfold startOf
    rw [LocalPath.isAbsolute_joinAll areNames proper]
  have parts : Text.pieces slash (Text.glue slash names) = names :=
    Text.pieces_glue proper fun name mem => (areNames name mem).2.2
  have drop : ∀ {front : List Bytes}, Leads tree (tree.startOf path) (front ++ [[]]) place →
      Leads tree (tree.startOf path) front place := by
    intro front whole
    rcases leads_append_iff.mp whole with ⟨middle, before, after⟩
    exact after.of_empty ▸ before
  unfold PathLeads LocalPath.rawPieces at *
  rw [start, LocalPath.joinAll_eq areNames proper]
  rcases path.stem_cases with ⟨none, same⟩ | ⟨front, ends, same⟩ | ⟨-, same⟩
  · rw [none] at leads
    rw [same, List.nil_append, parts]
    exact (drop leads : Leads tree _ [] place).append_iff
  · rw [ends, Text.pieces_append] at leads
    rw [same, List.append_assoc, List.singleton_append, Text.pieces_append, parts]
    exact (drop leads).append_iff
  · rw [same, List.append_assoc, List.singleton_append, Text.pieces_append, parts]
    exact leads.append_iff

theorem PathLeads.join_iff (leads : PathLeads tree path place) (isName : IsName name) :
    PathLeads tree (path.join ⟨name⟩) result ↔ Leads tree place [name] result :=
  leads.joinAll_iff (List.forall_mem_singleton.mpr isName) (List.cons_ne_nil name [])

end CdnPublish.FileTree
