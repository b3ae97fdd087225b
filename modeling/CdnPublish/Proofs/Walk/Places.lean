import CdnPublish.Proofs.Dest.Retraction
import CdnPublish.Proofs.Walk.Findings

/-!
# The places of what a walk finds are canonical

Every destination comes out of a normalization: joining ends with one, and so does following the
target of a link. What a walk finds is therefore published at canonical places, and its links show
canonical places, whatever the tree and the destination look like.
-/

namespace CdnPublish

/-- A destination in canonical form, which normalizing leaves as it is. -/
structure Dest.IsSettled (dest : String) : Prop where
  canonical : Canonical dest.toList
  fixed : normalize dest = .ok dest

namespace Dest

variable {path destination dest : String} {relative : LocalPath}

theorem isSettled_of_normalize (normal : normalize path = .ok dest) : IsSettled dest := by
  have has := hasSegments_of_normalize normal
  exact ⟨⟨_, has⟩, has.normalize_eq⟩

theorem isSettled_of_join (joined : join destination relative = .ok dest) : IsSettled dest := by
  rcases bind_eq_ok_iff.mp joined with ⟨base, -, extended⟩
  cases whole : extendAll base.toList relative.components with
  | none =>
      rw [whole] at extended
      cases extended
  | some text =>
      rw [whole] at extended
      exact isSettled_of_normalize extended

end Dest

namespace Walk

/-- The destination of a finding is settled, and so is what it links to. -/
def Found.IsSettled : Found → Prop
  | .file _ dest => Dest.IsSettled dest
  | .link dest target => Dest.IsSettled dest ∧ Dest.IsSettled target

variable {tree : FileTree} {source target : LocalPath} {destination linkDest dest : String}
  {keepLinks : Bool} {visit : Visit} {given : Found} {found : List Found}

theorem isSettled_of_linkTarget
    (linked : linkTarget source destination linkDest target = .ok dest) : Dest.IsSettled dest := by
  unfold linkTarget at linked
  split at linked
  · split at linked
    · cases linked
    · exact Dest.isSettled_of_join linked
  · dsimp only at linked
    split at linked
    · cases linked
    · exact Dest.isSettled_of_normalize linked

theorem isSettled_of_finding (offered : finding source destination visit = .ok (some given)) :
    given.IsSettled := by
  rcases visit with ⟨path, entry⟩
  cases below : path.relativeTo? source with
  | none =>
      unfold finding at offered
      cases entry <;> simp [below, pure, Except.pure] at offered
  | some relative =>
      cases yields_of_finding below offered with
      | file placed => exact Dest.isSettled_of_join placed
      | link placed short carried =>
          exact ⟨Dest.isSettled_of_join placed, isSettled_of_linkTarget carried⟩

theorem isSettled_of_collects (collects : Collects tree source destination keepLinks found) :
    ∀ entry ∈ found, entry.IsSettled := by
  cases collects with
  | single resolved isFile named placed =>
      intro entry mem
      rw [List.mem_singleton.mp mem]
      exact Dest.isSettled_of_join placed
  | walked resolved notFile walked offered =>
      intro entry mem
      rcases List.mem_filterMap.mp mem with ⟨offer, offerMem, rfl⟩
      rcases exists_mem_of_forall₂ offered offerMem with ⟨visit, -, offers⟩
      exact isSettled_of_finding offers

end Walk

end CdnPublish
