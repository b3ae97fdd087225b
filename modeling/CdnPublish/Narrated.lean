import CdnPublish.Log

/-!
# Narrated computations

A pure computation that may fail and that tells an observer what it does. The entries told before
a failure are kept, so a log shows how far a failed computation came.
-/

namespace CdnPublish

/-- What was told, in order, and how the computation ended. -/
structure Narrated (Fault : Type) (Result : Type) where
  log : List Log.Entry
  result : Except Fault Result

namespace Narrated

variable {Fault Result Other : Type}

instance : Monad (Narrated Fault) where
  pure value := ⟨[], .ok value⟩
  bind first next :=
    match first.result with
    | .error fault => ⟨first.log, .error fault⟩
    | .ok value => ⟨first.log ++ (next value).log, (next value).result⟩

/-- Tells one entry. -/
def tell (entry : Log.Entry) : Narrated Fault Unit :=
  ⟨[entry], .ok ()⟩

/-- A computation that tells nothing. -/
def silent (result : Except Fault Result) : Narrated Fault Result :=
  ⟨[], result⟩

/-- The same computation with its fault seen as another kind of fault. -/
def mapFault {Wider : Type} (widen : Fault → Wider) (computation : Narrated Fault Result) :
    Narrated Wider Result :=
  ⟨computation.log, computation.result.mapError widen⟩

/-- How a sequence ends does not depend on what is told. -/
@[simp] theorem result_bind (first : Narrated Fault Result) (next : Result → Narrated Fault Other) :
    (first >>= next).result = first.result >>= fun value => (next value).result := by
  rcases first with ⟨log, _ | value⟩ <;> rfl

@[simp] theorem result_tell (entry : Log.Entry) :
    (tell entry : Narrated Fault Unit).result = .ok () := rfl

@[simp] theorem result_silent (result : Except Fault Result) :
    (silent result).result = result := rfl

end Narrated

end CdnPublish
