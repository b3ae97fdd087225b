import CdnPublish.Proofs.Http.Acceptance
import CdnPublish.Proofs.Sync.Ending

/-!
# The task that the last reply brings

The gateway is asked by POSTs and GETs, and tasks come in the replies to them. A sync that has
published, a flush and a watch all end with such a reply, and the task in it is the one that they
report.
-/

namespace CdnPublish.Http

open Program

/-- The gateway is asked, and not told what to store. -/
def isAsked (turn : WebTurn) : Bool :=
  method? turn = some .post || method? turn = some .get

/-- The last turn asks the gateway, and its reply brings this task. -/
def Delivers (turns : List WebTurn) (task : Task) : Prop :=
  ∃ before last, turns = before ++ [last] ∧ isAsked last = true ∧
    broughtBy? Task.ofTree? last = some task

variable {connection : Connection} {outer : List GatewayTurn} {turns : List WebTurn} {task : Task}

theorem Delivers.unique {other : Task} (delivers : Delivers turns task)
    (delivered : Delivers turns other) : task = other := by
  rcases delivers with ⟨before, last, rfl, -, brought⟩
  rcases delivered with ⟨also, same, split, -, given⟩
  rcases List.append_inj' split rfl with ⟨-, ends⟩
  cases ends
  exact Option.some.inj (brought.symm.trans given)

open CdnPublish.Sync

variable {client : Client}

end CdnPublish.Http
