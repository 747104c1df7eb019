import StreamPolicy.Data.Uuid
import StreamPolicy.Time.Basic

/-!
# Fresh identifiers

An `Issuer` knows the time and hands out identifiers in increasing order.
-/

namespace StreamPolicy

structure Issuer where
  nextId : Uuid
  now : Time
  deriving DecidableEq, Repr

/-- A new identifier, and the issuer of the ones after it. -/
def Issuer.fresh (i : Issuer) : Uuid × Issuer := (i.nextId, { i with nextId := i.nextId.succ })

end StreamPolicy
