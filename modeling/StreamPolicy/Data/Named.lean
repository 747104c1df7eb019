/-!
# Values with names

A type is `Named` if it has finitely many values, each of which has a name that is written in its
place.
-/

namespace StreamPolicy

class Named (α : Type) where
  all : List α
  name : α → String

/-- The value whose `name` is `s`, letter case included. -/
def Named.ofName? [Named α] (s : String) : Option α := (all (α := α)).find? fun a => name a == s

end StreamPolicy
