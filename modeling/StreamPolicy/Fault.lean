/-!
# Faults of services

A `Fault` is the class of a failure that a service reports to its callers, and `message` is its
wording.
-/

namespace StreamPolicy

inductive Fault
  | notFound (entity id : String)
  | validation (text : String)
  | forbidden (text : String)
  | conflict (text : String)
  | config (text : String)
  | io (text : String)
  | internal (text : String)
  deriving DecidableEq, Repr

namespace Fault

def message : Fault → String
  | .notFound entity id => s!"{entity} not found: {id}"
  | .validation text => s!"Validation error: {text}"
  | .forbidden text => s!"Forbidden: {text}"
  | .conflict text => s!"Conflict: {text}"
  | .config text => s!"Config error: {text}"
  | .io text => s!"IO error: {text}"
  | .internal text => s!"Internal error: {text}"

/-- Whether the caller is to blame. -/
def isClientError : Fault → Bool
  | .notFound .. | .validation _ | .forbidden _ | .conflict _ => true
  | .config _ | .io _ | .internal _ => false

end Fault

end StreamPolicy
