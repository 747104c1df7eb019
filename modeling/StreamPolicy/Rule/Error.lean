import StreamPolicy.Data.Uuid
import StreamPolicy.Expression.ParseError
import StreamPolicy.Fault

/-!
# Errors of rule operations

A `RuleError` is why an operation on stored rules is refused. Each error names the `kind` of rule it
is about.
-/

namespace StreamPolicy

inductive RuleError
  | unknownId (kind : String) (id : Uuid)
  | unknownName (kind name : String)
  | idTaken (kind : String) (id : Uuid)
  | nameTaken (kind name : String)
  | blankName (kind : String)
  | invalidRule (kind name : String) (error : ParseError)
  | invalidExpression (error : ParseError)
  /-- The definition of a rule of the system would change. -/
  | fixedDefinition (kind name : String)
  /-- A rule of the system would be deleted. -/
  | undeletable (kind name : String)
  deriving DecidableEq, Repr

namespace RuleError

/-- The fault that an error is reported as. -/
def fault : RuleError → Fault
  | .unknownId kind id => .notFound kind id.text
  | .unknownName kind name => .notFound kind name
  | .idTaken kind id => .conflict s!"{kind} {id.text} already exists"
  | .nameTaken kind name => .conflict s!"a {kind} named '{name}' already exists"
  | .blankName kind => .validation s!"{kind} name must not be empty"
  | .invalidRule kind name e =>
    .validation s!"invalid expression for {kind} '{name}': {e.message}"
  | .invalidExpression e => .validation s!"invalid expression: {e.message}"
  | .fixedDefinition kind name =>
    .forbidden s!"{kind} '{name}' is a system rule; only enabled and priority can change"
  | .undeletable kind name => .forbidden s!"{kind} '{name}' is a system rule and cannot be deleted"

def message (e : RuleError) : String := e.fault.message

end RuleError

end StreamPolicy
