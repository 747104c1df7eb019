import StreamPolicy.Data.Basic
import StreamPolicy.Rule.Issuer
import StreamPolicy.Time.Text

/-!
# Rules

A `Rule α` says for which requests it holds, by its `expression`, and what follows then, by
`attributes` of type `α` that depend on what the rule is for. Rules are tried in the order of
`sortByPriority`. Rules come from records (`read?`) and are written as records (`toData`).
-/

namespace StreamPolicy

/-- A purpose `α` of rules: what messages call such a rule, and how its attributes are written as
fields of a record. -/
class RuleKind (α : Type) where
  kind : String
  fieldNames : List String
  encodeFields : α → List (String × Data)
  decodeFields? : (String → Option Data) → Option α

structure Rule (α : Type) where
  id : Uuid
  name : String
  description : String := ""
  expression : String := ""
  priority : Int32 := 100
  enabled : Bool := true
  /-- Whether the rule is shipped with the program. -/
  isSystem : Bool := false
  attributes : α
  createdAt : Time
  updatedAt : Time
  deriving DecidableEq, Repr

/-- What identifies a rule in a decision. -/
structure RuleRef where
  id : Uuid
  name : String
  priority : Int32
  deriving DecidableEq, Repr

namespace RuleRef

instance : Coded RuleRef where
  encode r := .record [("id", encode r.id), ("name", encode r.name),
    ("priority", encode r.priority)]
  decode? d := do
    let get ← d.fields? ["id", "name", "priority"]
    return { id := ← Data.required (get "id"), name := ← Data.required (get "name"),
             priority := ← Data.required (get "priority") }

end RuleRef

namespace Rule

def ref (r : Rule α) : RuleRef := ⟨r.id, r.name, r.priority⟩

/-- Whether `r` and `s` differ at most in what a rule of the system lets one change, and in the time
stamps, which the store takes care of. -/
def sameDefinition [DecidableEq α] (r s : Rule α) : Bool :=
  r.name == s.name && r.description == s.description && r.expression == s.expression &&
    r.attributes == s.attributes

/-- Sorts by priority; rules of one priority keep their order. -/
def sortByPriority (rs : List (Rule α)) : List (Rule α) :=
  rs.mergeSort fun r s => r.priority ≤ s.priority

/-! ## Records -/

/-- The fields of the record of a rule, in the order in which they are written. -/
def fieldNames (α : Type) [RuleKind α] : List String :=
  ["id", "name", "description", "expression", "priority", "enabled", "is_system"] ++
    RuleKind.fieldNames α ++ ["created_at", "updated_at"]

/-- The record of `r`. An empty description is left out. -/
def toData [RuleKind α] (r : Rule α) : Data :=
  .record ([("id", encode r.id), ("name", encode r.name)] ++
    (if r.description == "" then [] else [("description", encode r.description)]) ++
    [("expression", encode r.expression), ("priority", encode r.priority),
      ("enabled", encode r.enabled), ("is_system", encode r.isSystem)] ++
    RuleKind.encodeFields r.attributes ++
    [("created_at", encode r.createdAt), ("updated_at", encode r.updatedAt)])

/-- Reads the identifier of a rule, a fresh one of `issuer` where the record has none. -/
def readId (issuer : Issuer) : Option Data → Option (Uuid × Issuer)
  | none => some issuer.fresh
  | some d => (decode? d).map (·, issuer)

/-- Reads a rule. Only `name` has to be there. -/
def read? [RuleKind α] (issuer : Issuer) (d : Data) : Option (Rule α × Issuer) := do
  let get ← d.fields? (fieldNames α)
  let (id, issuer') ← readId issuer (get "id")
  let name ← Data.required (get "name")
  let description ← Data.orDefault "" (get "description")
  let expression ← Data.orDefault "" (get "expression")
  let priority ← Data.orDefault 100 (get "priority")
  let enabled ← Data.orDefault true (get "enabled")
  let isSystem ← Data.orDefault false (get "is_system")
  let attributes ← RuleKind.decodeFields? get
  let createdAt ← Data.orDefault issuer.now (get "created_at")
  let updatedAt ← Data.orDefault issuer.now (get "updated_at")
  return ({ id, name, description, expression, priority, enabled, isSystem, attributes, createdAt,
            updatedAt }, issuer')

def readAll? [RuleKind α] (issuer : Issuer) : List Data → Option (List (Rule α) × Issuer)
  | [] => some ([], issuer)
  | d :: ds =>
    match read? issuer d with
    | none => none
    | some (r, issuer) => (readAll? issuer ds).map fun rest => (r :: rest.1, rest.2)

end Rule

/-! ## New rules -/

/-- A rule that has not been given an identifier. -/
structure Blueprint (α : Type) where
  name : String
  description : String := ""
  expression : String := ""
  priority : Int32 := 100
  enabled : Bool := true
  isSystem : Bool := false
  attributes : α
  deriving DecidableEq, Repr

namespace Blueprint

def issue (issuer : Issuer) (b : Blueprint α) : Rule α × Issuer :=
  let (id, issuer') := issuer.fresh
  ({ id, name := b.name, description := b.description, expression := b.expression,
     priority := b.priority, enabled := b.enabled, isSystem := b.isSystem,
     attributes := b.attributes, createdAt := issuer.now, updatedAt := issuer.now }, issuer')

def issueAll (issuer : Issuer) : List (Blueprint α) → List (Rule α) × Issuer
  | [] => ([], issuer)
  | b :: bs =>
    let (r, issuer) := b.issue issuer
    let (rs, issuer) := issueAll issuer bs
    (r :: rs, issuer)

end Blueprint

end StreamPolicy
