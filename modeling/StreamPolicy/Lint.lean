import StreamPolicy.Expression.AlwaysTrue
import StreamPolicy.Expression.Parser
import StreamPolicy.Rule.Basic
import StreamPolicy.Rule.Builtin

/-!
# Findings in lists of rules

`Lint.analyze` finds rules whose condition does not parse, rules that match every request though
they are not the last resort, and rules that an earlier one probably keeps from being reached.
-/

namespace StreamPolicy

inductive IssueKind
  | invalidExpression
  | alwaysTrue
  | possiblyShadowed
  deriving DecidableEq, Repr

instance : Named IssueKind where
  all := [.invalidExpression, .alwaysTrue, .possiblyShadowed]
  name
    | .invalidExpression => "invalid_expression"
    | .alwaysTrue => "always_true"
    | .possiblyShadowed => "possibly_shadowed"

structure Issue where
  ruleId : Uuid
  ruleName : String
  priority : Int32
  kind : IssueKind
  message : String
  shadowedBy : Option RuleRef := none
  deriving DecidableEq, Repr

instance : Coded Issue where
  encode i := .record ([("rule_id", encode i.ruleId), ("rule_name", encode i.ruleName),
    ("priority", encode i.priority), ("kind", encode i.kind), ("message", encode i.message)] ++
    Data.optionalField "shadowed_by" i.shadowedBy)
  decode? d := do
    let get ← d.fields? ["rule_id", "rule_name", "priority", "kind", "message", "shadowed_by"]
    return { ruleId := ← Data.required (get "rule_id")
             ruleName := ← Data.required (get "rule_name")
             priority := ← Data.required (get "priority")
             kind := ← Data.required (get "kind")
             message := ← Data.required (get "message")
             shadowedBy := ← Data.orDefault none (get "shadowed_by") }

namespace Lint

/-! ## Single findings -/

def issue (r : Rule α) (kind : IssueKind) (message : String)
    (shadowedBy : Option RuleRef := none) : Issue :=
  { ruleId := r.id, ruleName := r.name, priority := r.priority, kind, message, shadowedBy }

def invalid (r : Rule α) (e : ParseError) : Issue :=
  issue r .invalidExpression s!"expression does not parse: {e.message}"

/-- The rule `r` comes behind `earlier`, which matches every request. -/
def unreachable (r : Rule α) (earlier : RuleRef) : Issue :=
  issue r .possiblyShadowed
    s!"unreachable: '{earlier.name}' (priority {earlier.priority.toInt}) matches every request"
    (some earlier)

/-- The rule `r` comes behind `earlier`, which tests some of the same `fields`. -/
def overlapped (r : Rule α) (earlier : RuleRef) (fields : List String) : Issue :=
  let list := ", ".intercalate fields
  issue r .possiblyShadowed
    (s!"'{earlier.name}' (priority {earlier.priority.toInt}) already tests {list} " ++
      "with contains and may match first")
    (some earlier)

/-- The rule `r` matches every request but its priority is not yet that of the last resort. -/
def matchesAll (r : Rule α) (catchAll : Int32) : Issue :=
  issue r .alwaysTrue
    (s!"condition matches every request but priority {r.priority.toInt} is not the catch-all " ++
      s!"priority {catchAll.toInt}")

/-! ## Fields -/

/-- Texts in order, each once. -/
def sortedSet (names : List String) : List String :=
  (names.mergeSort fun a b => a ≤ b).eraseDups

/-- The fields that a condition tests with `contains`. -/
def containsFields (e : Expression) : List String :=
  sortedSet ((e.conditions.filter fun c => c.op == .contains && !c.negated).map (·.field.text))

/-- The fields of `containsFields`, for a condition that is a conjunction. -/
def conjunctionFields? (e : Expression) : Option (List String) :=
  match e.root with
  | some (.group .and false _) => some (sortedSet (e.conditions.map (·.field.text)))
  | _ => none

/-! ## Lists of rules -/

/-- What is known of the rules that have been passed: the first that matches every request, and the
fields that each tests with `contains`. -/
structure Passed where
  always : Option RuleRef := none
  tested : List (RuleRef × List String) := []

/-- Findings about what shadows `r`, whose condition is `e`. -/
def shadows (passed : Passed) (r : Rule α) (e : Expression) : List Issue :=
  match passed.always with
  | some earlier => [unreachable r earlier]
  | none =>
    match conjunctionFields? e with
    | none => []
    | some fields =>
      match passed.tested.find? fun t => t.2.all fields.contains with
      | some (earlier, shared) => [overlapped r earlier shared]
      | none => []

/-- Findings about a rule on its own. -/
def alwaysTrue (catchAll : Int32) (r : Rule α) (e : Expression) : List Issue :=
  if e.isAlwaysTrue && r.priority != catchAll then [matchesAll r catchAll] else []

def Passed.add (passed : Passed) (r : Rule α) (e : Expression) : Passed where
  always := passed.always <|> if e.isAlwaysTrue then some r.ref else none
  tested :=
    let fields := containsFields e
    if fields.isEmpty then passed.tested else passed.tested ++ [(r.ref, fields)]

/-- Findings about rules in order, behind those that have been `passed`. -/
def run (catchAll : Int32) (passed : Passed) : List (Rule α) → List Issue
  | [] => []
  | r :: rest =>
    match Expression.parse r.expression with
    | .error e => invalid r e :: run catchAll passed rest
    | .ok e => shadows passed r e ++ alwaysTrue catchAll r e ++ run catchAll (passed.add r e) rest

/-- Findings about the enabled rules among `rules`, by priority. -/
def analyze (catchAll : Int32) (rules : List (Rule α)) : List Issue :=
  run catchAll {} (Rule.sortByPriority (rules.filter (·.enabled)))

end Lint

end StreamPolicy
