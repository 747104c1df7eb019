import StreamPolicy.Expression.Printer

/-!
# Trees that always match

`Node.isAlwaysTrue` is a classification by form: what it finds is taken to match every request, and
not every tree that matches every request is found.
-/

namespace StreamPolicy

/-- A test with `contains` for the empty text, or with `equals` for the field's own name. -/
def Condition.isAlwaysTrue (c : Condition) : Bool :=
  !c.negated && match c.op with
    | .contains => c.value.isEmpty
    | .equals => c.field.text == c.value
    | _ => false

/-- Whether the tree is classified. Nothing that is negated is. -/
def Node.isAlwaysTrue : Node → Bool
  | .leaf c => c.isAlwaysTrue
  | .group .and negated children => !negated && allAre children
  | .group .or negated children => !negated && (children.isEmpty || anyIs children)
where
  allAre : List Node → Bool
    | [] => true
    | n :: ns => n.isAlwaysTrue && allAre ns
  anyIs : List Node → Bool
    | [] => false
    | n :: ns => n.isAlwaysTrue || anyIs ns

/-- An absent tree always matches. -/
def Expression.isAlwaysTrue (e : Expression) : Bool := (e.root.map Node.isAlwaysTrue).getD true

end StreamPolicy
