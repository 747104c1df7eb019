import StreamPolicy.Expression.Basic
import StreamPolicy.Expression.Quoted
import StreamPolicy.Text.Basic

/-!
# Writing expressions

`Expression.text` writes in one way: word operators, double quotes, and parentheses around every
group inside another one and every negated group.
-/

namespace StreamPolicy

def quotedText (s : String) : String := String.ofList (Quoted.encode s.toList)

def Field.text : Field → String
  | .static name => name
  | .dynamic scope key => s!"@dynamic({scope.name}):{key}"

def Condition.text (c : Condition) : String :=
  let comparison := s!"{c.field.text} {c.op.name} {quotedText c.value}"
  if c.negated then "NOT " ++ comparison else comparison

namespace Node

def text : Node → String
  | .leaf c => c.text
  | .group op negated children =>
    let inside := s!" {op.name} ".intercalate (texts children)
    if negated then s!"NOT ({inside})" else inside
where
  /-- The children of a group as they are written in it. -/
  texts : List Node → List String
    | [] => []
    | .group op false children :: rest => s!"({text (.group op false children)})" :: texts rest
    | n :: rest => n.text :: texts rest

end Node

def Source.text : Source → String
  | .field f => f.text
  | .literal s => quotedText s

def Assignment.text (a : Assignment) : String := s!"{a.target.name} = {a.value.text}"

/-- The expression as it is written. A clause without assignments leaves no trace. -/
def Expression.text (e : Expression) : String :=
  let tree := (e.root.map Node.text).getD ""
  match e.actions with
  | [] => tree
  | actions =>
    let gap := if e.root.isSome then " " else ""
    let list := Text.joinWith ", " (actions.map Assignment.text)
    s!"{tree}{gap}SET {list}"

end StreamPolicy
