import StreamPolicy.Expression.Field

/-!
# Expressions

An `Expression` is a tree of conditions and, optionally, assignments that are made when the tree
matches. The leaves of a `Node` compare one field with a literal, groups join their children by a
connective, and both can be negated.
-/

namespace StreamPolicy

/-- A comparison of a field with a literal. -/
structure Condition where
  field : Field
  op : Operator
  value : String
  negated : Bool := false
  deriving DecidableEq, Repr

namespace Condition

/-- A condition that is not negated. The `value` of a pattern operator has to be a pattern. -/
def make? (field : Field) (op : Operator) (value : String) : Option Condition :=
  if op.takesPattern && (Pattern.compile? value).isNone then none else some { field, op, value }

def negate (c : Condition) : Condition := { c with negated := !c.negated }

end Condition

inductive Node
  | leaf (condition : Condition)
  | group (op : Connective) (negated : Bool) (children : List Node)
  deriving Repr

namespace Node

mutual

/-- Trees are compared node by node. -/
protected def decEq : (a b : Node) → Decidable (a = b)
  | .leaf c, .leaf d =>
    if h : c = d then isTrue (h ▸ rfl) else isFalse fun e => h (Node.leaf.inj e)
  | .leaf _, .group .. => isFalse nofun
  | .group .., .leaf _ => isFalse nofun
  | .group op n cs, .group op' n' cs' =>
    if h : op = op' ∧ n = n' then
      match Node.decEqs cs cs' with
      | isTrue h' => isTrue (by rw [h.1, h.2, h'])
      | isFalse h' => isFalse fun e => h' (Node.group.inj e).2.2
    else isFalse fun e => h ⟨(Node.group.inj e).1, (Node.group.inj e).2.1⟩

protected def decEqs : (as bs : List Node) → Decidable (as = bs)
  | [], [] => isTrue rfl
  | [], _ :: _ => isFalse nofun
  | _ :: _, [] => isFalse nofun
  | a :: as, b :: bs =>
    match Node.decEq a b, Node.decEqs as bs with
    | isTrue h, isTrue h' => isTrue (by rw [h, h'])
    | isFalse h, _ => isFalse fun e => h (List.cons.inj e).1
    | _, isFalse h => isFalse fun e => h (List.cons.inj e).2

end

instance : DecidableEq Node := Node.decEq

/-- Toggles the negation of the node. -/
def negate : Node → Node
  | .leaf c => .leaf c.negate
  | .group op negated children => .group op (!negated) children

/-- The nodes joined by `op`; one node alone needs no group. -/
def join (op : Connective) : List Node → Node
  | [n] => n
  | ns => .group op false ns

/-- The levels of the tree; a leaf is one level. -/
def depth : Node → Nat
  | .leaf _ => 1
  | .group _ _ children => 1 + depths children
where
  depths : List Node → Nat
    | [] => 0
    | n :: ns => max n.depth (depths ns)

/-- The number of nodes. -/
def size : Node → Nat
  | .leaf _ => 1
  | .group _ _ children => 1 + sizes children
where
  sizes : List Node → Nat
    | [] => 0
    | n :: ns => n.size + sizes ns

@[simp] theorem sizes_append (ms ns : List Node) :
    size.sizes (ms ++ ns) = size.sizes ms + size.sizes ns := by
  induction ms with
  | nil => simp [size.sizes]
  | cons m ms ih => simp [size.sizes, ih]; omega

/-- The leaves of the nodes still to be visited, depth first and from left to right. The children of
a group go before the `rest`. -/
def leavesOf : List Node → List Condition
  | [] => []
  | .leaf c :: rest => c :: leavesOf rest
  | .group _ _ children :: rest => leavesOf (children ++ rest)
  termination_by ns => size.sizes ns
  decreasing_by all_goals (simp [size.sizes, size]; try omega)

end Node

/-- What an assignment takes its value from. -/
inductive Source
  | field (field : Field)
  | literal (text : String)
  deriving DecidableEq, Repr

structure Assignment where
  target : Target
  value : Source
  deriving DecidableEq, Repr

/-- A tree of conditions, which may be absent, and assignments, which may be left out. -/
structure Expression where
  root : Option Node
  assignments : Option (List Assignment) := none
  deriving DecidableEq, Repr

namespace Expression

def actions (e : Expression) : List Assignment := e.assignments.getD []

/-- The levels of the tree of conditions; an absent tree has none. -/
def depth (e : Expression) : Nat := (e.root.map Node.depth).getD 0

/-- The leaf conditions in the order of `Node.leavesOf`. -/
def conditions (e : Expression) : List Condition := Node.leavesOf e.root.toList

end Expression

end StreamPolicy
