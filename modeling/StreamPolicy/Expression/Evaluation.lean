import StreamPolicy.Expression.Basic
import StreamPolicy.Expression.Parser

/-!
# Evaluating expressions

A tree is evaluated in a `Context`, which gives fields their values. When an expression matches,
`Expression.apply` makes its assignments, which record captures, and static fields that bear the
name of a target read those first.
-/

namespace StreamPolicy

/-- Where fields get their values. A field without a value does not exist. -/
structure Resolver where
  static : String → Option String
  dynamic : Scope → String → Option String

/-- The values that assignments have recorded. -/
abbrev Captures := Target → Option String

namespace Captures

def empty : Captures := fun _ => none

def record (cs : Captures) (target : Target) (value : String) : Captures :=
  fun t => if t = target then some value else cs t

/-- The recorded values in the order of targets. -/
def toList (cs : Captures) : List (Target × String) :=
  Target.all.filterMap fun t => (cs t).map (t, ·)

end Captures

/-- What an expression is evaluated in. -/
structure Context where
  resolver : Resolver
  captures : Captures := Captures.empty

namespace Context

/-- The value of a field, if it exists. Captures go before what `resolver` says. -/
def resolve (ctx : Context) : Field → Option String
  | .static name => (Target.ofName? name).bind ctx.captures <|> ctx.resolver.static name
  | .dynamic scope key => ctx.resolver.dynamic scope key

def valueOf (ctx : Context) : Source → Option String
  | .field f => ctx.resolve f
  | .literal s => some s

/-- Makes the assignment `a`. A source without a value changes nothing. -/
def assign (ctx : Context) (a : Assignment) : Context :=
  match ctx.valueOf a.value with
  | some v => { ctx with captures := ctx.captures.record a.target v }
  | none => ctx

end Context

/-! ## Trees -/

def Condition.holds (c : Condition) (ctx : Context) : Bool :=
  c.op.test (ctx.resolve c.field) c.value != c.negated

namespace Node

/-- Whether a tree matches. A group without children matches, whatever its connective. -/
def evaluate (ctx : Context) : Node → Bool
  | .leaf c => c.holds ctx
  | .group .and negated children => allOf ctx children != negated
  | .group .or negated children => (children.isEmpty || anyOf ctx children) != negated
where
  allOf (ctx : Context) : List Node → Bool
    | [] => true
    | n :: ns => n.evaluate ctx && allOf ctx ns
  anyOf (ctx : Context) : List Node → Bool
    | [] => false
    | n :: ns => n.evaluate ctx || anyOf ctx ns

end Node

/-- The most levels of a tree that can be evaluated: each of the `Parser.maxDepth` levels of
parentheses may open an OR with an AND in it, as may the whole, and a leaf is one level. -/
def maxTreeDepth : Nat := 2 * Parser.maxDepth + 3

inductive EvalError
  | tooDeep (limit : Nat)
  deriving DecidableEq, Repr

def EvalError.message : EvalError → String
  | .tooDeep limit => s!"condition tree deeper than {limit} levels"

namespace Node

/-- Whether a tree matches, as long as no node that has to be looked at is deeper than `levels`. AND
stops at the first child that fails, OR at the first one that matches. -/
def evaluateWithin (ctx : Context) : Nat → Node → Except EvalError Bool
  | 0, _ => .error (.tooDeep maxTreeDepth)
  | _ + 1, .leaf c => .ok (c.holds ctx)
  | levels + 1, .group .and negated children =>
    (children.allM (evaluateWithin ctx levels)).map (· != negated)
  | levels + 1, .group .or negated children =>
    if children.isEmpty then .ok (true != negated)
    else (children.anyM (evaluateWithin ctx levels)).map (· != negated)

end Node

/-! ## Expressions -/

namespace Expression

/-- Whether the tree matches; an absent tree does. -/
def evaluate (e : Expression) (ctx : Context) : Bool := (e.root.map (Node.evaluate ctx)).getD true

/-- Whether the tree matches, unless it is deeper than `maxTreeDepth`. -/
def evaluateBounded (e : Expression) (ctx : Context) : Except EvalError Bool :=
  match e.root with
  | none => .ok true
  | some root => root.evaluateWithin ctx maxTreeDepth

/-- Evaluates the tree and, when it matches, makes the assignments in order. -/
def apply (e : Expression) (ctx : Context) : Except EvalError Bool × Captures :=
  match e.evaluateBounded ctx with
  | .ok true => (.ok true, (e.actions.foldl Context.assign ctx).captures)
  | outcome => (outcome, ctx.captures)

end Expression

/-- Why a text cannot be tried on a request. -/
inductive TestError
  | parse (error : ParseError)
  | eval (error : EvalError)
  deriving DecidableEq, Repr

/-- Parses `text` and applies it where nothing has been captured. -/
def Expression.test (text : String) (resolver : Resolver) : Except TestError (Bool × Captures) :=
  match Expression.parse text with
  | .error e => .error (.parse e)
  | .ok e =>
    match e.apply { resolver } with
    | (.error err, _) => .error (.eval err)
    | (.ok matched, captures) => .ok (matched, captures)

end StreamPolicy
