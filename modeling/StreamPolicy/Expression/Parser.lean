import StreamPolicy.Expression.Basic
import StreamPolicy.Expression.Lexer

/-!
# From tokens to expressions

An expression is alternatives of conjunctions of conditions (`disjunction`, `conjunction`, `unary`),
each of which may be negated or be an expression in parentheses, and may end in assignments
(`clause`). AND binds tighter than OR. Parentheses nest to `maxDepth`, so `tree` is defined level by
level: each level is told how to read what stands in its parentheses.
-/

namespace StreamPolicy

namespace Parser

def maxDepth : Nat := 64

/-- The words that are no names. -/
inductive Keyword
  | and
  | or
  | not
  | set
  deriving DecidableEq, Repr

def Keyword.ofWord? : String → Option Keyword :=
  byName [.and, .or, .not, .set] fun
    | .and => "and"
    | .or => "or"
    | .not => "not"
    | .set => "set"

/-- The keyword that a token stands for, as a word or as a sign. -/
def keyword? : Token → Option Keyword
  | .and => some .and
  | .or => some .or
  | .not => some .not
  | .word w => Keyword.ofWord? (String.ofList w)
  | _ => none

/-- What was read off the front of `ts`, and the fewer tokens that follow. -/
structure Step (α : Type) (ts : List Lexeme) where
  value : α
  rest : List Lexeme
  shorter : rest.length < ts.length

abbrev Reader (α : Type) := (ts : List Lexeme) → Except ParseError (Step α ts)

/-- The error of a token that cannot stand where it does. -/
def unexpected (l : Lexeme) : ParseError :=
  ⟨if l.token = .rightParen then .unbalancedParenthesis else .unexpectedToken l.token.string,
    l.start⟩

/-- One `item` or several with `sep` between each two. A `sep` at the very end lacks its second
operand. -/
def chain (sep : Keyword) (item : Reader α) (ts : List Lexeme) :
    Except ParseError (Step (List α) ts) :=
  match item ts with
  | .error e => .error e
  | .ok ⟨first, rest, hrest⟩ =>
    match rest with
    | [] => .ok ⟨[first], [], hrest⟩
    | l :: rest' =>
      if keyword? l.token = some sep then
        if rest'.isEmpty then .error ⟨.missingOperand l.token.string, l.start⟩
        else
          have : rest'.length < ts.length := Nat.lt_of_succ_lt hrest
          match chain sep item rest' with
          | .error e => .error e
          | .ok ⟨more, rest'', h⟩ => .ok ⟨first :: more, rest'', Nat.lt_trans h this⟩
      else .ok ⟨[first], l :: rest', hrest⟩
  termination_by ts.length

/-- An atom after any number of negations. -/
def unary (atom : Reader Node) : Reader Node
  | [] => atom []
  | l :: rest =>
    if keyword? l.token = some .not then
      match unary atom rest with
      | .error e => .error e
      | .ok ⟨n, rest', h⟩ => .ok ⟨n.negate, rest', Nat.lt_succ_of_lt h⟩
    else atom (l :: rest)

/-- The field that a word or a dynamic field token names. -/
def field (l : Lexeme) : Except ParseError Field :=
  match l.token with
  | .word w => .ok (.static (String.ofList w))
  | .dynamic scope key =>
    match Scope.ofName? (String.ofList (Text.trim scope)) with
    | some s => .ok (.dynamic s (String.ofList key))
    | none => .error ⟨.unknownScope (String.ofList scope), l.start⟩
  | _ => .error (unexpected l)

def operator (l : Lexeme) : Except ParseError Operator :=
  match l.token with
  | .equal => .ok .equals
  | .notEqual => .ok .notEquals
  | .like => .ok .matchesPattern
  | .notLike => .ok .notMatchesPattern
  | .word w =>
    match Operator.ofName? (String.ofList w) with
    | some op => .ok op
    | none => .error ⟨.unknownOperator (String.ofList w), l.start⟩
  | .assign => .error ⟨.unknownOperator "=", l.start⟩
  | _ => .error (unexpected l)

/-- The text that a literal or a plain word stands for. -/
def literal? : Token → Option String
  | .quoted _ inside => some (String.ofList (Quoted.resolve inside))
  | .word w => if (keyword? (.word w)).isNone then some (String.ofList w) else none
  | _ => none

/-- A condition whose field token `f` has been passed. The `size` of the text says where it ends. -/
def condition (size : Nat) (f : Lexeme) : Reader Condition
  | [] =>
    match field f with
    | .error e => .error e
    | .ok _ => .error ⟨.unexpectedEnd "an operator", size⟩
  | o :: ts =>
    match field f, operator o with
    | .error e, _ => .error e
    | _, .error e => .error e
    | .ok fld, .ok op =>
      match ts with
      | [] => .error ⟨.missingOperand o.token.string, o.start⟩
      | v :: rest =>
        match literal? v.token with
        | none => .error ⟨.missingOperand o.token.string, o.start⟩
        | some value =>
          match Condition.make? fld op value with
          | none => .error ⟨.invalidPattern value, v.start⟩
          | some c => .ok ⟨c, rest, by simp only [List.length_cons]; omega⟩

def beginsCondition (t : Token) : Bool :=
  match t with
  | .word _ => (keyword? t).isNone
  | .dynamic .. => true
  | _ => false

/-- A condition, or what `inner` reads in parentheses. -/
def atom (size : Nat) (inner : Lexeme → Reader Node) : Reader Node
  | [] => .error ⟨.unexpectedEnd "a condition", size⟩
  | l :: ts =>
    if l.token = .leftParen then
      match inner l ts with
      | .error e => .error e
      | .ok ⟨_, [], _⟩ => .error ⟨.unbalancedParenthesis, l.start⟩
      | .ok ⟨n, r :: rest, h⟩ =>
        if r.token = .rightParen then
          .ok ⟨n, rest, by simp only [List.length_cons] at h ⊢; omega⟩
        else .error (unexpected r)
    else if beginsCondition l.token then
      match condition size l ts with
      | .error e => .error e
      | .ok ⟨c, rest, h⟩ => .ok ⟨.leaf c, rest, Nat.lt_succ_of_lt h⟩
    else .error (unexpected l)

/-- Conditions joined by AND. -/
def conjunction (size : Nat) (inner : Lexeme → Reader Node) : Reader Node := fun ts =>
  match chain .and (unary (atom size inner)) ts with
  | .error e => .error e
  | .ok ⟨ns, rest, h⟩ => .ok ⟨.join .and ns, rest, h⟩

/-- Conjunctions joined by OR. -/
def disjunction (size : Nat) (inner : Lexeme → Reader Node) : Reader Node := fun ts =>
  match chain .or (conjunction size inner) ts with
  | .error e => .error e
  | .ok ⟨ns, rest, h⟩ => .ok ⟨.join .or ns, rest, h⟩

/-- A tree of conditions in which parentheses may nest `levels` further. -/
def tree (size : Nat) : Nat → Reader Node
  | 0 => disjunction size fun paren _ => .error ⟨.tooDeep maxDepth, paren.start⟩
  | levels + 1 => disjunction size fun _ => tree size levels

def target (l : Lexeme) : Except ParseError Target :=
  match l.token with
  | .word w =>
    match Target.ofName? (String.ofList w) with
    | some t => .ok t
    | none => .error ⟨.unknownTarget (String.ofList w), l.start⟩
  | _ => .error (unexpected l)

/-- The source of an assignment: a literal or a field. -/
def source (l : Lexeme) : Except ParseError Source :=
  match l.token with
  | .quoted _ inside => .ok (.literal (String.ofList (Quoted.resolve inside)))
  | t => if beginsCondition t then (field l).map .field else .error (unexpected l)

/-- Assignments set apart by commas, to the end of the tokens. -/
def assignments (size : Nat) : List Lexeme → Except ParseError (List Assignment)
  | [] => .error ⟨.unexpectedEnd "a SET target", size⟩
  | t :: ts =>
    match target t with
    | .error e => .error e
    | .ok name =>
      match ts with
      | [] => .error ⟨.unexpectedEnd "'='", size⟩
      | a :: ts =>
        if a.token = .assign then
          match ts with
          | [] => .error ⟨.missingOperand "=", size⟩
          | v :: ts =>
            match source v with
            | .error e => .error e
            | .ok value =>
              match ts with
              | [] => .ok [⟨name, value⟩]
              | c :: ts =>
                if c.token = .comma then
                  match assignments size ts with
                  | .error e => .error e
                  | .ok more => .ok (⟨name, value⟩ :: more)
                else .error (unexpected c)
        else .error (unexpected a)

/-- What may follow the tree `root`: nothing, or the assignments. -/
def clause (size : Nat) (root : Option Node) : List Lexeme → Except ParseError Expression
  | [] => .ok { root }
  | l :: ts =>
    if keyword? l.token = some .set then
      match assignments size ts with
      | .error e => .error e
      | .ok actions => .ok { root, assignments := some actions }
    else .error (unexpected l)

/-- The expression that all tokens `ts` of a text of `size` bytes make up. -/
def expression (size : Nat) (ts : List Lexeme) : Except ParseError Expression :=
  if (ts.head?.map fun l => keyword? l.token == some .set).getD true then clause size none ts
  else
    match tree size maxDepth ts with
    | .error e => .error e
    | .ok ⟨n, rest, _⟩ => clause size (some n) rest

end Parser

def Expression.parse (text : String) : Except ParseError Expression :=
  match Lexeme.lex text with
  | .error e => .error e
  | .ok ts => Parser.expression text.utf8ByteSize ts

end StreamPolicy
