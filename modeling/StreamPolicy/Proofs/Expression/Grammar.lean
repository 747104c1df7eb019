import StreamPolicy.Expression.Parser

/-!
# The grammar of expressions

`Denotes n ts e`: the tokens `ts`, whose parentheses nest at most `n` deep, make up the expression
`e`. Its parts:

* an expression is a `Tree`, which may be left out, and a `Clause`, which may be left out;
* a `Tree` is conjunctions joined by OR, each of which is conditions joined by AND;
* a condition is an `Atom` after any number of NOT (`Negated`), and an `Atom` is a `Comparison` or a
  `Tree` in parentheses;
* a `Comparison` is a field, an operator and a value;
* a `Clause` is SET and assignments joined by commas, each a target, an equals sign and a source.

The relations say nothing about reading from left to right, and what they derive is built from the
constructors of `Node` alone: `Flips` is what one NOT does, `Grouped` what a connective does and
`Resolves` what escapes stand for.
-/

namespace StreamPolicy.Grammar

/-! ## Words -/

/-- The characters of `word` spell `name` in some letter case. -/
def Spells (word : List Char) (name : String) : Prop := word.map Char.toLower = name.toList

instance (word : List Char) (name : String) : Decidable (Spells word name) :=
  inferInstanceAs (Decidable (_ = _))

def spelling : Parser.Keyword → String
  | .and => "and"
  | .or => "or"
  | .not => "not"
  | .set => "set"

/-- A keyword is a word in any letter case, and all but SET have a sign, too. -/
inductive IsKeyword : Parser.Keyword → Token → Prop
  | and : IsKeyword .and .and
  | or : IsKeyword .or .or
  | not : IsKeyword .not .not
  | word {k : Parser.Keyword} {w : List Char} (h : Spells w (spelling k)) : IsKeyword k (.word w)

/-- The word `w` is free to be a name or a value. -/
def IsPlain (w : List Char) : Prop := ∀ k, ¬IsKeyword k (.word w)

/-- The text `cs` is `name` with blanks, or none, on both sides. -/
def Padded (name cs : List Char) : Prop :=
  ∃ before after, cs = before ++ name ++ after ∧ ∀ c ∈ before ++ after, Text.isBlank c = true

inductive IsField : Token → Field → Prop
  | static {w : List Char} (h : IsPlain w) : IsField (.word w) (.static (String.ofList w))
  | dynamic {scope key : List Char} {s : Scope} (h : Padded s.name.toList scope) :
    IsField (.dynamic scope key) (.dynamic s (String.ofList key))

inductive IsOperator : Token → Operator → Prop
  | equal : IsOperator .equal .equals
  | notEqual : IsOperator .notEqual .notEquals
  | like : IsOperator .like .matchesPattern
  | notLike : IsOperator .notLike .notMatchesPattern
  | word {w : List Char} {op : Operator} (h : Spells w op.name) : IsOperator (.word w) op

/-- In `Resolves inside text`, what is `inside` of quotes stands for `text`. A backslash stands for
itself only where nothing follows it. -/
inductive Resolves : List Char → List Char → Prop
  | nil : Resolves [] []
  | plain {c : Char} {cs ds : List Char} (hc : c ≠ '\\') (h : Resolves cs ds) :
    Resolves (c :: cs) (c :: ds)
  | lineFeed {cs ds : List Char} (h : Resolves cs ds) : Resolves ('\\' :: 'n' :: cs) ('\n' :: ds)
  | tab {cs ds : List Char} (h : Resolves cs ds) : Resolves ('\\' :: 't' :: cs) ('\t' :: ds)
  | escaped {c : Char} {cs ds : List Char} (hn : c ≠ 'n') (ht : c ≠ 't') (h : Resolves cs ds) :
    Resolves ('\\' :: c :: cs) (c :: ds)
  | last : Resolves ['\\'] ['\\']

/-- A literal stands for its text with escapes resolved. -/
inductive IsLiteral : Token → String → Prop
  | quoted (q : Char) {inside text : List Char} (h : Resolves inside text) :
    IsLiteral (.quoted q inside) (String.ofList text)

/-- A value is a literal or a plain word. -/
inductive IsValue : Token → String → Prop
  | literal {t : Token} {s : String} (h : IsLiteral t s) : IsValue t s
  | word {w : List Char} (h : IsPlain w) : IsValue (.word w) (String.ofList w)

inductive IsTarget : Token → Target → Prop
  | word {w : List Char} {t : Target} (h : Spells w t.name) : IsTarget (.word w) t

inductive IsSource : Token → Source → Prop
  | literal {t : Token} {s : String} (h : IsLiteral t s) : IsSource t (.literal s)
  | field {t : Token} {f : Field} (h : IsField t f) : IsSource t (.field f)

/-! ## Trees -/

/-- The value of a pattern operator has to be a pattern. -/
inductive Comparison : List Token → Condition → Prop
  | mk {f o v : Token} {field : Field} {op : Operator} {value : String}
    (hf : IsField f field) (ho : IsOperator o op) (hv : IsValue v value)
    (hp : op = .matchesPattern ∨ op = .notMatchesPattern →
      (Pattern.compile? value).isSome = true) :
    Comparison [f, o, v] { field, op, value, negated := false }

/-- Items with a separator between each two, of which `sep` holds. -/
inductive Joined {α : Type} (sep : Token → Prop) (item : List Token → α → Prop) :
    List Token → List α → Prop
  | one {ts : List Token} {x : α} (h : item ts x) : Joined sep item ts [x]
  | more {ts us : List Token} {s : Token} {x : α} {xs : List α} (h : item ts x) (hs : sep s)
    (hus : Joined sep item us xs) : Joined sep item (ts ++ s :: us) (x :: xs)

theorem Joined.ne_nil {α : Type} {sep : Token → Prop} {item : List Token → α → Prop}
    {ts : List Token} {xs : List α} (h : Joined sep item ts xs) : xs ≠ [] := by
  cases h <;> exact List.cons_ne_nil _ _

/-- What holds of whatever `item` derives from tokens that satisfy `Q` holds of all the items. -/
theorem Joined.forall {α : Type} {sep Q : Token → Prop} {item : List Token → α → Prop}
    {P : α → Prop} (hi : ∀ ts x, (∀ t ∈ ts, Q t) → item ts x → P x) {ts : List Token}
    {xs : List α} (h : Joined sep item ts xs) (hQ : ∀ t ∈ ts, Q t) : ∀ x ∈ xs, P x := by
  induction h with
  | one h => exact List.forall_mem_singleton.2 (hi _ _ hQ h)
  | more h _ _ ih =>
    obtain ⟨ht, hs⟩ := List.forall_mem_append.1 hQ
    obtain ⟨-, hu⟩ := List.forall_mem_cons.1 hs
    exact List.forall_mem_cons.2 ⟨hi _ _ ht h, ih hu⟩

/-- A comparison, or in parentheses what `inner` derives. -/
inductive Atom (inner : List Token → Node → Prop) : List Token → Node → Prop
  | comparison {ts : List Token} {c : Condition} (h : Comparison ts c) : Atom inner ts (.leaf c)
  | parens {ts : List Token} {n : Node} (h : inner ts n) :
    Atom inner (.leftParen :: ts ++ [.rightParen]) n

/-- The node `m` is `n` with its mark of negation turned over (`Flips n m`), leaf or group. -/
inductive Flips : Node → Node → Prop
  | leaf (field : Field) (op : Operator) (value : String) (negated : Bool) :
    Flips (.leaf ⟨field, op, value, negated⟩) (.leaf ⟨field, op, value, !negated⟩)
  | group (op : Connective) (negated : Bool) (children : List Node) :
    Flips (.group op negated children) (.group op (!negated) children)

/-- Each NOT turns over the mark of what follows it (`Flips`), so an odd number of them does. -/
inductive Negated (atom : List Token → Node → Prop) : List Token → Node → Prop
  | atom {ts : List Token} {n : Node} (h : atom ts n) : Negated atom ts n
  | not {ts : List Token} {t : Token} {n m : Node} (ht : IsKeyword .not t) (h : Negated atom ts n)
    (hf : Flips n m) : Negated atom (t :: ts) m

/-- Several items make a group, whose children they are in their order. One alone makes none. -/
inductive Grouped (op : Connective) (k : Parser.Keyword) (item : List Token → Node → Prop) :
    List Token → Node → Prop
  | one {ts : List Token} {n : Node} (h : item ts n) : Grouped op k item ts n
  | many {ts : List Token} {n n' : Node} {ns : List Node}
    (h : Joined (IsKeyword k) item ts (n :: n' :: ns)) :
    Grouped op k item ts (.group op false (n :: n' :: ns))

/-- AND binds tighter than OR. -/
def Disjunction (inner : List Token → Node → Prop) : List Token → Node → Prop :=
  Grouped .or .or (Grouped .and .and (Negated (Atom inner)))

/-- Trees whose parentheses nest at most so many levels. -/
def Tree : Nat → List Token → Node → Prop
  | 0 => Disjunction fun _ _ => False
  | n + 1 => Disjunction (Tree n)

/-! ## Expressions -/

inductive Assigns : List Token → Assignment → Prop
  | mk {t v : Token} {target : Target} {value : Source} (ht : IsTarget t target)
    (hv : IsSource v value) : Assigns [t, .assign, v] ⟨target, value⟩

/-- A part that may be left out. -/
inductive Optional {α : Type} (part : List Token → α → Prop) : List Token → Option α → Prop
  | absent : Optional part [] none
  | present {ts : List Token} {x : α} (h : part ts x) : Optional part ts (some x)

/-- Assignments stand in the order in which they are made. -/
inductive Clause : List Token → List Assignment → Prop
  | mk {t : Token} {ts : List Token} {as : List Assignment} (ht : IsKeyword .set t)
    (h : Joined (· = .comma) Assigns ts as) : Clause (t :: ts) as

/-- What tokens stand for when parentheses nest at most `n` levels. -/
inductive Denotes (n : Nat) : List Token → Expression → Prop
  | mk {ts us : List Token} {root : Option Node} {assignments : Option (List Assignment)}
    (ht : Optional (Tree n) ts root) (hu : Optional Clause us assignments) :
    Denotes n (ts ++ us) { root, assignments }

/-! ## Derived nodes as functions of their parts -/

theorem flips_iff {n m : Node} : Flips n m ↔ n.negate = m := by
  constructor
  · rintro (_ | _) <;> rfl
  · rintro rfl
    cases n with
    | leaf c => exact .leaf c.field c.op c.value c.negated
    | group op negated children => exact .group op negated children

/-- One item or several are joined by `Node.join`. -/
theorem grouped_iff {op : Connective} {k : Parser.Keyword} {item : List Token → Node → Prop}
    {ts : List Token} {n : Node} :
    Grouped op k item ts n ↔ ∃ ns, Joined (IsKeyword k) item ts ns ∧ n = .join op ns := by
  constructor
  · rintro (h | h)
    · exact ⟨_, .one h, rfl⟩
    · exact ⟨_, h, rfl⟩
  · rintro ⟨ns, h, rfl⟩
    cases h with
    | one h => exact .one h
    | more h hs hus =>
      cases hus with
      | one hu => exact .many (.more h hs (.one hu))
      | more hu hs' hvs => exact .many (.more h hs (.more hu hs' hvs))

end StreamPolicy.Grammar
