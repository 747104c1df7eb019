import StreamPolicy.Proofs.Expression.Parsing
import StreamPolicy.Proofs.Expression.Written

/-!
# Writing and parsing

What `Expression.text` writes for a well-formed expression parses to the expression itself, if it
parses at all: the written form has parentheses of its own (`parens`), and these may nest too deep.
Every expression that was parsed is well-formed.
-/

namespace StreamPolicy

open StreamPolicy.Parser Grammar Lexeme

/-! ## What is parsed is well-formed -/

namespace Grammar

theorem wellFormed_field {t : Token} {f : Field} (ht : t.Lexical) (h : IsField t f) :
    f.WellFormed := by
  cases h with
  | static h =>
    refine .static ?_ ?_
    · rwa [String.toList_ofList]
    · rwa [String.toList_ofList]
  | dynamic _ =>
    refine .dynamic ?_ ?_
    · rw [String.toList_ofList]
      exact ht.1
    · rw [String.toList_ofList]
      exact ht.2

theorem wellFormed_comparison {ts : List Token} {c : Condition} (hts : ∀ t ∈ ts, t.Lexical)
    (h : Comparison ts c) : c.WellFormed := by
  obtain ⟨hf, -, -, hp⟩ := h
  exact ⟨wellFormed_field (hts _ List.mem_cons_self) hf, fun h => hp (Operator.takesPattern_iff.1 h)⟩

theorem wellFormed_flips {n m : Node} (hf : Flips n m) (h : n.WellFormed) : m.WellFormed := by
  cases hf with
  | leaf =>
    cases h with
    | leaf h => exact .leaf ⟨h.field, h.pattern⟩
  | group =>
    cases h with
    | group hlen h => exact .group hlen h

theorem wellFormed_grouped {op : Connective} {k : Keyword} {item : List Token → Node → Prop}
    (hi : ∀ ts n, (∀ t ∈ ts, t.Lexical) → item ts n → n.WellFormed) {ts : List Token} {n : Node}
    (hts : ∀ t ∈ ts, t.Lexical) (h : Grouped op k item ts n) : n.WellFormed := by
  cases h with
  | one h => exact hi _ _ hts h
  | many h => exact .group (by simp) (h.forall hi hts)

theorem wellFormed_negated {inner : List Token → Node → Prop}
    (hi : ∀ ts n, (∀ t ∈ ts, t.Lexical) → inner ts n → n.WellFormed) {ts : List Token} {n : Node}
    (hts : ∀ t ∈ ts, t.Lexical) (h : Negated (Atom inner) ts n) : n.WellFormed := by
  induction h with
  | atom h =>
    cases h with
    | comparison h => exact .leaf (wellFormed_comparison hts h)
    | parens h =>
      have hinside := (List.forall_mem_append.1 (List.forall_mem_cons.1 hts).2).1
      exact hi _ _ hinside h
  | not _ _ hf ih => exact wellFormed_flips hf (ih (List.forall_mem_cons.1 hts).2)

theorem wellFormed_disjunction {inner : List Token → Node → Prop}
    (hi : ∀ ts n, (∀ t ∈ ts, t.Lexical) → inner ts n → n.WellFormed) {ts : List Token} {n : Node}
    (hts : ∀ t ∈ ts, t.Lexical) (h : Disjunction inner ts n) : n.WellFormed :=
  wellFormed_grouped (fun _ _ => wellFormed_grouped fun _ _ => wellFormed_negated hi) hts h

theorem wellFormed_tree {m : Nat} {ts : List Token} {n : Node} (hts : ∀ t ∈ ts, t.Lexical)
    (h : Tree m ts n) : n.WellFormed := by
  induction m generalizing ts n with
  | zero => exact wellFormed_disjunction (fun _ _ _ h => h.elim) hts h
  | succ m ih => exact wellFormed_disjunction (fun _ _ => ih) hts h

theorem wellFormed_assigns {ts : List Token} {a : Assignment} (hts : ∀ t ∈ ts, t.Lexical)
    (h : Assigns ts a) : a.value.WellFormed := by
  obtain ⟨-, hv⟩ := h
  cases hv with
  | literal _ => exact .literal _
  | field hf => exact .field (wellFormed_field (hts _ (by simp)) hf)

theorem wellFormed_denotes {m : Nat} {ts : List Token} {e : Expression}
    (hts : ∀ t ∈ ts, t.Lexical) (h : Denotes m ts e) : e.WellFormed := by
  obtain @⟨ts, us, root, as, ht, hu⟩ := h
  obtain ⟨hts, hus⟩ := List.forall_mem_append.1 hts
  constructor
  · rintro n ⟨⟩
    cases ht with
    | present h => exact wellFormed_tree hts h
  · rintro as ⟨⟩
    cases hu with
    | present h =>
      obtain ⟨-, h⟩ := h
      have hall := h.forall (P := fun a => a.value.WellFormed) (fun _ _ => wellFormed_assigns)
        (List.forall_mem_cons.1 hus).2
      exact ⟨h.ne_nil, hall⟩

end Grammar

namespace Expression

theorem wellFormed_of_parse {text : String} {e : Expression} (h : parse text = .ok e) :
    e.WellFormed := by
  obtain ⟨ls, hlex, hden⟩ := parse_eq_ok_iff.1 h
  refine wellFormed_denotes (fun t ht => ?_) hden
  obtain ⟨l, hl, rfl⟩ := List.mem_map.1 ht
  exact lexFrom_lexical hlex l hl

/-! ## What is written is parsed -/

/-- The written form of a well-formed expression is that of no other, and it parses as long as its
`parens` do not nest too deep. -/
theorem WellFormed.parse_text {e : Expression} (h : e.WellFormed) :
    (∃ ls, lex e.text = .ok ls ∧ nesting (tokens ls) = e.parens) ∧
      ∀ e', parse e.text = .ok e' ↔ e' = e ∧ e.parens ≤ maxDepth := by
  obtain ⟨m, ts, hlexes, hden, hnesting⟩ := h.lexes
  obtain ⟨ls, hlex, rfl⟩ := hlexes 0
  refine ⟨⟨ls, hlex, hnesting⟩, fun e' => ?_⟩
  rw [parse_eq_ok_iff]
  constructor
  · rintro ⟨ls', hlex', hden'⟩
    have heq : lex e.text = .ok ls := hlex
    rw [hlex'] at heq
    cases heq
    refine ⟨denotes_unique hden' hden, ?_⟩
    rw [← hnesting]
    exact (denotes_iff.1 hden').2
  · rintro ⟨rfl, hle⟩
    refine ⟨ls, hlex, denotes_iff.2 ⟨⟨m, hden⟩, ?_⟩⟩
    rwa [hnesting]

theorem WellFormed.parse_text_of_le {e : Expression} (h : e.WellFormed) (hle : e.parens ≤ maxDepth) :
    parse e.text = .ok e :=
  (h.parse_text.2 e).2 ⟨rfl, hle⟩

/-! ## Ladders

Every level of parentheses that is read can take two to write: one for a conjunction in a
disjunction, and one for a disjunction in a conjunction.
-/

/-- The condition that all rungs are. -/
def rung : Condition := { field := .static "a", op := .equals, value := "b" }

/-- A text in which `item` is the last operand of AND behind the last OR. -/
def beside (item : String) : String :=
  rung.text ++ s!" {Connective.or.name} " ++ (rung.text ++ s!" {Connective.and.name} " ++ item)

/-- A text in which parentheses nest a number of levels. -/
def ladder : Nat → String
  | 0 => beside rung.text
  | n + 1 => beside s!"({ladder n})"

def besideNode (item : Node) : Node :=
  .group .or false [.leaf rung, .group .and false [.leaf rung, item]]

def ladderNode : Nat → Node
  | 0 => besideNode (.leaf rung)
  | n + 1 => besideNode (ladderNode n)

theorem wellFormed_rung : rung.WellFormed :=
  ⟨.static (by decide) (isPlain_iff.2 (by decide)), nofun⟩

theorem leads_beside {inner : List Token → Node → Prop} {item : String} {ts : List Token} {n : Node}
    (hlead : Leads item.toList ts) (hn : Negated (Atom inner) ts n) :
    ∃ us, Leads (beside item).toList us ∧ Disjunction inner us (besideNode n) := by
  obtain ⟨cs, hrung, hc, -⟩ := wellFormed_rung.leads inner
  have hand : Grouped .and .and (Negated (Atom inner)) _ (.group .and false [.leaf rung, n]) :=
    .many (.more hc Connective.and.isKeyword_name (.one hn))
  have hor : Disjunction inner _ (besideNode n) :=
    .many (.more (.one hc) Connective.or.isKeyword_name (.one hand))
  exact ⟨_, leads_joined .or hrung (leads_joined .and hrung hlead), hor⟩

theorem leads_ladder (n : Nat) : ∃ ts, Leads (ladder n).toList ts ∧ Tree n ts (ladderNode n) := by
  induction n with
  | zero =>
    obtain ⟨ts, hlead, hitem, -⟩ := wellFormed_rung.leads fun _ _ => False
    exact leads_beside hlead hitem
  | succ n ih =>
    obtain ⟨ts, hlead, htree⟩ := ih
    exact leads_beside (leads_parens hlead) (.atom (.parens htree))

theorem parse_ladder {n : Nat} (h : n ≤ maxDepth) :
    parse (ladder n) = .ok { root := some (ladderNode n) } := by
  obtain ⟨ts, hlead, htree⟩ := leads_ladder n
  obtain ⟨ls, hlex, hts⟩ := hlead [] [] lexes_nil 0
  rw [List.append_nil] at hlex hts
  refine parse_eq_ok_iff.2 ⟨ls, hlex, ?_⟩
  rw [hts, ← List.append_nil ts]
  exact .mk (.present (htree.mono h)) .absent

theorem depth_ladderNode (n : Nat) : (ladderNode n).depth = 2 * n + 3 := by
  induction n with
  | zero => rfl
  | succ n ih =>
    simp only [ladderNode, besideNode, Node.depth, Node.depth.depths, ih]
    omega

theorem parens_ladderNode (n : Nat) : (ladderNode n).parens = 2 * n + 1 := by
  have hdepth := depth_ladderNode n
  cases n with
  | zero => rfl
  | succ n =>
    simp only [ladderNode, besideNode, Node.depth] at hdepth
    simp only [ladderNode, besideNode, Node.parens]
    omega

/-! ## The round trip -/

/-- An expression, however it was built, is what its written form parses to if and only if it is
well-formed and the parentheses of the written form nest no deeper than `maxDepth`. -/
theorem parse_text_iff {e : Expression} :
    parse e.text = .ok e ↔
      e.WellFormed ∧ ∀ ls, lex e.text = .ok ls → nesting (tokens ls) ≤ maxDepth := by
  constructor
  · intro h
    have hwell := wellFormed_of_parse h
    obtain ⟨⟨ls, hlex, hnesting⟩, hparse⟩ := hwell.parse_text
    refine ⟨hwell, fun ls' hlex' => ?_⟩
    rw [hlex] at hlex'
    cases hlex'
    rw [hnesting]
    exact ((hparse e).1 h).2
  · rintro ⟨hwell, hle⟩
    obtain ⟨⟨ls, hlex, hnesting⟩, hparse⟩ := hwell.parse_text
    refine (hparse e).2 ⟨rfl, ?_⟩
    rw [← hnesting]
    exact hle ls hlex

/-- What was parsed is written so that it parses again, and to itself, unless the parentheses that
are written nest too deep. -/
theorem parse_text_of_parse {text : String} {e : Expression} (h : parse text = .ok e) :
    (∃ ls, lex e.text = .ok ls ∧ nesting (tokens ls) = e.parens) ∧
      ∀ e', parse e.text = .ok e' ↔ e' = e ∧ e.parens ≤ maxDepth :=
  (wellFormed_of_parse h).parse_text

theorem parse_text_of_parse_ladder :
    parse (ladder 1) = .ok { root := some (ladderNode 1) } ∧
      parse (Expression.text { root := some (ladderNode 1) }) =
        .ok { root := some (ladderNode 1) } := by
  have hparse := parse_ladder (n := 1) (by decide)
  exact ⟨hparse, ((parse_text_of_parse hparse).2 _).2 ⟨rfl, by decide⟩⟩

/-- A ladder of 32 levels parses, but what is written for it does not. -/
theorem not_parse_text_ladder :
    ∃ e, parse (ladder 32) = .ok e ∧ ¬∃ e', parse e.text = .ok e' := by
  have hparse := parse_ladder (n := 32) (by decide)
  refine ⟨_, hparse, ?_⟩
  rintro ⟨e', he'⟩
  have hle : (ladderNode 32).parens ≤ maxDepth :=
    (((wellFormed_of_parse hparse).parse_text.2 e').1 he').2
  rw [parens_ladderNode] at hle
  exact absurd hle (by decide)

end Expression

end StreamPolicy
