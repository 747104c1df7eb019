import StreamPolicy.Expression.Printer
import StreamPolicy.Proofs.Expression.Lexing
import StreamPolicy.Proofs.Expression.Nesting

/-!
# What is written can be read

An expression is `WellFormed` if its parts can be written at all: names are words, groups have
several children and clauses have assignments. The written form of a well-formed expression has
tokens from which the grammar derives just this expression (`WellFormed.lexes`). How deep the
parentheses of the written form nest is another question, which `parens` answers.
-/

namespace StreamPolicy

open Lexeme Grammar

/-! ## Well-formed expressions -/

/-- A static field is a word that is no keyword, and the key of a dynamic one has characters of
words only. -/
inductive Field.WellFormed : Field → Prop
  | static {name : String} (hw : Token.isWord name.toList = true) (h : IsPlain name.toList) :
    WellFormed (.static name)
  | dynamic {scope : Scope} {key : String} (hne : key.toList ≠ [])
    (h : key.toList.all Token.isWordRest = true) : WellFormed (.dynamic scope key)

/-- Every condition that `make?` gives, negated or not, has a pattern where its operator takes one. -/
structure Condition.WellFormed (c : Condition) : Prop where
  field : c.field.WellFormed
  pattern : c.op.takesPattern = true → (Pattern.compile? c.value).isSome = true

inductive Node.WellFormed : Node → Prop
  | leaf {c : Condition} (h : c.WellFormed) : WellFormed (.leaf c)
  | group {op : Connective} {negated : Bool} {children : List Node} (hlen : 2 ≤ children.length)
    (h : ∀ n ∈ children, n.WellFormed) : WellFormed (.group op negated children)

inductive Source.WellFormed : Source → Prop
  | field {f : Field} (h : f.WellFormed) : WellFormed (.field f)
  | literal (s : String) : WellFormed (.literal s)

structure Expression.WellFormed (e : Expression) : Prop where
  root : ∀ n ∈ e.root, n.WellFormed
  assignments : ∀ as ∈ e.assignments, as ≠ [] ∧ ∀ a ∈ as, a.value.WellFormed

/-! ## Written parentheses -/

/-- How deep parentheses nest where the node is written on its own. Only a group that is not negated
goes without any of its own. -/
def Node.parens : Node → Nat
  | .group _ false children => depth.depths children - 1
  | n => n.depth - 1

def Expression.parens (e : Expression) : Nat := (e.root.map Node.parens).getD 0

theorem Node.depth_pos (n : Node) : 0 < n.depth := by
  cases n with
  | leaf _ => exact Nat.one_pos
  | group _ _ children => exact Nat.lt_add_right _ Nat.one_pos

theorem Node.depths_pos {children : List Node} (h : children ≠ []) :
    0 < depth.depths children := by
  cases children with
  | nil => exact absurd rfl h
  | cons n children => exact Nat.lt_of_lt_of_le n.depth_pos (Nat.le_max_left _ _)

/-! ## Single tokens -/

/-- The text `cs` has the tokens `ts` in front of any text. -/
def Leads (cs : List Char) (ts : List Token) : Prop :=
  ∀ rest us, Lexes rest us → Lexes (cs ++ rest) (ts ++ us)

theorem Leads.append {cs ds : List Char} {ts us : List Token} (h : Leads cs ts)
    (h' : Leads ds us) : Leads (cs ++ ds) (ts ++ us) := by
  intro rest vs hr
  rw [List.append_assoc, List.append_assoc]
  exact h _ _ (h' _ _ hr)

/-- A word that is set apart from what follows. -/
theorem leads_word {w : String} (hw : Token.isWord w.toList = true) :
    Leads (w ++ " ").toList [.word w.toList] := by
  intro rest us hr
  rw [String.toList_append, List.append_assoc]
  exact lexes_word hw (Token.stops_cons rfl) (lexes_separator rfl hr)

theorem trim_scope (scope : Scope) : Text.trim scope.name.toList = scope.name.toList := by
  cases scope <;> rfl

/-- The token of a field where it is written. -/
theorem Field.WellFormed.lexes {f : Field} (h : f.WellFormed) :
    ∃ t, IsField t f ∧ ∀ rest us, Token.Stops rest → Lexes rest us →
      Lexes (f.text.toList ++ rest) (t :: us) := by
  cases h with
  | static hw h =>
    refine ⟨_, ?_, fun rest us hs hr => lexes_word hw hs hr⟩
    have := IsField.static h
    rwa [String.ofList_toList] at this
  | @dynamic scope key hne h =>
    have hall : scope.name.toList.all (· != ')') = true := by cases scope <;> rfl
    have hclosing : ∀ c ∈ scope.name.toList, c ≠ ')' := by simpa using hall
    refine ⟨.dynamic scope.name.toList key.toList, ?_, fun rest us hs hr => ?_⟩
    · have hf : IsField (.dynamic _ key.toList) _ := .dynamic (padded_scope.2 (trim_scope scope))
      rwa [String.ofList_toList] at hf
    · have htext : (Field.dynamic scope key).text.toList ++ rest =
          Token.dynamicMark ++ scope.name.toList ++ ')' :: ':' :: key.toList ++ rest := by
        simp only [Field.text, toString, String.toList_append, List.append_assoc]
        rfl
      rw [htext]
      exact lexes_dynamic hclosing hne h hs hr

theorem lexes_operator (op : Operator) {rest : List Char} {us : List Token}
    (hs : Token.Stops rest) (hr : Lexes rest us) :
    Lexes (op.name.toList ++ rest) (.word op.name.toList :: us) :=
  lexes_word (by cases op <;> decide) hs hr

theorem isOperator_name (op : Operator) : IsOperator (.word op.name.toList) op :=
  .word (by cases op <;> decide)

theorem lexes_quotedText (s : String) {rest : List Char} {us : List Token} (hr : Lexes rest us) :
    Lexes ((quotedText s).toList ++ rest) (.quoted '"' (s.toList.flatMap Quoted.escape) :: us) := by
  rw [quotedText, String.toList_ofList]
  exact lexes_quoted s.toList hr

theorem isLiteral_quotedText (s : String) :
    IsLiteral (.quoted '"' (s.toList.flatMap Quoted.escape)) s := by
  have h := IsLiteral.quoted '"' (resolves_iff.2 (Quoted.resolve_escape s.toList))
  rwa [String.ofList_toList] at h

/-! ## Trees -/

/-- The node as it is written in a group. -/
def Node.childText : Node → String
  | .group op false children => s!"({(Node.group op false children).text})"
  | n => n.text

theorem Node.texts_eq (ns : List Node) : Node.text.texts ns = ns.map Node.childText := by
  induction ns with
  | nil => rfl
  | cons n ns ih =>
    rw [List.map_cons, ← ih]
    unfold childText
    split
    · rw [text.texts]
    · rename_i hgroup
      rw [text.texts]
      exact hgroup

/-- NOT in front of what `Leads`. -/
theorem leads_not {s : String} {ts : List Token} {m : Nat} {inner : List Token → Node → Prop}
    {n : Node} (hlead : Leads s.toList ts) (hitem : Negated (Atom inner) ts n)
    (hnests : Nests m ts) :
    ∃ us, Leads ("NOT " ++ s).toList us ∧ Negated (Atom inner) us n.negate ∧ Nests m us := by
  have hnot : IsKeyword .not (.word "NOT".toList) := .word (by decide)
  refine ⟨.word "NOT".toList :: ts, ?_, .not hnot hitem (flips_iff.2 rfl), .cons (nests_keyword hnot) hnests⟩
  rw [String.toList_append]
  exact Leads.append (leads_word (w := "NOT") rfl) hlead

/-- A written condition is that condition, negated if it says so. -/
theorem Condition.WellFormed.leads {c : Condition} (h : c.WellFormed)
    (inner : List Token → Node → Prop) :
    ∃ ts, Leads c.text.toList ts ∧ Negated (Atom inner) ts (.leaf c) ∧ Nests 0 ts := by
  obtain ⟨t, ht, hfield⟩ := h.field.lexes
  have hc : Comparison _ { c with negated := false } :=
    .mk ht (isOperator_name c.op) (.literal (isLiteral_quotedText c.value))
      fun hp => h.pattern (Operator.takesPattern_iff.2 hp)
  have hlead : Leads s!"{c.field.text} {c.op.name} {quotedText c.value}".toList
      [t, .word c.op.name.toList, .quoted '"' (c.value.toList.flatMap Quoted.escape)] := by
    intro rest us hr
    have htext : s!"{c.field.text} {c.op.name} {quotedText c.value}".toList ++ rest =
        c.field.text.toList ++ ' ' :: (c.op.name.toList ++
          ' ' :: ((quotedText c.value).toList ++ rest)) := by simp [toString]
    rw [htext]
    refine hfield _ _ (Token.stops_cons rfl) (lexes_separator rfl ?_)
    exact lexes_operator c.op (Token.stops_cons rfl) (lexes_separator rfl (lexes_quotedText _ hr))
  obtain ⟨field, op, value, negated⟩ := c
  cases negated with
  | false => exact ⟨_, hlead, .atom (.comparison hc), nests_comparison hc⟩
  | true => exact leads_not hlead (.atom (.comparison hc)) (nests_comparison hc)

/-! ### Groups -/

def Connective.keyword : Connective → Parser.Keyword
  | .and => .and
  | .or => .or

theorem Connective.isKeyword_name (op : Connective) :
    IsKeyword op.keyword (.word op.name.toList) := by
  cases op <;> exact .word (by decide)

theorem Connective.leads (op : Connective) :
    Leads s!" {op.name} ".toList [.word op.name.toList] := by
  have hw : Token.isWord op.name.toList = true := by cases op <;> decide
  intro rest us hr
  have htext : s!" {op.name} ".toList ++ rest = ' ' :: ((op.name ++ " ").toList ++ rest) := by
    simp [toString]
  rw [htext]
  exact lexes_separator rfl (leads_word hw rest us hr)

theorem leads_joined (op : Connective) {s t : String} {ts us : List Token}
    (h : Leads s.toList ts) (h' : Leads t.toList us) :
    Leads (s ++ s!" {op.name} " ++ t).toList (ts ++ .word op.name.toList :: us) := by
  have happ : ts ++ .word op.name.toList :: us = ts ++ [.word op.name.toList] ++ us := by simp
  rw [String.toList_append, String.toList_append, happ]
  exact (h.append op.leads).append h'

/-- Parentheses around what `Leads`. -/
theorem leads_parens {s : String} {ts : List Token} (h : Leads s.toList ts) :
    Leads s!"({s})".toList (.leftParen :: ts ++ [.rightParen]) := by
  intro rest us hr
  have htext : s!"({s})".toList ++ rest = '(' :: (s.toList ++ ')' :: rest) := by simp [toString]
  have hts : .leftParen :: ts ++ [.rightParen] ++ us = .leftParen :: (ts ++ .rightParen :: us) := by
    simp
  rw [htext, hts]
  exact lexes_leftParen (h _ _ (lexes_rightParen hr))

/-- The node `n` is read as itself where it is written in a group. -/
def ReadsItem (n : Node) : Prop :=
  ∃ m ts, Leads n.childText.toList ts ∧ Negated (Atom (Tree m)) ts n ∧ Nests (n.depth - 1) ts

theorem rising_item : Rising fun m => Negated (Atom (Tree m)) := fun m n hle =>
  rising_negated (m + 1) (n + 1) (Nat.succ_le_succ hle)

theorem reads_children (op : Connective) {children : List Node} (hne : children ≠ [])
    (h : ∀ n ∈ children, ReadsItem n) :
    ∃ m ts, Leads (s!" {op.name} ".intercalate (children.map Node.childText)).toList ts ∧
      Joined (IsKeyword op.keyword) (Negated (Atom (Tree m))) ts children ∧
      Nests (Node.depth.depths children - 1) ts := by
  induction children with
  | nil => exact absurd rfl hne
  | cons n children ih =>
    obtain ⟨⟨m, ts, hlead, hitem, hnests⟩, h⟩ := List.forall_mem_cons.1 h
    cases children with
    | nil =>
      refine ⟨m, ts, ?_, .one hitem, ?_⟩
      · rwa [List.map_cons, List.map_nil, String.intercalate_singleton]
      · rwa [Node.depth.depths, Node.depth.depths, Nat.max_zero]
    | cons n' children =>
      obtain ⟨m', us, hlead', hjoined, hnests'⟩ := ih (List.cons_ne_nil _ _) h
      refine ⟨max m m', ts ++ .word op.name.toList :: us, ?_, .more ?_ op.isKeyword_name ?_, ?_⟩
      · rw [List.map_cons, List.map_cons, String.intercalate_cons_cons]
        exact leads_joined op hlead hlead'
      · exact rising_item _ _ (Nat.le_max_left m m') _ _ hitem
      · exact hjoined.imp (rising_item _ _ (Nat.le_max_right m m'))
      · have hmax : Node.depth.depths (n :: n' :: children) - 1 =
            max (n.depth - 1) (Node.depth.depths (n' :: children) - 1) := by
          rw [Node.depth.depths]
          omega
        rw [hmax]
        exact hnests.append (.cons (nests_keyword op.isKeyword_name) hnests')

theorem tree_of_joined {op : Connective} {m : Nat} {ts : List Token} {children : List Node}
    (hlen : 2 ≤ children.length)
    (h : Joined (IsKeyword op.keyword) (Negated (Atom (Tree m))) ts children) :
    Tree (m + 1) ts (.group op false children) := by
  match children, hlen with
  | _ :: _ :: _, _ =>
    cases op with
    | and => exact Grouped.one (.many h)
    | or => exact Grouped.many (h.imp fun _ _ => .one)

theorem Node.text_group (op : Connective) (children : List Node) :
    (Node.group op false children).text =
      s!" {op.name} ".intercalate (children.map Node.childText) := by
  rw [← texts_eq, text]
  rfl

theorem Node.text_negated (op : Connective) (children : List Node) :
    (Node.group op true children).text = "NOT " ++ s!"({(Node.group op false children).text})" := by
  have hopen : "NOT (" = "NOT " ++ "(" := rfl
  rw [text, text]
  simp only [toString, if_true, Bool.false_eq_true, if_false, hopen, String.append_assoc]

/-- A group that is not negated is read as itself, with or without parentheses around it. -/
theorem reads_group (op : Connective) {children : List Node} (hlen : 2 ≤ children.length)
    (h : ∀ n ∈ children, ReadsItem n) :
    ∃ m ts, Leads (Node.group op false children).text.toList ts ∧
      Tree m ts (.group op false children) ∧ Nests (Node.depth.depths children - 1) ts := by
  have hne : children ≠ [] := by
    rintro rfl
    exact absurd hlen (by decide)
  obtain ⟨m, ts, hlead, hjoined, hnests⟩ := reads_children op hne h
  rw [← Node.text_group] at hlead
  exact ⟨m + 1, ts, hlead, tree_of_joined hlen hjoined, hnests⟩

theorem Node.WellFormed.readsItem {n : Node} (h : n.WellFormed) : ReadsItem n := by
  induction h with
  | leaf h =>
    obtain ⟨ts, hlead, hitem, hnests⟩ := h.leads (Tree 0)
    exact ⟨0, ts, hlead, hitem, hnests⟩
  | @group op negated children hlen h ih =>
    obtain ⟨m, ts, hlead, htree, hnests⟩ := reads_group op hlen ih
    have hparens : Negated (Atom (Tree m)) (.leftParen :: ts ++ [.rightParen]) _ :=
      .atom (.parens htree)
    have hlevels : Nests ((Node.group op negated children).depth - 1)
        (.leftParen :: ts ++ [.rightParen]) := by
      have hpos := depths_pos (List.ne_nil_of_length_pos (Nat.lt_of_lt_of_le Nat.two_pos hlen))
      have hdepth : (Node.group op negated children).depth - 1 =
          depth.depths children - 1 + 1 := by
        rw [depth]
        omega
      rw [hdepth]
      exact hnests.parens
    cases negated with
    | false => exact ⟨m, _, leads_parens hlead, hparens, hlevels⟩
    | true =>
      obtain ⟨us, hlead', hitem, hnests'⟩ := leads_not (leads_parens hlead) hparens hlevels
      rw [← text_negated] at hlead'
      exact ⟨m, us, hlead', hitem, hnests'⟩

theorem Node.WellFormed.reads {n : Node} (h : n.WellFormed) :
    ∃ m ts, Leads n.text.toList ts ∧ Tree m ts n ∧ Nests n.parens ts := by
  -- A leaf or a negated group is written alike in a group and on its own.
  have halone : n.childText = n.text → n.parens = n.depth - 1 →
      ∃ m ts, Leads n.text.toList ts ∧ Tree m ts n ∧ Nests n.parens ts := by
    intro htext hparens
    obtain ⟨m, ts, hlead, hitem, hnests⟩ := h.readsItem
    rw [htext] at hlead
    rw [hparens]
    exact ⟨m + 1, ts, hlead, .one (.one hitem), hnests⟩
  cases h with
  | leaf _ => exact halone rfl rfl
  | @group op negated children hlen h =>
    cases negated with
    | false => exact reads_group op hlen fun n hn => (h n hn).readsItem
    | true => exact halone rfl rfl

/-! ## Clauses -/

theorem Assignment.lexes {a : Assignment} (h : a.value.WellFormed) :
    ∃ ts, Assigns ts a ∧ ∀ rest us, Token.Stops rest → Lexes rest us →
      Lexes (a.text.toList ++ rest) (ts ++ us) := by
  obtain ⟨target, value⟩ := a
  have htarget : IsTarget (.word target.name.toList) target := .word (by cases target <;> decide)
  have hw : Token.isWord target.name.toList = true := by cases target <;> decide
  have hlex : ∀ t rest us, Lexes (value.text.toList ++ rest) (t :: us) →
      Lexes ((Assignment.mk target value).text.toList ++ rest)
        ([.word target.name.toList, .assign, t] ++ us) := by
    intro t rest us hv
    have htext : (Assignment.mk target value).text.toList ++ rest =
        target.name.toList ++ ' ' :: '=' :: ' ' :: (value.text.toList ++ rest) := by
      simp [Assignment.text, toString]
    rw [htext]
    exact lexes_word hw (Token.stops_cons rfl) (lexes_separator rfl (lexes_assign hv))
  cases h with
  | @field f hf =>
    obtain ⟨t, ht, hfield⟩ := hf.lexes
    exact ⟨_, .mk htarget (.field ht), fun rest us hs hr => hlex t rest us (hfield rest us hs hr)⟩
  | literal s =>
    exact ⟨_, .mk htarget (.literal (isLiteral_quotedText s)), fun rest us _ hr =>
      hlex _ rest us (lexes_quotedText s hr)⟩

theorem lexes_assignments {as : List Assignment} (hne : as ≠ [])
    (h : ∀ a ∈ as, a.value.WellFormed) :
    ∃ ts, Lexes (Text.joinWith ", " (as.map Assignment.text)).toList ts ∧
      Joined (· = .comma) Assigns ts as := by
  induction as with
  | nil => exact absurd rfl hne
  | cons a as ih =>
    obtain ⟨ha, h⟩ := List.forall_mem_cons.1 h
    obtain ⟨ts, hts, hlex⟩ := Assignment.lexes ha
    cases as with
    | nil =>
      have hend := hlex [] [] Token.stops_nil lexes_nil
      rw [List.append_nil, List.append_nil] at hend
      refine ⟨ts, ?_, .one hts⟩
      rwa [Text.joinWith, List.map_cons, List.map_nil, String.intercalate_singleton]
    | cons a' as =>
      obtain ⟨us, hus, hjoined⟩ := ih (List.cons_ne_nil _ _) h
      refine ⟨ts ++ .comma :: us, ?_, .more hts rfl hjoined⟩
      have htext : (Text.joinWith ", " ((a :: a' :: as).map Assignment.text)).toList =
          a.text.toList ++ ',' :: ' ' ::
            (Text.joinWith ", " ((a' :: as).map Assignment.text)).toList := by
        simp only [Text.joinWith, List.map_cons, String.intercalate_cons_cons,
          String.toList_append, List.append_assoc]
        rfl
      rw [htext]
      exact hlex _ _ (Token.stops_cons rfl) (lexes_comma (lexes_separator rfl hus))

theorem lexes_clause {as : List Assignment} (hne : as ≠ []) (h : ∀ a ∈ as, a.value.WellFormed) :
    ∃ ts, Lexes ("SET " ++ Text.joinWith ", " (as.map Assignment.text)).toList ts ∧
      Optional Clause ts (some as) := by
  obtain ⟨ts, hlex, hjoined⟩ := lexes_assignments hne h
  have hset : IsKeyword .set (.word "SET".toList) := .word (by decide)
  refine ⟨.word "SET".toList :: ts, ?_, .present (.mk hset hjoined)⟩
  rw [String.toList_append]
  exact leads_word (w := "SET") rfl _ _ hlex

/-! ## Expressions -/

/-- What is written behind the tree. -/
theorem Expression.WellFormed.clause {e : Expression} (h : e.WellFormed) :
    ∃ cs us, e.text.toList = ((e.root.map Node.text).getD "").toList ++ cs ∧ Lexes cs us ∧
      Optional Clause us e.assignments := by
  obtain ⟨root, as⟩ := e
  cases as with
  | none => exact ⟨[], [], by simp [text, actions], lexes_nil, .absent⟩
  | some as =>
    obtain ⟨hne, has⟩ := h.assignments as rfl
    obtain ⟨us, hlex, hclause⟩ := lexes_clause hne has
    cases as with
    | nil => exact absurd rfl hne
    | cons a as =>
      cases root with
      | none => exact ⟨_, us, by simp [text, actions, toString], hlex, hclause⟩
      | some n =>
        refine ⟨' ' :: _, us, ?_, lexes_separator rfl hlex, hclause⟩
        simp [text, actions, toString]

/-- The written form of a well-formed expression has tokens that denote it. -/
theorem Expression.WellFormed.lexes {e : Expression} (h : e.WellFormed) :
    ∃ m ts, Lexes e.text.toList ts ∧ Denotes m ts e ∧ nesting ts = e.parens := by
  obtain ⟨cs, us, htext, hlex, hclause⟩ := h.clause
  have hnests := nests_clause hclause
  rw [htext]
  obtain ⟨root, as⟩ := e
  cases root with
  | none => exact ⟨0, us, hlex, .mk .absent hclause, hnests.nesting⟩
  | some n =>
    obtain ⟨m, ts, hlead, htree, htn⟩ := (h.root n rfl).reads
    have hall := (htn.append hnests).nesting
    rw [Nat.max_zero] at hall
    exact ⟨m, ts ++ us, hlead cs us hlex, .mk (.present htree) hclause, hall⟩

end StreamPolicy
