import StreamPolicy.Proofs.Expression.Nesting
import StreamPolicy.Proofs.Expression.Reading

/-!
# Parsing and the grammar

`Expression.parse` gives what `Grammar.Denotes` derives from the tokens of a text, and no tokens
denote two expressions.
-/

namespace StreamPolicy

open StreamPolicy.Parser Grammar

/-! ## One meaning -/

namespace Grammar

/-- The tokens `ts` as something is read from them, wherever they stand. -/
def placed (ts : List Token) : List Lexeme := ts.map fun t => ⟨t, 0⟩

@[simp] theorem tokens_placed (ts : List Token) : tokens (placed ts) = ts := by
  simp [tokens, placed, Function.comp_def]

/-- What begins with a tree is no clause. -/
theorem not_clause_of_tree {n : Nat} {ts us : List Token} {x : Node}
    {as : Option (List Assignment)} (h : Tree n ts x) : ¬Optional Clause (ts ++ us) as := by
  intro hu
  obtain ⟨t, ht, hne⟩ := head_tree h
  obtain ⟨rest, rfl⟩ := List.head?_eq_some_iff.1 ht
  exact hne (head_clause hu)

theorem clause_unique {us : List Token} {as as' : Option (List Assignment)}
    (h : Optional Clause us as) (h' : Optional Clause us as') : as = as' := by
  have hread : ∀ bs, Optional Clause us bs → clause 0 none (placed us) = .ok ⟨none, bs⟩ :=
    fun bs hb => clause_eq_ok_iff.2 ⟨bs, by rwa [tokens_placed], rfl⟩
  have heq := hread as h
  rw [hread as' h'] at heq
  injection heq with heq
  injection heq with _ heq
  exact heq.symm

/-- A clause does not go on a tree. -/
theorem not_goesOn_clause {us : List Token} {as : Option (List Assignment)}
    (h : Optional Clause us as) : ∀ l ∈ (placed us).head?, ¬GoesOn l.token := by
  intro l hl hg
  cases us with
  | nil => cases hl
  | cons u us =>
    cases hl
    rcases hg with hg | hg <;> cases isKeyword_unique hg (head_clause h)

/-- In front of a clause, at most one tree can end. -/
theorem tree_unique {m n : Nat} {ts ts' us us' : List Token} {x x' : Node}
    {as as' : Option (List Assignment)} (h : Tree m ts x) (h' : Tree n ts' x')
    (hu : Optional Clause us as) (hu' : Optional Clause us' as') (happ : ts ++ us = ts' ++ us') :
    x = x' ∧ us = us' := by
  have h := h.mono (Nat.le_max_left m n)
  have h' := h'.mono (Nat.le_max_right m n)
  rw [← tokens_placed ts] at h
  rw [← tokens_placed ts'] at h'
  obtain ⟨hlt, hread⟩ := complete_tree 0 _ _ (placed us) x h (not_goesOn_clause hu)
  obtain ⟨hlt', hread'⟩ := complete_tree 0 _ _ (placed us') x' h' (not_goesOn_clause hu')
  have hls : placed ts ++ placed us = placed ts' ++ placed us' := by
    rw [placed, placed, ← List.map_append, happ, List.map_append]
    rfl
  generalize placed ts ++ placed us = ls at hlt hread hls
  subst hls
  rw [hread] at hread'
  injection hread' with heq
  injection heq with hx hus
  have hus := congrArg tokens hus
  rw [tokens_placed, tokens_placed] at hus
  exact ⟨hx, hus⟩

theorem denotes_unique {m n : Nat} {ts : List Token} {e e' : Expression} (h : Denotes m ts e)
    (h' : Denotes n ts e') : e = e' := by
  obtain @⟨ts, us, root, as, ht, hu⟩ := h
  generalize happ : ts ++ us = vs at h'
  obtain @⟨ts', us', root', as', ht', hu'⟩ := h'
  cases ht with
  | absent =>
    cases ht' with
    | absent =>
      obtain rfl : us = us' := happ
      rw [clause_unique hu hu']
    | present h' =>
      obtain rfl : us = ts' ++ us' := happ
      exact absurd hu (not_clause_of_tree h')
  | present h =>
    cases ht' with
    | absent =>
      obtain rfl : ts ++ us = us' := happ
      exact absurd hu' (not_clause_of_tree h)
    | present h' =>
      obtain ⟨rfl, rfl⟩ := tree_unique h h' hu hu' happ
      rw [clause_unique hu hu']

end Grammar

/-! ## Parsing -/

namespace Expression

theorem parse_eq_ok_iff {text : String} {e : Expression} :
    parse text = .ok e ↔ ∃ ls, Lexeme.lex text = .ok ls ∧ Denotes maxDepth (tokens ls) e := by
  unfold parse
  cases hlex : Lexeme.lex text with
  | error err => simp
  | ok ls => simp [expression_eq_ok_iff]

/-- A `text` parses to `e` if and only if its tokens denote `e` and their parentheses nest no deeper
than 64. No tokens denote two expressions, at whatever number of levels. -/
theorem parse_iff_derived :
    (∀ text e, parse text = .ok e ↔
      ∃ ls, Lexeme.lex text = .ok ls ∧ (∃ n, Denotes n (tokens ls) e) ∧
        nesting (tokens ls) ≤ 64) ∧
      ∀ ts m n e e', Denotes m ts e → Denotes n ts e' → e = e' := by
  have hmax : maxDepth = 64 := rfl
  refine ⟨fun text e => ?_, fun ts m n e e' => denotes_unique⟩
  rw [parse_eq_ok_iff, hmax]
  simp only [denotes_iff (n := 64)]

end Expression

end StreamPolicy
