import StreamPolicy.Proofs.Expression.Grammar

/-!
# How deep parentheses nest

How deep the parentheses of tokens nest can be counted from left to right (`nesting`), whatever the
tokens stand for. What the grammar derives at some number of levels is derived at exactly as many as
are counted, so the number of levels limits nothing else (`denotes_iff`). It also bounds the levels
of the tree.
-/

namespace StreamPolicy.Grammar

variable {α : Type}

/-! ## Counting -/

/-- The most parentheses that are open at once in tokens, `d` of them open from the start. -/
def deepest (d : Nat) : List Token → Nat
  | [] => d
  | .leftParen :: ts => deepest (d + 1) ts
  | .rightParen :: ts => max d (deepest (d - 1) ts)
  | _ :: ts => deepest d ts

def nesting (ts : List Token) : Nat := deepest 0 ts

/-- Parentheses pair up in `ts`, and nest `m` levels. -/
def Nests (m : Nat) (ts : List Token) : Prop :=
  ∀ d us, deepest d (ts ++ us) = max (d + m) (deepest d us)

theorem le_deepest (d : Nat) (ts : List Token) : d ≤ deepest d ts := by
  fun_induction deepest d ts with
  | case1 => exact Nat.le_refl _
  | case2 d ts ih => omega
  | case3 d ts ih => omega
  | case4 d t ts _ _ ih => exact ih

theorem Nests.nesting {m : Nat} {ts : List Token} (h : Nests m ts) : nesting ts = m := by
  have h := h 0 []
  rw [List.append_nil] at h
  rw [Grammar.nesting, h, deepest]
  omega

theorem Nests.nil : Nests 0 [] := by
  intro d us
  have := le_deepest d us
  rw [List.nil_append]
  omega

theorem Nests.one {t : Token} (hl : t ≠ .leftParen) (hr : t ≠ .rightParen) : Nests 0 [t] := by
  intro d us
  have := le_deepest d us
  show deepest d (t :: us) = _
  rw [deepest]
  · omega
  · exact hl
  · exact hr

theorem Nests.append {m n : Nat} {ts us : List Token} (ht : Nests m ts) (hu : Nests n us) :
    Nests (max m n) (ts ++ us) := by
  intro d vs
  rw [List.append_assoc, ht d, hu d]
  omega

theorem Nests.cons {t : Token} {m : Nat} {ts : List Token} (ht : Nests 0 [t]) (h : Nests m ts) :
    Nests m (t :: ts) := by
  have := ht.append h
  rwa [Nat.zero_max] at this

theorem Nests.parens {m : Nat} {ts : List Token} (h : Nests m ts) :
    Nests (m + 1) (.leftParen :: ts ++ [.rightParen]) := by
  intro d us
  have happ : .leftParen :: ts ++ [.rightParen] ++ us = .leftParen :: (ts ++ .rightParen :: us) := by
    simp
  rw [happ, deepest, h (d + 1), deepest, Nat.add_sub_cancel]
  omega

/-- Parentheses side by side nest no deeper than each of them. -/
example : nesting [.leftParen, .leftParen, .rightParen, .rightParen, .leftParen, .rightParen] = 2 :=
  rfl

/-! ## More levels derive more -/

theorem Atom.imp {inner inner' : List Token → Node → Prop}
    (hi : ∀ ts n, inner ts n → inner' ts n) {ts : List Token} {n : Node} (h : Atom inner ts n) :
    Atom inner' ts n := by
  cases h with
  | comparison h => exact .comparison h
  | parens h => exact .parens (hi _ _ h)

theorem Negated.imp {atom atom' : List Token → Node → Prop}
    (ha : ∀ ts n, atom ts n → atom' ts n) {ts : List Token} {n : Node} (h : Negated atom ts n) :
    Negated atom' ts n := by
  induction h with
  | atom h => exact .atom (ha _ _ h)
  | not ht _ hf ih => exact .not ht ih hf

theorem Joined.imp {sep : Token → Prop} {item item' : List Token → α → Prop}
    (hi : ∀ ts x, item ts x → item' ts x) {ts : List Token} {xs : List α}
    (h : Joined sep item ts xs) : Joined sep item' ts xs := by
  induction h with
  | one h => exact .one (hi _ _ h)
  | more h hs _ ih => exact .more (hi _ _ h) hs ih

theorem Grouped.imp {op : Connective} {k : Parser.Keyword} {item item' : List Token → Node → Prop}
    (hi : ∀ ts n, item ts n → item' ts n) {ts : List Token} {n : Node}
    (h : Grouped op k item ts n) : Grouped op k item' ts n := by
  cases h with
  | one h => exact .one (hi _ _ h)
  | many h => exact .many (h.imp hi)

/-- What derives the insides of parentheses when these nest a number of levels. -/
def Inside : Nat → List Token → Node → Prop
  | 0 => fun _ _ => False
  | n + 1 => Tree n

theorem tree_eq (n : Nat) : Tree n = Disjunction (Inside n) := by
  cases n <;> rfl

theorem Tree.mono {m n : Nat} (hle : m ≤ n) {ts : List Token} {x : Node} (h : Tree m ts x) :
    Tree n ts x := by
  induction n generalizing m ts x with
  | zero =>
    obtain rfl := Nat.le_zero.1 hle
    exact h
  | succ n ih =>
    rw [tree_eq] at h ⊢
    refine Grouped.imp (fun ts x => Grouped.imp fun ts x => Negated.imp fun ts x => Atom.imp ?_) h
    intro ts x h
    cases m with
    | zero => cases h
    | succ m => exact ih (Nat.le_of_succ_le_succ hle) h

/-- A family of relations, one a level, of which later ones derive more. -/
def Rising (rel : Nat → List Token → α → Prop) : Prop :=
  ∀ m n, m ≤ n → ∀ ts x, rel m ts x → rel n ts x

theorem rising_inside : Rising Inside := by
  intro m n hle ts x h
  cases m with
  | zero => cases h
  | succ m =>
    cases n with
    | zero => exact absurd hle (Nat.not_succ_le_zero m)
    | succ n => exact Tree.mono (Nat.le_of_succ_le_succ hle) h

/-! ## As many levels as are counted -/

/-- What is derived takes as many levels as the parentheses of `ts` nest, out of `n`. -/
def Counted (rel : Nat → List Token → α → Prop) (n : Nat) (ts : List Token) (x : α) : Prop :=
  ∃ k ≤ n, Nests k ts ∧ rel k ts x

theorem nests_keyword {k : Parser.Keyword} {t : Token} (h : IsKeyword k t) : Nests 0 [t] := by
  cases h <;> exact .one nofun nofun

theorem nests_comparison {ts : List Token} {c : Condition} (h : Comparison ts c) : Nests 0 ts := by
  obtain ⟨hf, ho, hv, -⟩ := h
  refine .cons ?_ (.cons ?_ ?_)
  · cases hf <;> exact .one nofun nofun
  · cases ho <;> exact .one nofun nofun
  · cases hv with
    | literal h => cases h; exact .one nofun nofun
    | word => exact .one nofun nofun

section Counted

variable {n : Nat}

theorem counted_atom (hi : ∀ ts x, Inside n ts x → ∃ k < n, Nests k ts ∧ Tree k ts x)
    {ts : List Token} {x : Node} (h : Atom (Inside n) ts x) :
    Counted (fun k => Atom (Inside k)) n ts x := by
  cases h with
  | comparison h => exact ⟨0, Nat.zero_le n, nests_comparison h, .comparison h⟩
  | parens h =>
    obtain ⟨k, hk, hn, h⟩ := hi _ _ h
    exact ⟨k + 1, hk, hn.parens, .parens h⟩

variable {rel : Nat → List Token → Node → Prop}

theorem counted_negated {atom : List Token → Node → Prop}
    (ha : ∀ ts x, atom ts x → Counted rel n ts x) {ts : List Token} {x : Node}
    (h : Negated atom ts x) : Counted (fun k => Negated (rel k)) n ts x := by
  induction h with
  | atom h =>
    obtain ⟨k, hk, hn, h⟩ := ha _ _ h
    exact ⟨k, hk, hn, .atom h⟩
  | not ht _ hf ih =>
    obtain ⟨k, hk, hn, h⟩ := ih
    exact ⟨k, hk, .cons (nests_keyword ht) hn, .not ht h hf⟩

theorem counted_joined (hrel : Rising rel) {kw : Parser.Keyword}
    {item : List Token → Node → Prop} (hi : ∀ ts x, item ts x → Counted rel n ts x)
    {ts : List Token} {xs : List Node} (h : Joined (IsKeyword kw) item ts xs) :
    ∃ k ≤ n, Nests k ts ∧ Joined (IsKeyword kw) (rel k) ts xs := by
  induction h with
  | one h =>
    obtain ⟨k, hk, hn, h⟩ := hi _ _ h
    exact ⟨k, hk, hn, .one h⟩
  | more h hs _ ih =>
    obtain ⟨k, hk, hn, h⟩ := hi _ _ h
    obtain ⟨l, hl, hm, ih⟩ := ih
    refine ⟨max k l, Nat.max_le.2 ⟨hk, hl⟩, hn.append (.cons (nests_keyword hs) hm), ?_⟩
    exact .more (hrel _ _ (Nat.le_max_left k l) _ _ h) hs
      (ih.imp (hrel _ _ (Nat.le_max_right k l)))

theorem counted_grouped (hrel : Rising rel) {op : Connective} {kw : Parser.Keyword}
    {item : List Token → Node → Prop} (hi : ∀ ts x, item ts x → Counted rel n ts x)
    {ts : List Token} {x : Node} (h : Grouped op kw item ts x) :
    Counted (fun k => Grouped op kw (rel k)) n ts x := by
  cases h with
  | one h =>
    obtain ⟨k, hk, hn, h⟩ := hi _ _ h
    exact ⟨k, hk, hn, .one h⟩
  | many h =>
    obtain ⟨k, hk, hn, h⟩ := counted_joined hrel hi h
    exact ⟨k, hk, hn, .many h⟩

theorem rising_negated : Rising fun k => Negated (Atom (Inside k)) := by
  intro m n hle ts x h
  exact h.imp fun _ _ h => h.imp (rising_inside m n hle)

theorem rising_conjunction : Rising fun k => Grouped .and .and (Negated (Atom (Inside k))) := by
  intro m n hle ts x h
  exact h.imp (rising_negated m n hle)

theorem counted_tree {ts : List Token} {x : Node} (h : Tree n ts x) : Counted Tree n ts x := by
  induction n using Nat.strongRecOn generalizing ts x with
  | ind n ih =>
    have hi : ∀ ts x, Inside n ts x → ∃ k < n, Nests k ts ∧ Tree k ts x := by
      intro ts x h
      cases n with
      | zero => cases h
      | succ n =>
        obtain ⟨k, hk, hn, h⟩ := ih n (Nat.lt_succ_self n) h
        exact ⟨k, Nat.lt_succ_of_le hk, hn, h⟩
    rw [tree_eq] at h
    obtain ⟨k, hk, hn, h⟩ := counted_grouped rising_conjunction (fun ts x =>
      counted_grouped rising_negated fun ts x => counted_negated fun ts x => counted_atom hi) h
    refine ⟨k, hk, hn, ?_⟩
    rw [tree_eq]
    exact h

end Counted

theorem nests_joined {sep : Token → Prop} {item : List Token → α → Prop}
    (hs : ∀ t, sep t → Nests 0 [t]) (hi : ∀ ts x, item ts x → Nests 0 ts) {ts : List Token}
    {xs : List α} (h : Joined sep item ts xs) : Nests 0 ts := by
  induction h with
  | one h => exact hi _ _ h
  | more h ht _ ih => exact (hi _ _ h).append (.cons (hs _ ht) ih)

theorem nests_clause {ts : List Token} {as : Option (List Assignment)}
    (h : Optional Clause ts as) : Nests 0 ts := by
  cases h with
  | absent => exact .nil
  | present h =>
    obtain ⟨ht, h⟩ := h
    refine .cons (nests_keyword ht) (nests_joined ?_ ?_ h)
    · rintro t rfl
      exact .one nofun nofun
    · rintro ts x ⟨ht, hv⟩
      refine .cons ?_ (.cons (.one nofun nofun) ?_)
      · cases ht; exact .one nofun nofun
      · cases hv with
        | literal h => cases h; exact .one nofun nofun
        | field h => cases h <;> exact .one nofun nofun

theorem rising_denotes : Rising Denotes := by
  rintro m n hle ts e ⟨ht, hu⟩
  refine .mk ?_ hu
  cases ht with
  | absent => exact .absent
  | present h => exact .present (h.mono hle)

theorem counted_denotes {n : Nat} {ts : List Token} {e : Expression} (h : Denotes n ts e) :
    Counted Denotes n ts e := by
  obtain ⟨ht, hu⟩ := h
  have hn := nests_clause hu
  cases ht with
  | absent => exact ⟨0, Nat.zero_le n, hn, .mk .absent hu⟩
  | present h =>
    obtain ⟨k, hk, hm, h⟩ := counted_tree h
    exact ⟨k, hk, Nat.max_zero k ▸ hm.append hn, .mk (.present h) hu⟩

/-- The number of levels limits how deep parentheses nest, and nothing else. -/
theorem denotes_iff {n : Nat} {ts : List Token} {e : Expression} :
    Denotes n ts e ↔ (∃ m, Denotes m ts e) ∧ nesting ts ≤ n := by
  constructor
  · intro h
    obtain ⟨k, hk, hn, -⟩ := counted_denotes h
    exact ⟨⟨n, h⟩, hn.nesting ▸ hk⟩
  · rintro ⟨⟨m, h⟩, hle⟩
    obtain ⟨k, -, hn, h⟩ := counted_denotes h
    exact rising_denotes k n (hn.nesting ▸ hle) ts e h

end StreamPolicy.Grammar
