import StreamPolicy.Proofs.Expression.Words

/-!
# Reading by the grammar

Each reader is `Sound` for its relation, which derives whatever was read, and `Complete`: it reads
what the relation derives and leaves the rest, as long as the rest does not go on with a connective.
Together `Parser.expression` accepts exactly what `Denotes` derives (`expression_eq_ok_iff`).
-/

namespace StreamPolicy.Parser

open Grammar

variable {α : Type}

def tokens (ls : List Lexeme) : List Token := ls.map (·.token)

@[simp] theorem tokens_nil : tokens [] = [] := rfl

@[simp] theorem tokens_cons (l : Lexeme) (ls : List Lexeme) :
    tokens (l :: ls) = l.token :: tokens ls := rfl

@[simp] theorem tokens_append (ls ms : List Lexeme) :
    tokens (ls ++ ms) = tokens ls ++ tokens ms := List.map_append

theorem tokens_eq_append {ls : List Lexeme} {ts us : List Token} (h : tokens ls = ts ++ us) :
    ∃ l m, ls = l ++ m ∧ tokens l = ts ∧ tokens m = us := List.map_eq_append_iff.1 h

theorem tokens_eq_cons {ls : List Lexeme} {t : Token} {ts : List Token}
    (h : tokens ls = t :: ts) : ∃ l m, ls = l :: m ∧ l.token = t ∧ tokens m = ts :=
  List.map_eq_cons_iff.1 h

/-- Whatever `read` reads is derived. -/
def Sound (read : Reader α) (derives : List Token → α → Prop) : Prop :=
  ∀ ts (s : Step α ts), read ts = .ok s →
    ∃ used, ts = used ++ s.rest ∧ derives (tokens used) s.value

/-- Whatever is derived is read, in front of any rest that does not go on. -/
def Complete (goesOn : Token → Prop) (read : Reader α) (derives : List Token → α → Prop) : Prop :=
  ∀ used rest x, derives (tokens used) x → (∀ l ∈ rest.head?, ¬goesOn l.token) →
    ∃ h, read (used ++ rest) = .ok ⟨x, rest, h⟩

theorem Complete.ne_nil {goesOn : Token → Prop} {read : Reader α}
    {derives : List Token → α → Prop} (hc : Complete goesOn read derives) {used : List Lexeme}
    {x : α} (h : derives (tokens used) x) : used ≠ [] := by
  rintro rfl
  obtain ⟨hlt, -⟩ := hc [] [] x h (by simp)
  exact Nat.lt_irrefl _ hlt

/-! ## First tokens -/

/-- No keyword begins an atom. -/
theorem head_atom {derives : List Token → Node → Prop} {ts : List Token} {n : Node}
    (h : Atom derives ts n) : ∃ t ∈ ts.head?, ∀ k, ¬IsKeyword k t := by
  cases h with
  | comparison h =>
    obtain ⟨hf, -, -, -⟩ := h
    refine ⟨_, rfl, fun k hk => ?_⟩
    cases hf with
    | static hw => exact hw k hk
    | dynamic _ => cases hk
  | parens _ => exact ⟨_, rfl, fun k hk => nomatch hk⟩

theorem head_negated {derives : List Token → Node → Prop} {ts : List Token} {n : Node}
    (h : Negated (Atom derives) ts n) : ∃ t ∈ ts.head?, ¬IsKeyword .set t := by
  cases h with
  | atom h =>
    obtain ⟨t, ht, hk⟩ := head_atom h
    exact ⟨t, ht, hk .set⟩
  | not ht _ => exact ⟨_, rfl, fun hs => nomatch isKeyword_unique ht hs⟩

theorem head_joined {sep P : Token → Prop} {item : List Token → α → Prop} {ts : List Token}
    {xs : List α} (hi : ∀ ts x, item ts x → ∃ t ∈ ts.head?, P t) (h : Joined sep item ts xs) :
    ∃ t ∈ ts.head?, P t := by
  cases h with
  | one h => exact hi _ _ h
  | more h _ _ =>
    obtain ⟨t, ht, hP⟩ := hi _ _ h
    refine ⟨t, ?_, hP⟩
    rw [List.head?_append, Option.mem_def.1 ht]
    rfl

theorem head_grouped {P : Token → Prop} {op : Connective} {k : Keyword}
    {item : List Token → Node → Prop} {ts : List Token} {n : Node}
    (hi : ∀ ts n, item ts n → ∃ t ∈ ts.head?, P t) (h : Grouped op k item ts n) :
    ∃ t ∈ ts.head?, P t := by
  obtain ⟨ns, hns, -⟩ := grouped_iff.1 h
  exact head_joined hi hns

/-- SET begins no tree. -/
theorem head_disjunction {derives : List Token → Node → Prop} {ts : List Token} {n : Node}
    (h : Disjunction derives ts n) : ∃ t ∈ ts.head?, ¬IsKeyword .set t :=
  head_grouped (fun _ _ => head_grouped fun _ _ => head_negated) h

theorem head_tree {m : Nat} {ts : List Token} {n : Node} (h : Tree m ts n) :
    ∃ t ∈ ts.head?, ¬IsKeyword .set t := by
  cases m with
  | zero => exact head_disjunction h
  | succ m => exact head_disjunction h

theorem head_clause {t : Token} {ts : List Token} {as : Option (List Assignment)}
    (h : Optional Clause (t :: ts) as) : IsKeyword .set t := by
  cases h with
  | present h =>
    obtain ⟨ht, -⟩ := h
    exact ht

/-! ## Items with connectives -/

section Chain

variable {k : Keyword} {item : Reader α} {derives : List Token → α → Prop}

theorem sound_chain (hi : Sound item derives) :
    Sound (chain k item) (Joined (IsKeyword k) derives) := by
  intro ts
  fun_induction chain k item ts with
  | case1 | case3 | case4 =>
    intro s h
    cases h
  | case2 ts first _ _ hit =>
    intro s h
    cases h
    obtain ⟨used, hts, hd⟩ := hi ts _ hit
    exact ⟨used, hts, .one hd⟩
  | case5 ts first l rest' _ hkw _ _ more rest'' _ _ _ hit ih =>
    intro s h
    cases h
    obtain ⟨used, hts, hd⟩ := hi ts _ hit
    obtain ⟨used', hrest, hd'⟩ := ih _ ‹_›
    refine ⟨used ++ l :: used', ?_, ?_⟩
    · have hts : ts = used ++ l :: rest' := hts
      have hrest : rest' = used' ++ rest'' := hrest
      show ts = used ++ l :: used' ++ rest''
      rw [hts, hrest, List.append_assoc, List.cons_append]
    · rw [tokens_append, tokens_cons]
      exact .more hd (keyword?_eq_some_iff.1 hkw) hd'
  | case6 ts first l rest' _ _ _ hit =>
    intro s h
    cases h
    obtain ⟨used, hts, hd⟩ := hi ts _ hit
    exact ⟨used, hts, .one hd⟩

theorem complete_chain {goesOn : Token → Prop} (hi : Complete goesOn item derives)
    (hk : ∀ t, IsKeyword k t → ¬goesOn t) :
    Complete (fun t => goesOn t ∨ IsKeyword k t) (chain k item)
      (Joined (IsKeyword k) derives) := by
  intro used rest xs h
  generalize hts : tokens used = ts at h
  induction h generalizing used with
  | one h =>
    intro hrest
    subst hts
    obtain ⟨hlt, hr⟩ := hi used rest _ h fun l hl hg => hrest l hl (.inl hg)
    refine ⟨hlt, ?_⟩
    rw [chain, hr]
    cases rest with
    | nil => rfl
    | cons l rest' =>
      have hne : keyword? l.token ≠ some k := fun he =>
        hrest l rfl (.inr (keyword?_eq_some_iff.1 he))
      simp only [hne, if_false]
  | more h hs hus ih =>
    intro hrest
    obtain ⟨first, m, rfl, rfl, hm⟩ := tokens_eq_append hts
    obtain ⟨l, others, rfl, rfl, rfl⟩ := tokens_eq_cons hm
    obtain ⟨hlt, hr⟩ := hi first (l :: others ++ rest) _ h fun l' hl' => by
      cases hl'
      exact hk _ hs
    obtain ⟨hlt', hr'⟩ := ih others rfl hrest
    have hne : others ++ rest ≠ [] := fun he => by
      rw [he] at hlt'
      exact Nat.not_lt_zero _ hlt'
    have hkw := keyword?_eq_some_iff.2 hs
    rw [List.append_assoc]
    refine ⟨?_, ?_⟩
    · simp only [List.length_append, List.length_cons] at hlt' ⊢
      omega
    · rw [chain, hr]
      simp only [List.cons_append, hkw, if_true, List.isEmpty_iff, hne, if_false, hr']

end Chain

/-! ## Trees -/

/-- Connectives that stand after a tree belong to it. -/
def GoesOn (t : Token) : Prop := IsKeyword .and t ∨ IsKeyword .or t

section Tree

variable {derives : List Token → Node → Prop}

theorem sound_unary {read : Reader Node} (ha : Sound read derives) :
    Sound (unary read) (Negated derives) := by
  intro ts
  fun_induction unary read ts with
  | case1 =>
    intro s h
    obtain ⟨used, hts, hd⟩ := ha [] s h
    exact ⟨used, hts, .atom hd⟩
  | case2 =>
    intro s h
    cases h
  | case3 l rest hkw n rest' _ hr ih =>
    intro s h
    cases h
    obtain ⟨used, hrest, hd⟩ := ih _ hr
    refine ⟨l :: used, ?_, .not (keyword?_eq_some_iff.1 hkw) hd (flips_iff.2 rfl)⟩
    show l :: rest = l :: (used ++ rest')
    rw [hrest]
  | case4 l rest =>
    intro s h
    obtain ⟨used, hts, hd⟩ := ha (l :: rest) s h
    exact ⟨used, hts, .atom hd⟩

theorem complete_unary {goesOn : Token → Prop} {read : Reader Node}
    (ha : Complete goesOn read derives)
    (hfirst : ∀ t ts n, derives (t :: ts) n → ¬IsKeyword .not t) :
    Complete goesOn (unary read) (Negated derives) := by
  intro used rest n h
  generalize hts : tokens used = ts at h
  induction h generalizing used with
  | atom h =>
    intro hrest
    subst hts
    obtain ⟨hlt, hr⟩ := ha used rest _ h hrest
    cases used with
    | nil => exact absurd rfl (ha.ne_nil h)
    | cons l used' =>
      have hne : keyword? l.token ≠ some .not := fun he =>
        hfirst _ _ _ h (keyword?_eq_some_iff.1 he)
      refine ⟨hlt, ?_⟩
      show unary read (l :: (used' ++ rest)) = _
      rw [unary, if_neg hne]
      exact hr
  | not ht h hf ih =>
    intro hrest
    obtain rfl := flips_iff.1 hf
    obtain ⟨l, used', rfl, rfl, rfl⟩ := tokens_eq_cons hts
    obtain ⟨hlt, hr⟩ := ih used' rfl hrest
    refine ⟨Nat.lt_succ_of_lt hlt, ?_⟩
    show unary read (l :: (used' ++ rest)) = _
    rw [unary, if_pos (keyword?_eq_some_iff.2 ht), hr]

theorem sound_condition {size : Nat} {f : Lexeme} {ts : List Lexeme} {s : Step Condition ts}
    (hf : beginsCondition f.token = true) (h : condition size f ts = .ok s) :
    ∃ used, ts = used ++ s.rest ∧ Comparison (f.token :: tokens used) s.value := by
  unfold condition at h
  split at h
  · split at h
    · cases h
    · cases h
  · rename_i o ts
    split at h
    · cases h
    · cases h
    · rename_i fld op hfld hop
      split at h
      · cases h
      · rename_i v rest
        split at h
        · cases h
        · rename_i value hv
          split at h
          · cases h
          · rename_i c hc
            cases h
            obtain ⟨hp, rfl⟩ := make?_eq_some_iff.1 hc
            exact ⟨[o, v], rfl, .mk (field_eq_ok_iff.1 ⟨hf, hfld⟩) (operator_eq_ok_iff.1 hop)
              (literal?_eq_some_iff.1 hv) hp⟩

theorem complete_condition {f : Lexeme} {used : List Lexeme} {c : Condition} (size : Nat)
    (rest : List Lexeme) (h : Comparison (f.token :: tokens used) c) :
    beginsCondition f.token = true ∧
      ∃ hlt, condition size f (used ++ rest) = .ok ⟨c, rest, hlt⟩ := by
  generalize hts : f.token :: tokens used = ts at h
  cases h with
  | mk hf ho hv hp =>
    injection hts with hft hts
    obtain ⟨o, m, rfl, rfl, hm⟩ := tokens_eq_cons hts
    obtain ⟨v, m', rfl, rfl, hm'⟩ := tokens_eq_cons hm
    obtain rfl := List.map_eq_nil_iff.1 hm'
    subst hft
    obtain ⟨hb, hfld⟩ := field_eq_ok_iff.2 hf
    refine ⟨hb, ?_, ?_⟩
    · simp only [List.cons_append, List.nil_append, List.length_cons]
      omega
    · simp only [condition, List.cons_append, List.nil_append, hfld, operator_eq_ok_iff.2 ho,
        literal?_eq_some_iff.2 hv, make?_eq_some_iff.2 ⟨hp, rfl⟩]

variable {size : Nat} {inner : Lexeme → Reader Node}

theorem sound_atom (hi : ∀ paren, Sound (inner paren) derives) :
    Sound (atom size inner) (Atom derives) := by
  intro ts s h
  unfold atom at h
  split at h
  · cases h
  · rename_i l ts
    split at h
    · rename_i hl
      split at h
      · cases h
      · cases h
      · rename_i n r rest _ hr
        split at h
        · rename_i hright
          cases h
          obtain ⟨used, hts, hd⟩ := hi l ts _ hr
          refine ⟨l :: used ++ [r], ?_, ?_⟩
          · show l :: ts = l :: used ++ [r] ++ rest
            rw [hts, List.append_assoc]
            rfl
          · rw [tokens_append, tokens_cons, tokens_cons, hl, hright]
            exact .parens hd
        · cases h
    · split at h
      · rename_i hb
        split at h
        · cases h
        · rename_i c rest _ hc
          cases h
          obtain ⟨used, hts, hd⟩ := sound_condition hb hc
          refine ⟨l :: used, ?_, .comparison hd⟩
          show l :: ts = l :: (used ++ rest)
          rw [hts]
      · cases h

theorem complete_atom (hi : ∀ paren, Complete GoesOn (inner paren) derives) :
    Complete (fun _ => False) (atom size inner) (Atom derives) := by
  intro used rest n h _
  generalize hts : tokens used = ts at h
  cases h with
  | comparison h =>
    subst hts
    cases used with
    | nil => cases h
    | cons l used =>
      obtain ⟨hb, hlt, hc⟩ := complete_condition size rest h
      have hne : l.token ≠ .leftParen := by
        rintro he
        rw [he] at hb
        cases hb
      refine ⟨Nat.lt_succ_of_lt hlt, ?_⟩
      simp only [List.cons_append, atom, hne, if_false, hb, if_true, hc]
  | parens h =>
    obtain ⟨l, m, rfl, hl, hm⟩ := tokens_eq_cons hts
    obtain ⟨inside, m', rfl, rfl, hm'⟩ := tokens_eq_append hm
    obtain ⟨r, m'', rfl, hr, hm''⟩ := tokens_eq_cons hm'
    obtain rfl := List.map_eq_nil_iff.1 hm''
    obtain ⟨hlt, hn⟩ := hi l inside (r :: rest) n h fun l' hl' hg => by
      cases hl'
      rw [hr] at hg
      rcases hg with hg | hg <;> cases hg
    have hread : ∀ ts, ts = l :: (inside ++ r :: rest) →
        ∃ hlt', atom size inner ts = .ok ⟨n, rest, hlt'⟩ := by
      rintro _ rfl
      refine ⟨?_, ?_⟩
      · simp only [List.length_cons, List.length_append]
        omega
      · simp only [atom, hl, if_true, hn, hr]
    exact hread _ (by simp)

theorem sound_conjunction (hi : ∀ paren, Sound (inner paren) derives) :
    Sound (conjunction size inner) (Grouped .and .and (Negated (Atom derives))) := by
  intro ts s h
  unfold conjunction at h
  split at h
  · cases h
  · rename_i ns rest _ hc
    cases h
    obtain ⟨used, hts, hd⟩ := sound_chain (sound_unary (sound_atom hi)) ts _ hc
    exact ⟨used, hts, grouped_iff.2 ⟨_, hd, rfl⟩⟩

theorem complete_conjunction (hi : ∀ paren, Complete GoesOn (inner paren) derives) :
    Complete (IsKeyword .and) (conjunction size inner)
      (Grouped .and .and (Negated (Atom derives))) := by
  intro used rest n h hrest
  obtain ⟨ns, hns, rfl⟩ := grouped_iff.1 h
  have hu : Complete (fun _ => False) (unary (atom size inner)) (Negated (Atom derives)) := by
    refine complete_unary (complete_atom hi) fun t ts n h => ?_
    obtain ⟨t', ht', hk⟩ := head_atom h
    cases ht'
    exact hk .not
  obtain ⟨hlt, hr⟩ := complete_chain hu (fun _ _ => id) used rest _ hns fun l hl hg =>
    hg.elim id (hrest l hl)
  refine ⟨hlt, ?_⟩
  simp only [conjunction, hr]

theorem sound_disjunction (hi : ∀ paren, Sound (inner paren) derives) :
    Sound (disjunction size inner) (Disjunction derives) := by
  intro ts s h
  unfold disjunction at h
  split at h
  · cases h
  · rename_i ns rest _ hc
    cases h
    obtain ⟨used, hts, hd⟩ := sound_chain (sound_conjunction hi) ts _ hc
    exact ⟨used, hts, grouped_iff.2 ⟨_, hd, rfl⟩⟩

theorem complete_disjunction (hi : ∀ paren, Complete GoesOn (inner paren) derives) :
    Complete GoesOn (disjunction size inner) (Disjunction derives) := by
  intro used rest n h hrest
  obtain ⟨ns, hns, rfl⟩ := grouped_iff.1 h
  have hi' : Complete (IsKeyword .and) (conjunction size inner) _ := complete_conjunction hi
  have hk : ∀ t, IsKeyword .or t → ¬IsKeyword .and t := fun t ho ha => by
    cases isKeyword_unique ho ha
  obtain ⟨hlt, hr⟩ := complete_chain hi' hk used rest _ hns hrest
  refine ⟨hlt, ?_⟩
  simp only [disjunction, hr]

end Tree

theorem sound_tree (size : Nat) (n : Nat) : Sound (tree size n) (Tree n) := by
  induction n with
  | zero =>
    refine sound_disjunction fun paren ts s h => ?_
    cases h
  | succ n ih => exact sound_disjunction fun _ => ih

theorem complete_tree (size : Nat) (n : Nat) : Complete GoesOn (tree size n) (Tree n) := by
  induction n with
  | zero =>
    refine complete_disjunction fun paren used rest x h => ?_
    cases h
  | succ n ih => exact complete_disjunction fun _ => ih

/-! ## Whole expressions -/

theorem assignments_eq_ok_iff {size : Nat} {ls : List Lexeme} {as : List Assignment} :
    assignments size ls = .ok as ↔ Joined (· = .comma) Assigns (tokens ls) as := by
  constructor
  · intro h
    fun_induction assignments size ls generalizing as with
    | case6 t name ht a ha v value hv =>
      cases h
      rw [tokens_cons, tokens_cons, ha]
      exact .one (.mk (target_eq_ok_iff.1 ht) (source_eq_ok_iff.1 hv))
    | case8 t name ht a ha v value hv c rest hc more hmore ih =>
      cases h
      have hfirst : Assigns [t.token, .assign, v.token] ⟨name, value⟩ :=
        .mk (target_eq_ok_iff.1 ht) (source_eq_ok_iff.1 hv)
      rw [tokens_cons, tokens_cons, tokens_cons, tokens_cons, ha]
      show Joined _ _ ([_, _, _] ++ _ :: _) _
      exact .more hfirst hc (ih hmore)
    | _ => cases h
  · intro h
    generalize hts : tokens ls = ts at h
    induction h generalizing ls with
    | one h =>
      obtain ⟨ht, hv⟩ := h
      obtain ⟨l, m, rfl, rfl, hm⟩ := tokens_eq_cons hts
      obtain ⟨a, m', rfl, ha, hm'⟩ := tokens_eq_cons hm
      obtain ⟨v, m'', rfl, rfl, hm''⟩ := tokens_eq_cons hm'
      obtain rfl := List.map_eq_nil_iff.1 hm''
      simp only [assignments, target_eq_ok_iff.2 ht, ha, if_true, source_eq_ok_iff.2 hv]
    | more h hs _ ih =>
      obtain ⟨ht, hv⟩ := h
      obtain ⟨l, m, rfl, rfl, hm⟩ := tokens_eq_cons hts
      obtain ⟨a, m', rfl, ha, hm'⟩ := tokens_eq_cons hm
      obtain ⟨v, m'', rfl, rfl, hm''⟩ := tokens_eq_cons hm'
      obtain ⟨c, others, rfl, hc, hts'⟩ := tokens_eq_cons hm''
      simp only [assignments, target_eq_ok_iff.2 ht, ha, if_true, source_eq_ok_iff.2 hv,
        hc.trans hs, ih hts']

theorem clause_eq_ok_iff {size : Nat} {root : Option Node} {ls : List Lexeme} {e : Expression} :
    clause size root ls = .ok e ↔
      ∃ as, Optional Clause (tokens ls) as ∧ e = { root, assignments := as } := by
  constructor
  · intro h
    unfold clause at h
    split at h
    · cases h
      exact ⟨none, .absent, rfl⟩
    · rename_i l ls
      split at h
      · rename_i hset
        split at h
        · cases h
        · rename_i as has
          cases h
          exact ⟨some as, .present (.mk (keyword?_eq_some_iff.1 hset)
            (assignments_eq_ok_iff.1 has)), rfl⟩
      · cases h
  · rintro ⟨as, h, rfl⟩
    generalize hts : tokens ls = ts at h
    cases h with
    | absent =>
      obtain rfl := List.map_eq_nil_iff.1 hts
      rfl
    | present h =>
      obtain ⟨ht, h⟩ := h
      obtain ⟨l, m, rfl, rfl, rfl⟩ := tokens_eq_cons hts
      simp only [clause, keyword?_eq_some_iff.2 ht, if_true, assignments_eq_ok_iff.2 h]

/-- All tokens make up the expression that `Denotes` gives them, and no other. -/
theorem expression_eq_ok_iff {size : Nat} {ls : List Lexeme} {e : Expression} :
    expression size ls = .ok e ↔ Denotes maxDepth (tokens ls) e := by
  constructor
  · intro h
    unfold expression at h
    split at h
    · obtain ⟨as, hc, rfl⟩ := clause_eq_ok_iff.1 h
      exact .mk .absent hc
    · split at h
      · cases h
      · rename_i n rest _ ht
        obtain ⟨used, hls, hd⟩ := sound_tree size maxDepth ls _ ht
        obtain ⟨as, hc, rfl⟩ := clause_eq_ok_iff.1 h
        rw [hls, tokens_append]
        exact .mk (.present hd) hc
  · intro h
    generalize hts : tokens ls = ts at h
    obtain ⟨ht, hu⟩ := h
    obtain ⟨used, rest, rfl, rfl, rfl⟩ := tokens_eq_append hts
    have hset : ∀ l ∈ rest.head?, IsKeyword .set l.token := by
      intro l hl
      obtain ⟨m, rfl⟩ := List.head?_eq_some_iff.1 hl
      exact head_clause hu
    generalize hused : tokens used = ts at ht
    cases ht with
    | absent =>
      obtain rfl := List.map_eq_nil_iff.1 hused
      have hfirst : (rest.head?.map fun l => keyword? l.token == some .set).getD true = true := by
        cases rest with
        | nil => rfl
        | cons l m => exact beq_iff_eq.2 (keyword?_eq_some_iff.2 (hset l rfl))
      rw [List.nil_append, expression, if_pos hfirst]
      exact clause_eq_ok_iff.2 ⟨_, hu, rfl⟩
    | present h =>
      subst hused
      obtain ⟨hlt, hr⟩ := complete_tree size maxDepth used rest _ h fun l hl hg => by
        rcases hg with hg | hg <;> cases isKeyword_unique hg (hset l hl)
      obtain ⟨t, ht, hne⟩ := head_tree h
      cases used with
      | nil => cases ht
      | cons l used =>
        cases ht
        have hfirst : ((l :: used ++ rest).head?.map fun l =>
            keyword? l.token == some .set).getD true ≠ true := fun he =>
          hne (keyword?_eq_some_iff.1 (beq_iff_eq.1 he))
        rw [expression, if_neg hfirst, hr]
        exact clause_eq_ok_iff.2 ⟨_, hu, rfl⟩

end StreamPolicy.Parser
