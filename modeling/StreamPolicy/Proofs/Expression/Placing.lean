import StreamPolicy.Proofs.Expression.Reading

/-!
# Where errors are placed

Every error that is found in reading tokens is placed at one of the tokens that were given, or at
the end of the text they are from (`Marks`). Each reader keeps to this (`Places`) if the readers
that it calls do: what they leave unread is part of what they were given.
-/

namespace StreamPolicy.Parser

open Grammar

variable {α : Type} {size : Nat} {ls ms : List Lexeme} {offset : Nat} {e : ParseError}

/-- The offset is the start of one of the tokens `ls`, or the end of a text of `size` bytes. -/
def Marks (size : Nat) (ls : List Lexeme) (offset : Nat) : Prop :=
  offset = size ∨ ∃ l ∈ ls, l.start = offset

theorem marks_end : Marks size ls size := .inl rfl

theorem marks_start {l : Lexeme} (h : l ∈ ls) : Marks size ls l.start := .inr ⟨l, h, rfl⟩

theorem Marks.mono (h : Marks size ls offset) (hsub : ls ⊆ ms) : Marks size ms offset :=
  h.imp_right fun ⟨l, hl, hstart⟩ => ⟨l, hsub hl, hstart⟩

/-- Errors of `read` are placed at tokens that it was given, or at the end. -/
def Places (size : Nat) (read : Reader α) : Prop :=
  ∀ ts e, read ts = .error e → Marks size ts e.offset

/-- What a reader leaves is part of what it was given. -/
theorem Sound.rest_subset {read : Reader α} {derives : List Token → α → Prop}
    (hs : Sound read derives) {ts : List Lexeme} {s : Step α ts} (h : read ts = .ok s) :
    s.rest ⊆ ts := by
  obtain ⟨used, hts, -⟩ := hs ts s h
  intro l hl
  rw [hts]
  exact List.mem_append_right used hl

/-! ## Single tokens -/

theorem offset_of_field {l : Lexeme} (h : field l = .error e) : e.offset = l.start := by
  unfold field at h
  split at h
  · cases h
  · split at h
    · cases h
    · cases h
      rfl
  · cases h
    rfl

theorem offset_of_operator {l : Lexeme} (h : operator l = .error e) : e.offset = l.start := by
  unfold operator at h
  split at h
  case h_5 =>
    split at h
    · cases h
    · cases h
      rfl
  all_goals
    cases h
    try rfl

theorem offset_of_target {l : Lexeme} (h : target l = .error e) : e.offset = l.start := by
  unfold target at h
  split at h
  · split at h
    · cases h
    · cases h
      rfl
  · cases h
    rfl

theorem offset_of_source {l : Lexeme} (h : source l = .error e) : e.offset = l.start := by
  unfold source at h
  split at h
  · cases h
  · split at h
    · cases hf : field l with
      | ok f =>
        rw [hf] at h
        cases h
      | error e' =>
        rw [hf] at h
        cases h
        exact offset_of_field hf
    · cases h
      rfl

/-! ## Trees -/

section Tree

variable {derives : List Token → α → Prop} {item : Reader α} {k : Keyword}

theorem places_chain (hs : Sound item derives) (hi : Places size item) :
    Places size (chain k item) := by
  intro ts
  fun_induction chain k item ts with
  | case1 ts e' hit =>
    intro e h
    cases h
    exact hi ts _ hit
  | case3 ts first l rest' _ hkw hempty _ hit =>
    intro e h
    cases h
    exact marks_start (hs.rest_subset hit (List.mem_cons_self ..))
  | case4 ts first l rest' _ _ _ _ e' hmore _ hit ih =>
    intro e h
    cases h
    refine (ih _ hmore).mono fun l' hl' => ?_
    exact hs.rest_subset hit (List.mem_cons_of_mem l hl')
  | case2 | case5 | case6 =>
    intro e h
    cases h

end Tree

section Tree

variable {derives : List Token → Node → Prop} {inner : Lexeme → Reader Node}

theorem places_unary {read : Reader Node} (ha : Places size read) : Places size (unary read) := by
  intro ts
  fun_induction unary read ts with
  | case1 => exact ha []
  | case2 l rest hkw e' hr ih =>
    intro e h
    cases h
    exact (ih _ hr).mono (List.subset_cons_self l rest)
  | case3 =>
    intro e h
    cases h
  | case4 l rest => exact ha (l :: rest)

theorem marks_condition {f : Lexeme} {ts : List Lexeme} (h : condition size f ts = .error e) :
    Marks size (f :: ts) e.offset := by
  unfold condition at h
  split at h
  · split at h
    · cases h
      rename_i hf
      rw [offset_of_field hf]
      exact marks_start (List.mem_cons_self ..)
    · cases h
      exact marks_end
  · rename_i o ts
    split at h
    · rename_i hf
      cases h
      rw [offset_of_field hf]
      exact marks_start (List.mem_cons_self ..)
    · rename_i ho _
      cases h
      rw [offset_of_operator ho]
      exact marks_start (by simp)
    · split at h
      · cases h
        exact marks_start (by simp)
      · rename_i v rest
        split at h
        · cases h
          exact marks_start (by simp)
        · split at h
          · cases h
            exact marks_start (l := v) (by simp)
          · cases h

/-- What is in parentheses may be refused at the opening one, `paren`. -/
theorem places_atom (hs : ∀ paren, Sound (inner paren) derives)
    (hi : ∀ paren ts e, inner paren ts = .error e → Marks size (paren :: ts) e.offset) :
    Places size (atom size inner) := by
  intro ts e h
  unfold atom at h
  split at h
  · cases h
    exact marks_end
  · rename_i l ts
    split at h
    · split at h
      · rename_i hr
        cases h
        exact hi l ts _ hr
      · cases h
        exact marks_start (List.mem_cons_self ..)
      · rename_i n r rest _ hr
        split at h
        · cases h
        · cases h
          have hmem : r ∈ ts := (hs l).rest_subset hr (List.mem_cons_self ..)
          exact marks_start (List.mem_cons_of_mem l hmem)
    · split at h
      · split at h
        · rename_i hc
          cases h
          exact marks_condition hc
        · cases h
      · cases h
        exact marks_start (List.mem_cons_self ..)

theorem places_disjunction (hs : ∀ paren, Sound (inner paren) derives)
    (hi : ∀ paren ts e, inner paren ts = .error e → Marks size (paren :: ts) e.offset) :
    Places size (disjunction size inner) := by
  have hconjunction : Places size (conjunction size inner) := by
    intro ts e h
    unfold conjunction at h
    split at h
    · rename_i hc
      cases h
      exact places_chain (sound_unary (sound_atom hs)) (places_unary (places_atom hs hi)) ts _ hc
    · cases h
  intro ts e h
  unfold disjunction at h
  split at h
  · rename_i hc
    cases h
    exact places_chain (sound_conjunction hs) hconjunction ts _ hc
  · cases h

end Tree

theorem places_tree (size levels : Nat) : Places size (tree size levels) := by
  induction levels with
  | zero =>
    have hnone : ∀ paren : Lexeme,
        Sound (fun _ => .error ⟨.tooDeep maxDepth, paren.start⟩ : Reader Node) fun _ _ => False :=
      fun _ _ _ h => nomatch h
    refine places_disjunction hnone fun paren ts e h => ?_
    cases h
    exact marks_start (List.mem_cons_self ..)
  | succ levels ih =>
    exact places_disjunction (fun _ => sound_tree size levels) fun paren ts e h =>
      (ih ts e h).mono (List.subset_cons_self paren ts)

/-! ## Whole expressions -/

theorem marks_assignments (h : assignments size ls = .error e) : Marks size ls e.offset := by
  fun_induction assignments size ls with
  | case1 =>
    cases h
    exact marks_end
  | case2 t ts e' ht =>
    cases h
    rw [offset_of_target ht]
    exact marks_start (List.mem_cons_self ..)
  | case5 t _ _ a _ v rest e' hv =>
    cases h
    rw [offset_of_source hv]
    exact marks_start (by simp)
  | case7 t _ _ a _ v _ _ c rest _ e' hmore ih =>
    cases h
    exact (ih hmore).mono fun l hl => by simp [hl]
  | case9 | case10 =>
    cases h
    exact marks_start (by simp)
  | case3 | case4 =>
    cases h
    exact marks_end
  | case6 | case8 => cases h

theorem marks_clause {root : Option Node} (h : clause size root ls = .error e) :
    Marks size ls e.offset := by
  unfold clause at h
  split at h
  · cases h
  · rename_i l ls
    split at h
    · split at h
      · rename_i ha
        cases h
        exact (marks_assignments ha).mono (List.subset_cons_self l ls)
      · cases h
    · cases h
      exact marks_start (List.mem_cons_self ..)

theorem marks_expression (h : expression size ls = .error e) : Marks size ls e.offset := by
  unfold expression at h
  split at h
  · exact marks_clause h
  · split at h
    · rename_i ht
      cases h
      exact places_tree size maxDepth ls _ ht
    · rename_i n rest _ ht
      exact (marks_clause h).mono ((sound_tree size maxDepth).rest_subset ht)

end StreamPolicy.Parser
