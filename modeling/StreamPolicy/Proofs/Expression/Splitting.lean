import StreamPolicy.Proofs.Expression.Matching

/-!
# How a text is split

A text is split from its beginning to its end, or to the first place where no pattern of tokens
matches (`Splits`). Each token stands at its offset in bytes and is the longest match there
(`StandsIn`); what is not in a token separates tokens.
-/

namespace StreamPolicy

namespace Lexeme

/-- The token of `l` is at its place in `text`, where no pattern has a longer match. -/
structure StandsIn (text : List Char) (l : Lexeme) : Prop where
  nonempty : l.start < l.stop
  /-- The text of the token is what stands from its start to its stop. -/
  longest : ∃ before after, text = before ++ (l.token.text ++ after) ∧
    Text.byteSize before = l.start ∧ l.token.IsLongest (l.token.text ++ after)

/-- The text is split into the tokens `ls` up to the byte `stop`. -/
structure SplitsUpTo (text : List Char) (stop : Nat) (ls : List Lexeme) : Prop where
  stands : ∀ l ∈ ls, l.StandsIn text ∧ l.stop ≤ stop
  ordered : ls.Pairwise fun l l' => l.stop ≤ l'.start
  /-- Nothing but separators is outside of the tokens. -/
  separated : ∀ before c after, text = before ++ c :: after → Text.byteSize before < stop →
    (∀ l ∈ ls, ¬(l.start ≤ Text.byteSize before ∧ Text.byteSize before < l.stop)) →
    isSeparator c = true

/-- What is wrong where no token begins is told by the character `c` there. -/
inductive Blames (c : Char) (behind : List Char) : ParseFault → Prop
  | quote : c = '"' ∨ c = '\'' → Blames c behind .unterminatedString
  | mark : c = '@' → Blames c behind
      (.malformedDynamicField (String.ofList ((c :: behind).takeWhile (!Text.isBlank ·))))
  | other : c ≠ '"' → c ≠ '\'' → c ≠ '@' → Blames c behind (.invalidCharacter c)

/-- A text is split as a whole, or up to a character at which no pattern matches. -/
inductive Splits (text : List Char) : Except ParseError (List Lexeme) → Prop
  | whole {ls : List Lexeme} : SplitsUpTo text (Text.byteSize text) ls → Splits text (.ok ls)
  | upTo {before behind : List Char} {c : Char} {ls : List Lexeme} {fault : ParseFault} :
    text = before ++ c :: behind → SplitsUpTo text (Text.byteSize before) ls →
    isSeparator c = false → (∀ w, Token.Matches w → ¬w <+: c :: behind) → Blames c behind fault →
    Splits text (.error ⟨fault, Text.byteSize before⟩)

variable {text cs rest passed : List Char} {ls : List Lexeme}

theorem splitsUpTo_nil (text : List Char) : SplitsUpTo text 0 [] where
  stands := List.forall_mem_nil _
  ordered := .nil
  separated _ _ _ _ h := absurd h (Nat.not_lt_zero _)

/-- A place inside a character is its beginning. -/
theorem eq_of_byteSize {before after : List Char} {c d : Char}
    (h : passed ++ c :: rest = before ++ d :: after)
    (hle : Text.byteSize passed ≤ Text.byteSize before)
    (hlt : Text.byteSize before < Text.byteSize passed + c.utf8Size) : c = d := by
  rcases List.append_eq_append_iff.1 h with ⟨between, rfl, hc⟩ | ⟨between, rfl, hd⟩
  · cases between with
    | nil => exact (List.cons.inj hc).1
    | cons x between =>
      obtain ⟨rfl, -⟩ := List.cons.inj hc
      simp only [Text.byteSize_append, Text.byteSize_cons] at hlt
      omega
  · cases between with
    | nil => exact (List.cons.inj hd).1.symm
    | cons x between =>
      have hpos := x.utf8Size_pos
      simp only [Text.byteSize_append, Text.byteSize_cons] at hle
      omega

theorem SplitsUpTo.separator {c : Char} (h : SplitsUpTo text (Text.byteSize passed) ls)
    (htext : text = passed ++ c :: rest) (hc : isSeparator c = true) :
    SplitsUpTo text (Text.byteSize (passed ++ [c])) ls where
  stands l hl := by
    obtain ⟨hstands, hstop⟩ := h.stands l hl
    refine ⟨hstands, ?_⟩
    rw [Text.byteSize_append]
    omega
  ordered := h.ordered
  separated before d after hsplit hlt houtside := by
    by_cases hbefore : Text.byteSize before < Text.byteSize passed
    · exact h.separated before d after hsplit hbefore houtside
    · simp only [Text.byteSize_append, Text.byteSize_cons, Text.byteSize_nil] at hlt
      rwa [← eq_of_byteSize (htext.symm.trans hsplit) (by omega) (by omega)]

theorem SplitsUpTo.token {t : Token} (h : SplitsUpTo text (Text.byteSize passed) ls)
    (htext : text = passed ++ (t.text ++ rest))
    (ht : Token.next? (t.text ++ rest) = some (t, rest)) :
    SplitsUpTo text (Text.byteSize (passed ++ t.text)) (ls ++ [⟨t, Text.byteSize passed⟩]) := by
  have hpos : 0 < Text.byteSize t.text := by
    obtain ⟨c, cs, hcs⟩ := List.exists_cons_of_ne_nil (Token.next?_append ht).2
    have := c.utf8Size_pos
    rw [hcs, Text.byteSize_cons]
    omega
  have hstop : stop ⟨t, Text.byteSize passed⟩ = Text.byteSize (passed ++ t.text) :=
    (Text.byteSize_append _ _).symm
  have hsize := Text.byteSize_append passed t.text
  refine ⟨?_, ?_, ?_⟩
  · rw [List.forall_mem_append, List.forall_mem_singleton]
    refine ⟨fun l hl => ?_, ⟨?_, passed, rest, htext, rfl, Token.isLongest_of_next? ht⟩, hstop.le⟩
    · obtain ⟨hstands, hle⟩ := h.stands l hl
      exact ⟨hstands, by omega⟩
    · rw [hstop, hsize]
      exact Nat.lt_add_of_pos_right hpos
  · rw [List.pairwise_append]
    refine ⟨h.ordered, List.pairwise_singleton _ _, fun l hl l' hl' => ?_⟩
    rw [List.mem_singleton.1 hl']
    exact (h.stands l hl).2
  · intro before c after hsplit hlt houtside
    rw [List.forall_mem_append, List.forall_mem_singleton, hstop] at houtside
    refine h.separated before c after hsplit ?_ houtside.1
    by_contra hge
    exact houtside.2 ⟨Nat.le_of_not_lt hge, hlt⟩

theorem blames_faultAt (c : Char) (behind : List Char) : Blames c behind (faultAt c behind) := by
  unfold faultAt
  split
  · rename_i h
    exact .quote (by simpa using h)
  · rename_i hquote
    simp only [Bool.or_eq_true, beq_iff_eq, not_or] at hquote
    split
    · rename_i h
      exact .mark (by simpa using h)
    · rename_i h
      exact .other hquote.1 hquote.2 (by simpa using h)

/-- The rest of a text is split behind `passed`, what has been split of it. -/
theorem splits_lexFrom (h : SplitsUpTo text (Text.byteSize passed) ls)
    (htext : text = passed ++ cs) :
    Splits text ((lexFrom (Text.byteSize passed) cs).map (ls ++ ·)) := by
  generalize hoffset : Text.byteSize passed = offset
  fun_induction lexFrom offset cs generalizing passed ls with
  | case1 =>
    rw [List.append_nil] at htext
    subst htext
    exact .whole (by simpa using h)
  | case2 offset c cs hc ih =>
    have hnext := h.separator htext hc
    exact ih hnext (by simp [htext]) (by simp [← hoffset])
  | case3 offset c cs hc hnone =>
    subst hoffset
    exact .upTo htext h (by simpa using hc) (fun _ => Token.not_matches_of_next? hnone)
      (blames_faultAt c cs)
  | case4 offset c cs hc t rest hread _ ih =>
    subst hoffset
    obtain ⟨hcs, -⟩ := Token.next?_append hread
    rw [hcs] at hread htext
    have hrest := ih (h.token htext hread) (by simp [htext]) (by simp)
    generalize lexFrom (Text.byteSize passed + Text.byteSize t.text) rest = r at hrest
    cases r with
    | error e => exact hrest
    | ok ls' => simpa [Except.map] using hrest

/-- Every text is split into the longest tokens with nothing but separators between them. If this
cannot be done, it is split up to the first character that no token begins with, which tells what is
wrong there. -/
theorem splits_lex (text : String) : Splits text.toList (lex text) := by
  have h := splits_lexFrom (splitsUpTo_nil text.toList) (List.nil_append _).symm
  generalize hr : lex text = r
  rw [show lexFrom (Text.byteSize []) text.toList = r from hr] at h
  cases r with
  | error e => exact h
  | ok ls => exact h

/-- Offsets count bytes, and a sign goes on as far as it can. -/
example : lex "'é' =~ !==" =
    .ok [⟨.quoted '\'' ['é'], 0⟩, ⟨.like, 5⟩, ⟨.notEqual, 8⟩, ⟨.assign, 10⟩] := by cbv

end Lexeme

end StreamPolicy
