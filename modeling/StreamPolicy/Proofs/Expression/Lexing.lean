import StreamPolicy.Expression.Lexer
import StreamPolicy.Proofs.Expression.Reading

/-!
# Texts and their tokens

What has to stand in a text to give each of the tokens in which expressions are written (`Lexes`),
and what can be inside the tokens of any text (`Lexical`). A word ends where a character follows
that no word has (`Stops`).
-/

namespace StreamPolicy

/-! ## Quoted literals -/

namespace Quoted

theorem escape_cases (c : Char) :
    (∃ d, d ≠ '\n' ∧ unescape d = c ∧ escape c = ['\\', d]) ∨
      c ≠ '"' ∧ c ≠ '\\' ∧ escape c = [c] := by
  unfold escape
  split
  · exact .inl ⟨_, by decide, rfl, rfl⟩
  · exact .inl ⟨_, by decide, rfl, rfl⟩
  · exact .inl ⟨'n', by decide, rfl, rfl⟩
  · exact .inl ⟨'t', by decide, rfl, rfl⟩
  · rename_i hq hb _ _
    exact .inr ⟨hq, hb, rfl⟩

/-- The closing quote is found behind the escaped text. -/
theorem span_escape (cs rest : List Char) :
    span '"' (cs.flatMap escape ++ '"' :: rest) = some (cs.flatMap escape, rest) := by
  induction cs with
  | nil => rfl
  | cons c cs ih =>
    rw [List.flatMap_cons, List.append_assoc]
    obtain ⟨d, hd, -, he⟩ | ⟨hq, hb, he⟩ := escape_cases c
    · rw [he]
      show span '"' ('\\' :: d :: (cs.flatMap escape ++ '"' :: rest)) = _
      rw [span, if_neg (by simpa using hd), ih]
      rfl
    · rw [he]
      show span '"' (c :: (cs.flatMap escape ++ '"' :: rest)) = _
      rw [span, if_neg (by simpa using hq), if_neg (by simpa using hb), ih]
      · rfl
      · exact fun _ _ h _ => hb h

theorem resolve_escape (cs : List Char) : resolve (cs.flatMap escape) = cs := by
  induction cs with
  | nil => rfl
  | cons c cs ih =>
    rw [List.flatMap_cons]
    obtain ⟨d, -, hd, he⟩ | ⟨-, hb, he⟩ := escape_cases c
    · rw [he]
      show unescape d :: resolve (cs.flatMap escape) = c :: cs
      rw [hd, ih]
    · rw [he, List.singleton_append, resolve, ih]
      exact fun _ _ h _ => hb h

end Quoted

/-! ## Words -/

namespace Token

/-- The characters of a word: the first one is a letter, a digit or an underscore. -/
def isWord : List Char → Bool
  | [] => false
  | c :: cs => isWordStart c && cs.all isWordRest

/-- A word can end in front of `rest`. -/
def Stops (rest : List Char) : Prop := ∀ c ∈ rest.head?, isWordRest c = false

theorem stops_nil : Stops [] := nofun

theorem stops_cons {c : Char} {cs : List Char} (h : isWordRest c = false) : Stops (c :: cs) := by
  rintro _ ⟨⟩
  exact h

theorem takeWhile_append {cs rest : List Char} (hcs : cs.all isWordRest = true)
    (hrest : Stops rest) : (cs ++ rest).takeWhile isWordRest = cs := by
  have hnone : rest.takeWhile isWordRest = [] := by
    cases rest with
    | nil => rfl
    | cons c rest => simp [hrest c rfl]
  rw [List.takeWhile_append_of_pos (List.all_eq_true.1 hcs), hnone, List.append_nil]

theorem dropWhile_append {cs rest : List Char} (hcs : cs.all isWordRest = true)
    (hrest : Stops rest) : (cs ++ rest).dropWhile isWordRest = rest := by
  have hall : rest.dropWhile isWordRest = rest := by
    cases rest with
    | nil => rfl
    | cons c rest => simp [hrest c rfl]
  rw [List.dropWhile_append_of_pos (List.all_eq_true.1 hcs), hall]

theorem next?_word {w rest : List Char} (hw : isWord w = true) (hrest : Stops rest) :
    next? (w ++ rest) = some (word w, rest) := by
  cases w with
  | nil => cases hw
  | cons c cs =>
    simp only [isWord, Bool.and_eq_true] at hw
    obtain ⟨hc, hcs⟩ := hw
    rw [List.cons_append, next?, if_pos hc, takeWhile_append hcs hrest, dropWhile_append hcs hrest]
    -- No sign begins with a character that begins words.
    all_goals
      intros
      subst_vars
      exact absurd hc (by decide)

theorem splitOnce_append {p : Char → Bool} {c : Char} {cs : List Char}
    (hcs : ∀ x ∈ cs, p x = false) (hc : p c = true) (rest : List Char) :
    Text.splitOnce p (cs ++ c :: rest) = some (cs, rest) := by
  induction cs with
  | nil => simp [Text.splitOnce, hc]
  | cons x cs ih =>
    obtain ⟨hx, hcs⟩ := List.forall_mem_cons.1 hcs
    rw [List.cons_append, Text.splitOnce, if_neg (by simp [hx]), ih hcs]
    rfl

theorem next?_dynamic {scope key rest : List Char} (hscope : ∀ c ∈ scope, c ≠ ')')
    (hne : key ≠ []) (hkey : key.all isWordRest = true) (hrest : Stops rest) :
    next? (dynamicMark ++ scope ++ ')' :: ':' :: key ++ rest) =
      some (dynamic scope key, rest) := by
  have happ : dynamicMark ++ scope ++ ')' :: ':' :: key ++ rest =
      dynamicMark ++ (scope ++ ')' :: (':' :: key ++ rest)) := by simp
  have hsplit := splitOnce_append (p := (· == ')')) (by simpa using hscope) (beq_self_eq_true ')')
    (':' :: key ++ rest)
  rw [happ]
  show dynamic? (dynamicMark ++ (scope ++ ')' :: (':' :: key ++ rest))) = _
  cases key with
  | nil => exact absurd rfl hne
  | cons c cs =>
    simp only [List.all_cons, Bool.and_eq_true] at hkey
    obtain ⟨hc, hcs⟩ := hkey
    rw [dynamic?, if_pos (List.isPrefixOf_iff_prefix.2 (List.prefix_append _ _)), List.drop_left,
      hsplit]
    simp only [List.cons_append, hc, if_true, takeWhile_append hcs hrest,
      dropWhile_append hcs hrest]

theorem next?_quoted (cs rest : List Char) :
    next? (Quoted.encode cs ++ rest) = some (quoted '"' (cs.flatMap Quoted.escape), rest) := by
  have happ : Quoted.encode cs ++ rest = '"' :: (cs.flatMap Quoted.escape ++ '"' :: rest) := by
    simp [Quoted.encode]
  rw [happ, next?, Quoted.span_escape]
  rfl

end Token

/-! ## Lexing -/

namespace Lexeme

open StreamPolicy.Parser (tokens)

/-- The text `cs` has the tokens `ts`, at whatever offset it stands. -/
def Lexes (cs : List Char) (ts : List Token) : Prop :=
  ∀ offset, ∃ ls, lexFrom offset cs = .ok ls ∧ tokens ls = ts

variable {cs rest : List Char} {ts : List Token}

theorem lexes_nil : Lexes [] [] := fun offset => ⟨[], by rw [lexFrom], rfl⟩

theorem lexes_separator {c : Char} (hc : isSeparator c = true) (h : Lexes cs ts) :
    Lexes (c :: cs) ts := by
  intro offset
  obtain ⟨ls, hls, hts⟩ := h (offset + c.utf8Size)
  exact ⟨ls, by rw [lexFrom, if_pos hc, hls], hts⟩

theorem lexFrom_token {c : Char} {t : Token} (hc : isSeparator c = false)
    (ht : Token.next? (c :: cs) = some (t, rest)) (offset : Nat) :
    lexFrom offset (c :: cs) =
      (lexFrom (offset + Text.byteSize t.text) rest).map (⟨t, offset⟩ :: ·) := by
  rw [lexFrom, if_neg (by simp [hc])]
  split
  · rename_i hn
    rw [ht] at hn
    cases hn
  · rename_i t' rest' hn
    rw [ht] at hn
    cases hn
    rfl

theorem lexes_token {c : Char} {t : Token} (hc : isSeparator c = false)
    (ht : Token.next? (c :: cs) = some (t, rest)) (h : Lexes rest ts) :
    Lexes (c :: cs) (t :: ts) := by
  intro offset
  obtain ⟨ls, hls, hts⟩ := h (offset + Text.byteSize t.text)
  refine ⟨⟨t, offset⟩ :: ls, ?_, ?_⟩
  · rw [lexFrom_token hc ht, hls]
    rfl
  · rw [Parser.tokens_cons, hts]

theorem lexes_word {w : List Char} (hw : Token.isWord w = true) (hrest : Token.Stops rest)
    (h : Lexes rest ts) : Lexes (w ++ rest) (.word w :: ts) := by
  cases w with
  | nil => cases hw
  | cons c cs =>
    have hc : isSeparator c = false := by
      simp only [Token.isWord, Bool.and_eq_true] at hw
      cases hsep : isSeparator c with
      | false => rfl
      | true =>
        simp only [isSeparator, Bool.or_eq_true, beq_iff_eq] at hsep
        rcases hsep with (((rfl | rfl) | rfl) | rfl) | rfl <;> exact absurd hw.1 (by decide)
    exact lexes_token hc (Token.next?_word hw hrest) h

theorem lexes_dynamic {scope key : List Char} (hscope : ∀ c ∈ scope, c ≠ ')') (hne : key ≠ [])
    (hkey : key.all Token.isWordRest = true) (hrest : Token.Stops rest) (h : Lexes rest ts) :
    Lexes (Token.dynamicMark ++ scope ++ ')' :: ':' :: key ++ rest) (.dynamic scope key :: ts) :=
  lexes_token rfl (Token.next?_dynamic hscope hne hkey hrest) h

theorem lexes_quoted (cs : List Char) (h : Lexes rest ts) :
    Lexes (Quoted.encode cs ++ rest) (.quoted '"' (cs.flatMap Quoted.escape) :: ts) :=
  lexes_token rfl (Token.next?_quoted cs rest) h

theorem lexes_leftParen (h : Lexes cs ts) : Lexes ('(' :: cs) (.leftParen :: ts) :=
  lexes_token rfl rfl h

theorem lexes_rightParen (h : Lexes cs ts) : Lexes (')' :: cs) (.rightParen :: ts) :=
  lexes_token rfl rfl h

theorem lexes_comma (h : Lexes cs ts) : Lexes (',' :: cs) (.comma :: ts) :=
  lexes_token rfl rfl h

/-- The sign is set apart from what follows, which may be a sign, too. -/
theorem lexes_assign (h : Lexes cs ts) : Lexes ('=' :: ' ' :: cs) (.assign :: ts) :=
  lexes_token rfl rfl (lexes_separator rfl h)

/-! ## Tokens of any text -/

end Lexeme

namespace Token

/-- What a token is like that some text has. -/
def Lexical : Token → Prop
  | word w => isWord w = true
  | dynamic _ key => key ≠ [] ∧ key.all isWordRest = true
  | _ => True

theorem dynamic?_lexical {cs rest : List Char} {t : Token} (h : dynamic? cs = some (t, rest)) :
    t.Lexical := by
  unfold dynamic? at h
  split at h
  · split at h
    · split at h
      · rename_i hc
        cases h
        exact ⟨nofun, by simp [hc, List.all_takeWhile]⟩
      · cases h
    · cases h
  · cases h

theorem next?_lexical {cs rest : List Char} {t : Token} (h : next? cs = some (t, rest)) :
    t.Lexical := by
  unfold next? at h
  split at h
  case h_12 => exact dynamic?_lexical h
  case h_15 c cs _ _ _ _ _ _ _ _ _ _ _ _ _ _ =>
    split at h
    · rename_i hc
      cases h
      simp [Lexical, isWord, hc, List.all_takeWhile]
    · cases h
  case h_16 => cases h
  case h_13 | h_14 =>
    obtain ⟨r, -, he⟩ := Option.map_eq_some_iff.1 h
    cases he
    exact trivial
  all_goals
    cases h
    exact trivial

end Token

namespace Lexeme

theorem lexFrom_lexical {offset : Nat} {cs : List Char} {ls : List Lexeme}
    (h : lexFrom offset cs = .ok ls) : ∀ l ∈ ls, l.token.Lexical := by
  fun_induction lexFrom offset cs generalizing ls with
  | case1 =>
    cases h
    exact nofun
  | case2 _ _ _ _ ih => exact ih h
  | case3 => cases h
  | case4 offset c cs hc t rest hn _ ih =>
    cases hl : lexFrom (offset + Text.byteSize t.text) rest with
    | error e =>
      rw [hl] at h
      cases h
    | ok ls' =>
      rw [hl] at h
      cases h
      exact List.forall_mem_cons.2 ⟨Token.next?_lexical hn, ih hl⟩

end Lexeme

end StreamPolicy
