import Mathlib.Computability.Language
import StreamPolicy.Proofs.Expression.Lexing

/-!
# The longest match

The patterns of tokens (`patterns`) are regular languages. The token that `next?` reads at the front
of a text is the longest text there that matches any of them (`IsLongest`), and none is read only
where none matches.
-/

namespace StreamPolicy

open scoped Computability

/-! ## Patterns -/

/-- The texts of a single character that `p` holds of. -/
def Text.single (p : Char → Bool) : Language Char := {cs | ∃ c, p c = true ∧ cs = [c]}

theorem Text.singleton_mem_single {p : Char → Bool} {c : Char} (h : p c = true) :
    [c] ∈ single p := ⟨c, h, rfl⟩

theorem Text.mem_kstar_single {p : Char → Bool} {cs : List Char} :
    cs ∈ (single p)∗ ↔ cs.all p = true := by
  rw [Language.mem_kstar, List.all_eq_true]
  constructor
  · rintro ⟨pieces, rfl, hpieces⟩ c hc
    obtain ⟨piece, hpiece, hc⟩ := List.mem_flatten.1 hc
    obtain ⟨d, hd, rfl⟩ := hpieces piece hpiece
    rwa [List.mem_singleton.1 hc]
  · intro h
    have hpieces : cs = (cs.map fun c => [c]).flatten := by simp [← List.flatMap_def]
    exact ⟨_, hpieces, List.forall_mem_map.2 fun c hc => singleton_mem_single (h c hc)⟩

/-- A character between quotes that stands for itself, or one with a backslash. -/
def Quoted.part (quote : Char) : Language Char :=
  Text.single (fun c => c != quote && c != '\\') + {['\\']} * Text.single (· != '\n')

def Quoted.inside (quote : Char) : Language Char := (part quote)∗

namespace Token

/-- The tokens that can be written in one way only. -/
def signs : List Token :=
  [leftParen, rightParen, comma, assign, equal, notEqual, like, notLike, and, or, not]

def dynamicPattern : Language Char :=
  {dynamicMark} * (Text.single (· != ')'))∗ * {[')', ':']} *
    (Text.single isWordRest * (Text.single isWordRest)∗)

def quotedPattern (quote : Char) : Language Char := {[quote]} * Quoted.inside quote * {[quote]}

def wordPattern : Language Char := Text.single isWordStart * (Text.single isWordRest)∗

/-- The pattern of tokens such as `t`. -/
def pattern : Token → Language Char
  | dynamic _ _ => dynamicPattern
  | quoted quote _ => quotedPattern quote
  | word _ => wordPattern
  | sign => {sign.text}

def patterns : List (Language Char) :=
  signs.map (fun sign => {sign.text}) ++
    [dynamicPattern, quotedPattern '"', quotedPattern '\'', wordPattern]

/-- The text `cs` matches a pattern of tokens. -/
def Matches (cs : List Char) : Prop := ∃ p ∈ patterns, cs ∈ p

/-- The token `t` is the longest match of any pattern at the front of `cs`. -/
structure IsLongest (t : Token) (cs : List Char) : Prop where
  pattern : t.pattern ∈ patterns
  text : t.text ∈ t.pattern
  front : t.text <+: cs
  longest : ∀ w, Matches w → w <+: cs → w.length ≤ t.text.length

end Token

/-! ## Literals -/

namespace Quoted

variable {quote : Char} {cs rest : List Char}

theorem append_mem_inside {piece : List Char} (h : piece ∈ part quote) (hcs : cs ∈ inside quote) :
    piece ++ cs ∈ inside quote :=
  (mul_kstar_le_kstar : _ ≤ (part quote)∗) (Language.append_mem_mul h hcs)

theorem inside_cons {c : Char} (hq : c ≠ quote) (hb : c ≠ '\\') (h : cs ∈ inside quote) :
    c :: cs ∈ inside quote := by
  have hc : (c != quote && c != '\\') = true := by simp [hq, hb]
  exact append_mem_inside (Or.inl (Text.singleton_mem_single hc)) h

theorem inside_escaped {c : Char} (hc : c ≠ '\n') (h : cs ∈ inside quote) :
    '\\' :: c :: cs ∈ inside quote := by
  have hc : (c != '\n') = true := by simp [hc]
  have hpair : ['\\'] ++ [c] ∈ ({['\\']} * Text.single (· != '\n') : Language Char) :=
    Language.append_mem_mul rfl (Text.singleton_mem_single hc)
  exact append_mem_inside (Or.inr hpair) h

/-- The inside of a literal ends at the first quote that is not escaped. -/
theorem span_of_mem_inside (hquote : quote ≠ '\\') (h : cs ∈ inside quote) (rest : List Char) :
    span quote (cs ++ quote :: rest) = some (cs, rest) := by
  obtain ⟨pieces, rfl, hpieces⟩ := Language.mem_kstar.1 h
  clear h
  induction pieces with
  | nil =>
    rw [List.flatten_nil, List.nil_append, span, if_pos (beq_self_eq_true quote)]
    exact fun _ _ hb _ => hquote hb
  | cons piece pieces ih =>
    obtain ⟨hpiece, hpieces⟩ := List.forall_mem_cons.1 hpieces
    have hbehind := ih hpieces
    rw [List.flatten_cons, List.append_assoc]
    rcases hpiece with ⟨c, hc, rfl⟩ | hpair
    · simp only [Bool.and_eq_true, bne_iff_ne] at hc
      rw [List.singleton_append, span, if_neg (by simpa using hc.1), if_neg (by simpa using hc.2),
        hbehind]
      · rfl
      · exact fun _ _ hb _ => hc.2 hb
    · obtain ⟨-, rfl, -, ⟨c, hc, rfl⟩, rfl⟩ := Language.mem_mul.1 hpair
      show span quote ('\\' :: c :: (pieces.flatten ++ quote :: rest)) = _
      rw [span, if_neg (by simpa using hc), hbehind]
      rfl

theorem mem_inside_of_span {inner : List Char} (h : span quote cs = some (inner, rest)) :
    inner ∈ inside quote := by
  fun_induction span quote cs generalizing inner with
  | case1 => cases h
  | case2 => cases h
  | case3 c cs hc ih =>
    obtain ⟨r, hr, he⟩ := Option.map_eq_some_iff.1 h
    cases he
    exact inside_escaped (by simpa using hc) (ih hr)
  | case4 =>
    cases h
    exact Language.nil_mem_kstar _
  | case5 => cases h
  | case6 c cs _ hq hb ih =>
    obtain ⟨r, hr, he⟩ := Option.map_eq_some_iff.1 h
    cases he
    exact inside_cons (by simpa using hq) (by simpa using hb) (ih hr)

end Quoted

/-! ## The longest match -/

namespace Token

variable {cs rest w : List Char} {t : Token}

theorem mem_dynamicPattern : w ∈ dynamicPattern ↔
    ∃ scope key, w = (dynamic scope key).text ∧ (∀ c ∈ scope, c ≠ ')') ∧ key ≠ [] ∧
      key.all isWordRest = true := by
  simp only [dynamicPattern, Language.mem_mul, Text.mem_kstar_single]
  constructor
  · rintro ⟨_, ⟨_, ⟨_, rfl, scope, hscope, rfl⟩, _, rfl, rfl⟩, _, ⟨_, ⟨c, hc, rfl⟩, key, hkey, rfl⟩,
      rfl⟩
    refine ⟨scope, c :: key, by simp [text], by simpa using hscope, List.cons_ne_nil _ _, ?_⟩
    rw [List.all_cons, hc, hkey]
    rfl
  · rintro ⟨scope, key, rfl, hscope, hne, hkey⟩
    obtain ⟨c, key, rfl⟩ := List.exists_cons_of_ne_nil hne
    simp only [List.all_cons, Bool.and_eq_true] at hkey
    refine ⟨_, ⟨_, ⟨_, rfl, scope, by simpa using hscope, rfl⟩, _, rfl, rfl⟩, _,
      ⟨_, Text.singleton_mem_single hkey.1, key, hkey.2, rfl⟩, by simp [text]⟩

theorem mem_quotedPattern {quote : Char} : w ∈ quotedPattern quote ↔
    ∃ inner ∈ Quoted.inside quote, w = (quoted quote inner).text := by
  simp only [quotedPattern, Language.mem_mul]
  constructor
  · rintro ⟨_, ⟨_, rfl, inner, hinner, rfl⟩, _, rfl, rfl⟩
    exact ⟨inner, hinner, rfl⟩
  · rintro ⟨inner, hinner, rfl⟩
    exact ⟨_, ⟨_, rfl, inner, hinner, rfl⟩, _, rfl, rfl⟩

theorem mem_wordPattern : w ∈ wordPattern ↔ isWord w = true := by
  simp only [wordPattern, Language.mem_mul, Text.mem_kstar_single]
  constructor
  · rintro ⟨_, ⟨c, hc, rfl⟩, cs, hcs, rfl⟩
    simp [isWord, hc, hcs]
  · intro h
    cases w with
    | nil => cases h
    | cons c cs =>
      simp only [isWord, Bool.and_eq_true] at h
      exact ⟨_, Text.singleton_mem_single h.1, cs, h.2, rfl⟩

theorem stops_dropWhile (cs : List Char) : Stops (cs.dropWhile isWordRest) := by
  intro c hc
  have hhead := List.head?_dropWhile_not isWordRest cs
  rwa [Option.mem_def.1 hc] at hhead

/-- A token that is read matches its pattern. -/
theorem dynamic?_matches (h : dynamic? cs = some (t, rest)) :
    t.pattern ∈ patterns ∧ t.text ∈ t.pattern := by
  unfold dynamic? at h
  split at h
  · split at h
    · rename_i scope c rest' hsplit
      split at h
      · rename_i hc
        cases h
        obtain ⟨_, -, -, hscope⟩ := Text.splitOnce_eq_some hsplit
        refine ⟨by simp [patterns, pattern], mem_dynamicPattern.2 ⟨scope, _, rfl, ?_, nofun, ?_⟩⟩
        · simpa using hscope
        · simp [hc, List.all_takeWhile]
      · cases h
    · cases h
  · cases h

theorem next?_matches (h : next? cs = some (t, rest)) :
    t.pattern ∈ patterns ∧ t.text ∈ t.pattern := by
  unfold next? at h
  split at h
  case h_12 => exact dynamic?_matches h
  case h_13 | h_14 =>
    obtain ⟨r, hr, he⟩ := Option.map_eq_some_iff.1 h
    cases he
    exact ⟨by simp [patterns, pattern],
      mem_quotedPattern.2 ⟨r.1, Quoted.mem_inside_of_span hr, rfl⟩⟩
  case h_15 c cs _ _ _ _ _ _ _ _ _ _ _ _ _ _ =>
    split at h
    · rename_i hc
      cases h
      refine ⟨by simp [patterns, pattern], mem_wordPattern.2 ?_⟩
      simp [text, isWord, hc, List.all_takeWhile]
    · cases h
  case h_16 => cases h
  -- All others are signs.
  all_goals
    cases h
    exact ⟨List.mem_append_left _ (List.mem_map.2 ⟨_, by simp [signs], rfl⟩), rfl⟩

/-- Where a text begins with a sign, a token is read that is not shorter. -/
theorem exists_next?_of_sign {s : Token} (hs : s ∈ signs) (behind : List Char) :
    ∃ t rest, next? (s.text ++ behind) = some (t, rest) ∧ s.text.length ≤ t.text.length := by
  have hsome : ∀ {c : Char}, c = '=' ∨ c = '!' →
      ∃ t rest, next? (c :: behind) = some (t, rest) := by
    intro c hc
    unfold next?
    split <;> grind
  have hshort : ∀ {c : Char}, c = '=' ∨ c = '!' →
      ∃ t rest, next? (c :: behind) = some (t, rest) ∧ 1 ≤ t.text.length := by
    intro c hc
    obtain ⟨t, rest, h⟩ := hsome hc
    exact ⟨t, rest, h, List.length_pos_iff.2 (next?_append h).2⟩
  simp only [signs, List.mem_cons, List.not_mem_nil, or_false] at hs
  rcases hs with rfl | rfl | rfl | rfl | rfl | rfl | rfl | rfl | rfl | rfl | rfl
  case inr.inr.inr.inl => exact hshort (.inl rfl)
  case inr.inr.inr.inr.inr.inr.inr.inr.inr.inr => exact hshort (.inr rfl)
  all_goals exact ⟨_, _, rfl, Nat.le_refl _⟩

theorem next?_literal {quote : Char} {inner : List Char} (hquote : quote = '"' ∨ quote = '\'')
    (hinner : inner ∈ Quoted.inside quote) (behind : List Char) :
    next? ((quoted quote inner).text ++ behind) = some (quoted quote inner, behind) := by
  have happ : (quoted quote inner).text ++ behind = quote :: (inner ++ quote :: behind) := by
    simp [text]
  rcases hquote with rfl | rfl <;>
  · rw [happ, next?, Quoted.span_of_mem_inside (by decide) hinner]
    rfl

theorem isWord_append (hw : isWord w = true) (hmore : cs.all isWordRest = true) :
    isWord (w ++ cs) = true := by
  cases w with
  | nil => cases hw
  | cons c w =>
    simp only [isWord, Bool.and_eq_true] at hw
    simp [isWord, hw, hmore]

/-- Where a text begins with a match of a pattern, a token is read that is not shorter. -/
theorem exists_next?_of_matches (hw : Matches w) (hfront : w <+: cs) :
    ∃ t rest, next? cs = some (t, rest) ∧ w.length ≤ t.text.length := by
  obtain ⟨behind, rfl⟩ := hfront
  obtain ⟨p, hp, hw⟩ := hw
  -- A key and a word go on as far as their characters do.
  let more := behind.takeWhile isWordRest
  have hmore : more.all isWordRest = true := List.all_takeWhile
  have hbehind : behind = more ++ behind.dropWhile isWordRest :=
    List.takeWhile_append_dropWhile.symm
  have hstops := stops_dropWhile behind
  simp only [patterns, List.mem_append, List.mem_map, List.mem_cons, List.not_mem_nil,
    or_false] at hp
  rcases hp with ⟨sign, hsign, rfl⟩ | rfl | rfl | rfl | rfl
  · obtain rfl : w = sign.text := hw
    exact exists_next?_of_sign hsign behind
  · obtain ⟨scope, key, rfl, hscope, hne, hkey⟩ := mem_dynamicPattern.1 hw
    have hne' : key ++ more ≠ [] := by simp [hne]
    have hall : (key ++ more).all isWordRest = true := by
      rw [List.all_append, hkey, hmore]
      rfl
    have hread := next?_dynamic hscope hne' hall hstops
    have happ : (dynamic scope key).text ++ behind =
        dynamicMark ++ scope ++ ')' :: ':' :: (key ++ more) ++ behind.dropWhile isWordRest := by
      conv_lhs => rw [hbehind]
      simp [text]
    exact ⟨_, _, happ ▸ hread, by simp [text]⟩
  · obtain ⟨inner, hinner, rfl⟩ := mem_quotedPattern.1 hw
    exact ⟨_, _, next?_literal (.inl rfl) hinner behind, Nat.le_refl _⟩
  · obtain ⟨inner, hinner, rfl⟩ := mem_quotedPattern.1 hw
    exact ⟨_, _, next?_literal (.inr rfl) hinner behind, Nat.le_refl _⟩
  · have hread := next?_word (isWord_append (mem_wordPattern.1 hw) hmore) hstops
    rw [List.append_assoc, ← hbehind] at hread
    exact ⟨_, _, hread, by simp [text]⟩

theorem isLongest_of_next? (h : next? cs = some (t, rest)) : t.IsLongest cs where
  pattern := (next?_matches h).1
  text := (next?_matches h).2
  front := ⟨rest, (next?_append h).1.symm⟩
  longest w hw hfront := by
    obtain ⟨t', rest', h', hlength⟩ := exists_next?_of_matches hw hfront
    cases h.symm.trans h'
    exact hlength

theorem not_matches_of_next? (h : next? cs = none) (hw : Matches w) : ¬w <+: cs := by
  intro hfront
  obtain ⟨t, rest, h', -⟩ := exists_next?_of_matches hw hfront
  cases h.symm.trans h'

end Token

end StreamPolicy
