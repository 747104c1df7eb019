import StreamPolicy.Expression.Quoted
import StreamPolicy.Text.Basic

/-!
# Tokens

The tokens of expressions and how each is read off the front of a text (`next?`). Keywords and word
operators are plain words here and are told apart by the parser.
-/

namespace StreamPolicy

inductive Token
  | leftParen
  | rightParen
  | comma
  | assign
  | equal
  | notEqual
  | like
  | notLike
  | and
  | or
  | not
  /-- A dynamic field: its scope as written and its key. -/
  | dynamic (scope key : List Char)
  /-- A literal: its quote and what stands between the quotes, escapes included. -/
  | quoted (quote : Char) (inside : List Char)
  | word (text : List Char)
  deriving DecidableEq, Repr

namespace Token

/-- The characters that may begin a word. -/
def isWordStart (c : Char) : Bool := c.isAlphanum || c == '_'

/-- The characters that may stand inside a word, and in the key of a dynamic field. -/
def isWordRest (c : Char) : Bool := isWordStart c || c == '.' || c == '-'

def dynamicMark : List Char := "@dynamic(".toList

def text : Token → List Char
  | leftParen => ['(']
  | rightParen => [')']
  | comma => [',']
  | assign => ['=']
  | equal => ['=', '=']
  | notEqual => ['!', '=']
  | like => ['=', '~']
  | notLike => ['!', '~']
  | and => ['&', '&']
  | or => ['|', '|']
  | not => ['!']
  | dynamic scope key => dynamicMark ++ scope ++ ')' :: ':' :: key
  | quoted quote inside => quote :: inside ++ [quote]
  | word text => text

/-- The token as a string, which is how errors show it. -/
def string (t : Token) : String := String.ofList t.text

/-- Reads a dynamic field: `dynamicMark`, a scope without closing parentheses, and a key. -/
def dynamic? (cs : List Char) : Option (Token × List Char) :=
  if dynamicMark.isPrefixOf cs then
    match Text.splitOnce (· == ')') (cs.drop dynamicMark.length) with
    | some (scope, ':' :: c :: rest) =>
      if isWordRest c then
        let key := c :: rest.takeWhile isWordRest
        some (dynamic scope key, rest.dropWhile isWordRest)
      else none
    | _ => none
  else none

/-- The longest token at the front of a text, and what follows it. -/
def next? : List Char → Option (Token × List Char)
  | '(' :: rest => some (leftParen, rest)
  | ')' :: rest => some (rightParen, rest)
  | ',' :: rest => some (comma, rest)
  | '=' :: '=' :: rest => some (equal, rest)
  | '=' :: '~' :: rest => some (like, rest)
  | '=' :: rest => some (assign, rest)
  | '!' :: '=' :: rest => some (notEqual, rest)
  | '!' :: '~' :: rest => some (notLike, rest)
  | '!' :: rest => some (not, rest)
  | '&' :: '&' :: rest => some (and, rest)
  | '|' :: '|' :: rest => some (or, rest)
  | '@' :: rest => dynamic? ('@' :: rest)
  | '"' :: rest => (Quoted.span '"' rest).map fun r => (quoted '"' r.1, r.2)
  | '\'' :: rest => (Quoted.span '\'' rest).map fun r => (quoted '\'' r.1, r.2)
  | c :: rest =>
    if isWordStart c then some (word (c :: rest.takeWhile isWordRest), rest.dropWhile isWordRest)
    else none
  | [] => none

theorem dynamic?_append {cs rest : List Char} {t : Token} (h : dynamic? cs = some (t, rest)) :
    cs = t.text ++ rest ∧ t.text ≠ [] := by
  unfold dynamic? at h
  split at h
  · rename_i hmark
    obtain ⟨tail, rfl⟩ := List.isPrefixOf_iff_prefix.1 hmark
    rw [List.drop_left] at h
    split at h
    · rename_i hs
      split at h
      · simp only [Option.some.injEq, Prod.mk.injEq] at h
        obtain ⟨rfl, rfl⟩ := h
        obtain ⟨p, hp, rfl, -⟩ := Text.splitOnce_eq_some hs
        simp [text, beq_iff_eq.1 hp, List.takeWhile_append_dropWhile]
      · simp at h
    · simp at h
  · simp at h

/-- The text of a token that `next?` reads is not empty, and what was read begins with it. -/
theorem next?_append {cs rest : List Char} {t : Token} (h : next? cs = some (t, rest)) :
    cs = t.text ++ rest ∧ t.text ≠ [] := by
  unfold next? at h
  split at h
  all_goals first
    | exact dynamic?_append h
    | (obtain ⟨r, hr, he⟩ := Option.map_eq_some_iff.1 h
       simp only [Prod.mk.injEq] at he
       obtain ⟨rfl, rfl⟩ := he
       simp [text, Quoted.span_append hr])
    | (simp only [Option.some.injEq, Prod.mk.injEq] at h
       obtain ⟨rfl, rfl⟩ := h
       simp [text])
    | (split at h
       · simp only [Option.some.injEq, Prod.mk.injEq] at h
         obtain ⟨rfl, rfl⟩ := h
         simp [text, List.takeWhile_append_dropWhile]
       · simp at h)

theorem length_next? {cs rest : List Char} {t : Token} (h : next? cs = some (t, rest)) :
    rest.length < cs.length := by
  obtain ⟨rfl, hne⟩ := next?_append h
  have := List.length_pos_iff.2 hne
  simp only [List.length_append]
  omega

end Token

end StreamPolicy
