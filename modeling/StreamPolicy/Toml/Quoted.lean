import StreamPolicy.Text.Ascii
import StreamPolicy.Toml.Trivia

/-!
# Texts in quotes

Double quotes enclose texts with escapes (`basic?`), single quotes texts without (`literal?`). Three
quotes enclose texts of several lines (`multi?`), in which one or two quotes may stand and a
backslash joins lines.
-/

namespace StreamPolicy.Toml

/-! ## Escapes -/

/-- The character whose number is written in `count` hexadecimal digits. -/
def codePoint? (count : Nat) (cs : List Char) : Option (Char × List Char) :=
  let digits := cs.take count
  let n := Text.ofDigits 16 digits
  if digits.length == count && digits.all Text.isHexDigit && n.isValidChar then
    some (Char.ofNat n, cs.drop count)
  else none

/-- The character that is written behind a backslash. -/
def escape? : List Char → Option (Char × List Char)
  | 'b' :: cs => some ('\x08', cs)
  | 't' :: cs => some ('\t', cs)
  | 'n' :: cs => some ('\n', cs)
  | 'f' :: cs => some ('\x0c', cs)
  | 'r' :: cs => some ('\r', cs)
  | '"' :: cs => some ('"', cs)
  | '\\' :: cs => some ('\\', cs)
  | 'u' :: cs => codePoint? 4 cs
  | 'U' :: cs => codePoint? 8 cs
  | _ => none

theorem length_codePoint? {count : Nat} {cs rest : List Char} {c : Char}
    (h : codePoint? count cs = some (c, rest)) : rest.length ≤ cs.length := by
  simp only [codePoint?, Option.ite_none_right_eq_some, Option.some.injEq, Prod.mk.injEq] at h
  rw [← h.2.2, List.length_drop]
  omega

theorem length_escape? {cs rest : List Char} {c : Char} (h : escape? cs = some (c, rest)) :
    rest.length < cs.length := by
  unfold escape? at h
  split at h
  all_goals first
    | exact Nat.lt_succ_of_le (length_codePoint? h)
    | (simp only [Option.some.injEq, Prod.mk.injEq] at h; simp [h.2])
    | simp at h

/-! ## Texts on one line -/

/-- The inside of a text in double quotes, whose first one has been passed. -/
def basic? : Reader (List Char)
  | [] => none
  | c :: cs =>
    if c == '"' then some ([], cs)
    else if c == '\\' then
      match h : escape? cs with
      | none => none
      | some (d, rest) =>
        have := length_escape? h
        (basic? rest).map fun r => (d :: r.1, r.2)
    else if isPlain c then (basic? cs).map fun r => (c :: r.1, r.2)
    else none
  termination_by cs => cs.length
  decreasing_by all_goals (simp only [List.length_cons]; omega)

/-- The inside of a text in single quotes, whose first one has been passed. -/
def literal? : Reader (List Char)
  | [] => none
  | c :: cs =>
    if c == '\'' then some ([], cs)
    else if isPlain c then (literal? cs).map fun r => (c :: r.1, r.2)
    else none

/-! ## Texts of several lines -/

/-- What follows a backslash that joins lines: blanks with a line end among them. -/
def joined? (cs : List Char) : Option (List Char) := (newline? (skipBlanks cs)).map skipSpace

theorem length_joined? {cs rest : List Char} (h : joined? cs = some rest) :
    rest.length < cs.length := by
  obtain ⟨r, hr, rfl⟩ := Option.map_eq_some_iff.1 h
  have h1 := length_newline? hr
  have h2 := length_skipSpace r
  have h3 := length_dropWhile_le isBlank cs
  simp only [skipBlanks] at h1
  omega

/-- The inside of a text of several lines, whose three opening `quote`s have been passed. -/
def multi? (quote : Char) (hasEscapes : Bool) : Reader (List Char)
  | [] => none
  | c :: cs =>
    if c == quote then
      let run := ((c :: cs).takeWhile (· == quote)).length
      if run < 3 then (multi? quote hasEscapes cs).map fun r => (c :: r.1, r.2)
      else if run ≤ 5 then some (List.replicate (run - 3) quote, (c :: cs).drop run)
      else none
    else if c == '\\' && hasEscapes then
      match h : joined? cs with
      | some rest =>
        have := length_joined? h
        multi? quote hasEscapes rest
      | none =>
        match h : escape? cs with
        | none => none
        | some (d, rest) =>
          have := length_escape? h
          (multi? quote hasEscapes rest).map fun r => (d :: r.1, r.2)
    else if isPlain c then (multi? quote hasEscapes cs).map fun r => (c :: r.1, r.2)
    else
      match h : newline? (c :: cs) with
      | none => none
      | some rest =>
        have := length_newline? h
        (multi? quote hasEscapes rest).map fun r => ('\n' :: r.1, r.2)
  termination_by cs => cs.length
  decreasing_by all_goals (simp only [List.length_cons] at *; omega)

/-- Skips a line end right behind the opening quotes, which does not count. -/
def multiBody? (quote : Char) (hasEscapes : Bool) (cs : List Char) :
    Option (List Char × List Char) :=
  multi? quote hasEscapes ((newline? cs).getD cs)

/-- A text in quotes of any kind. -/
def quoted? : Reader String
  | '"' :: '"' :: '"' :: cs => (multiBody? '"' true cs).map fun r => (String.ofList r.1, r.2)
  | '"' :: cs => (basic? cs).map fun r => (String.ofList r.1, r.2)
  | '\'' :: '\'' :: '\'' :: cs =>
    (multiBody? '\'' false cs).map fun r => (String.ofList r.1, r.2)
  | '\'' :: cs => (literal? cs).map fun r => (String.ofList r.1, r.2)
  | _ => none

end StreamPolicy.Toml
