/-!
# Blanks, line ends and comments

What may stand between the parts of a configuration file without meaning anything. Each part is read
by a `Reader`; `skipTrivia` passes what is between them.
-/

namespace StreamPolicy.Toml

/-- A reader takes something off the front of a text and returns what follows. -/
abbrev Reader (α : Type) := List Char → Option (α × List Char)

def isBlank (c : Char) : Bool := c == ' ' || c == '\t'

/-- Whether a character may stand in a comment or in a text on one line. -/
def isPlain (c : Char) : Bool := c == '\t' || (0x20 ≤ c.toNat && c.toNat != 0x7F)

def skipBlanks (cs : List Char) : List Char := cs.dropWhile isBlank

def newline? : List Char → Option (List Char)
  | '\n' :: cs => some cs
  | '\r' :: '\n' :: cs => some cs
  | _ => none

theorem length_newline? {cs rest : List Char} (h : newline? cs = some rest) :
    rest.length < cs.length := by
  unfold newline? at h
  split at h
  · simp_all
  · simp only [Option.some.injEq] at h
    simp only [List.length_cons, h]
    omega
  · simp at h

theorem length_dropWhile_le (p : Char → Bool) (cs : List Char) :
    (cs.dropWhile p).length ≤ cs.length := (List.dropWhile_sublist p).length_le

def skipTrivia (cs : List Char) : List Char :=
  match cs with
  | [] => []
  | c :: rest =>
    if isBlank c then skipTrivia rest
    else if c == '#' then skipTrivia (rest.dropWhile isPlain)
    else
      match h : newline? (c :: rest) with
      | some rest' =>
        have := length_newline? h
        skipTrivia rest'
      | none => c :: rest
  termination_by cs.length
  decreasing_by
    · simp
    · have := length_dropWhile_le isPlain rest
      simp only [List.length_cons]
      omega
    · assumption

def skipSpace (cs : List Char) : List Char :=
  match cs with
  | [] => []
  | c :: rest =>
    if isBlank c then skipSpace rest
    else
      match h : newline? (c :: rest) with
      | some rest' =>
        have := length_newline? h
        skipSpace rest'
      | none => c :: rest
  termination_by cs.length
  decreasing_by
    all_goals
      simp only [List.length_cons] at *
      omega

theorem length_skipSpace (cs : List Char) : (skipSpace cs).length ≤ cs.length := by
  fun_induction skipSpace cs with
  | case1 => simp
  | case2 c rest _ ih => simp only [List.length_cons]; omega
  | case3 c rest _ rest' _ h ih => omega
  | case4 => simp

/-- What follows the end of a line, before which blanks and a comment may stand. The end of the
text ends a line too. -/
def lineEnd? (cs : List Char) : Option (List Char) :=
  let cs := skipBlanks cs
  let cs := match cs with
    | '#' :: rest => rest.dropWhile isPlain
    | cs => cs
  if cs.isEmpty then some [] else newline? cs

/-- What was passed of `cs` to come to `rest`. -/
def passed (cs rest : List Char) : List Char := cs.take (cs.length - rest.length)

end StreamPolicy.Toml
