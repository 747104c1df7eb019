import StreamPolicy.Toml.Number
import StreamPolicy.Toml.Quoted
import StreamPolicy.Toml.Table

/-!
# Keys and values

Values nest in lists and in tables on one line, down to `maxDepth`: `value? levels` tells the
readers of lists and tables how to read the values inside them.
-/

namespace StreamPolicy.Toml

/-! ## Keys -/

def isBare (c : Char) : Bool := c.isAlphanum || c == '_' || c == '-'

/-- One part of a key: a bare word or a text in quotes. -/
def part? (cs : List Char) : Option (String × List Char) :=
  match cs with
  | '"' :: rest => (basic? rest).map fun r => (String.ofList r.1, r.2)
  | '\'' :: rest => (literal? rest).map fun r => (String.ofList r.1, r.2)
  | cs =>
    let word := cs.takeWhile isBare
    if word.isEmpty then none else some (String.ofList word, cs.dropWhile isBare)

/-- The parts of a key that follow a `.`, as long as there are any. A step that passes nothing ends
the key. -/
def moreParts? (cs : List Char) : Option (Path × List Char) :=
  match cs with
  | '.' :: rest =>
    match part? (skipBlanks rest) with
    | none => none
    | some (k, rest') =>
      if (skipBlanks rest').length ≤ rest.length then
        (moreParts? (skipBlanks rest')).map fun r => (k :: r.1, r.2)
      else none
  | cs => some ([], cs)
  termination_by cs.length

/-- How deep values and dotted keys may nest. -/
def maxDepth : Nat := 79

def key? (cs : List Char) : Option (Path × List Char) :=
  match part? (skipBlanks cs) with
  | none => none
  | some (k, rest) =>
    match moreParts? (skipBlanks rest) with
    | none => none
    | some (ks, rest) => if ks.length < maxDepth then some (k :: ks, rest) else none

/-! ## Lists and tables on one line -/

/-- The items of a list, whose opening bracket has been passed, each read by `inner`. -/
def items? (inner : Reader Data) (cs : List Char) : Option (List Data × List Char) :=
  let cs' := skipTrivia cs
  match cs' with
  | ']' :: rest => some ([], rest)
  | _ =>
    match inner cs' with
    | none => none
    | some (v, rest) =>
      match skipTrivia rest with
      | ',' :: rest =>
        if rest.length < cs.length then
          (items? inner rest).map fun r => (v :: r.1, r.2)
        else none
      | ']' :: rest => some ([v], rest)
      | _ => none
  termination_by cs.length

/-- A key, `=` and a value, with the blanks around them. -/
def pair? (inner : Reader Data) (cs : List Char) : Option (Pair × List Char) :=
  match key? cs with
  | some (path, '=' :: rest) => (inner (skipBlanks rest)).map fun r => (⟨path, r.1⟩, skipBlanks r.2)
  | _ => none

/-- The pairs of a table on one line, set apart by commas. -/
def pairs? (inner : Reader Data) (cs : List Char) : Option (List Pair × List Char) :=
  match pair? inner cs with
  | none => none
  | some (p, rest) =>
    match rest with
    | ',' :: rest =>
      if rest.length < cs.length then
        (pairs? inner rest).map fun r => (p :: r.1, r.2)
      else none
    | '\x7d' :: rest => some ([p], rest)
    | _ => none
  termination_by cs.length

/-- A table on one line, whose opening brace has been passed. Its values are read by `inner`. -/
def inlineTable? (inner : Reader Data) (cs : List Char) : Option (Data × List Char) :=
  match skipBlanks cs with
  | '\x7d' :: rest => some (.record [], rest)
  | cs =>
    match pairs? inner cs with
    | none => none
    | some (ps, rest) => (Items.addPairs [] ps).map fun items => (items.toData, rest)

/-! ## Values -/

/-- A value that begins with a letter. -/
def word? : Reader Data
  | 't' :: 'r' :: 'u' :: 'e' :: rest => some (.bool true, rest)
  | 'f' :: 'a' :: 'l' :: 's' :: 'e' :: rest => some (.bool false, rest)
  | cs => special? cs

/-- A value in which others may nest `levels` deep. -/
def value? (levels : Nat) (cs : List Char) : Option (Data × List Char) :=
  match levels, cs with
  | _, [] => none
  | 0, c :: cs => scalar? c cs
  | levels + 1, c :: cs =>
    if c == '[' then (items? (value? levels) cs).map fun r => (.list r.1, r.2)
    else if c == '\x7b' then inlineTable? (value? levels) cs
    else scalar? c cs
where
  scalar? (c : Char) (cs : List Char) : Option (Data × List Char) :=
    if c == '"' || c == '\'' then (quoted? (c :: cs)).map fun r => (.text r.1, r.2)
    else if c.isDigit || c == '+' || c == '-' then number? (c :: cs)
    else word? (c :: cs)

end StreamPolicy.Toml
