import StreamPolicy.Pattern.ClassName
import StreamPolicy.Text.Ascii
import StreamPolicy.Text.Basic
import StreamPolicy.Unicode.Case

/-!
# Reading patterns

`Pattern.read?` reads pattern text in one pass into a `Regex`. `Flags` hold from where they are set
to the end of the group they stand in, so the reader carries them along and meets each construct
under the flags that are in force there.
-/

namespace StreamPolicy.Pattern

open StreamPolicy.Unicode StreamPolicy.Text

structure Flags where
  ignoreCase : Bool := false
  multiLine : Bool := false
  dotNewline : Bool := false
  swapGreed : Bool := false
  unicode : Bool := true
  crlf : Bool := false
  /-- Blanks and comments in the pattern are skipped. -/
  verbose : Bool := false
  deriving DecidableEq, Repr

namespace Flags

def wordKind (f : Flags) : WordKind := if f.unicode then .unicode else .ascii

/-- Sets or clears the flag of `letter`. -/
def assign? (f : Flags) (letter : Char) (value : Bool) : Option Flags :=
  match letter with
  | 'i' => some { f with ignoreCase := value }
  | 'm' => some { f with multiLine := value }
  | 's' => some { f with dotNewline := value }
  | 'U' => some { f with swapGreed := value }
  | 'u' => some { f with unicode := value }
  | 'R' => some { f with crlf := value }
  | 'x' => some { f with verbose := value }
  | _ => none

/-- The set `s` with what differs from its members in case, where case is ignored. -/
def fold (f : Flags) (s : CodeSet) : CodeSet :=
  if f.ignoreCase then (if f.unicode then s.foldClosure else s.asciiFoldClosure) else s

/-- The complement: of all code points, or of all bytes. -/
def compl (f : Flags) (s : CodeSet) : CodeSet :=
  if f.unicode then s.compl else CodeSet.diff ⟨[(0, 255)]⟩ s

/-- A class after folding and, if so marked, complementing. Without Unicode a class of bytes has
to stay within ASCII. -/
def finish? (f : Flags) (negated : Bool) (s : CodeSet) : Option CodeSet :=
  let folded := f.fold s
  let result := if negated then f.compl folded else folded
  if !f.unicode && !result.isAscii then none else some result

end Flags

/-! ## Blanks and numbers -/

def dropLine : List Char → List Char
  | [] => []
  | c :: cs => if c == '\n' then cs else dropLine cs

theorem length_dropLine (cs : List Char) : (dropLine cs).length ≤ cs.length := by
  induction cs with
  | nil => simp [dropLine]
  | cons c cs ih =>
    simp only [dropLine]
    split
    · simp
    · exact Nat.le_succ_of_le ih

/-- Skips blanks and comments, in a `verbose` pattern. -/
def skip (verbose : Bool) (cs : List Char) : List Char :=
  if verbose then go cs else cs
where
  go : List Char → List Char
    | [] => []
    | c :: cs =>
      if isBlank c then go cs
      else if c == '#' then go (dropLine cs)
      else c :: cs
  termination_by cs => cs.length
  decreasing_by
    all_goals
      have := length_dropLine cs
      simp only [List.length_cons]
      omega

/-- A decimal number that may have blanks around it. -/
def decimal? (verbose : Bool) (cs : List Char) : Option (Nat × List Char) :=
  go (cs.dropWhile isBlank) []
where
  go (cs : List Char) (digits : List Char) : Option (Nat × List Char) :=
    match cs with
    | [] => finish digits []
    | c :: rest =>
      if c.isDigit then
        let next := skip verbose rest
        if next.length < (c :: rest).length then go next (c :: digits) else none
      else finish digits (c :: rest)
  termination_by cs.length
  decreasing_by
    all_goals
      simp only [List.length_cons] at *
      omega
  finish (digits : List Char) (rest : List Char) : Option (Nat × List Char) :=
    let n := ofDigits 10 digits.reverse
    if digits.isEmpty || UInt32.size ≤ n then none
    else some (n, skip verbose (rest.dropWhile isBlank))

def scalar? (n : Nat) : Option Char := if n.isValidChar then some (Char.ofNat n) else none

/-! ## Escapes -/

/-- What a backslash introduces. -/
inductive Escape
  | char (c : Char)
  /-- A byte written by two hexadecimal digits. -/
  | byte (c : Char)
  | look (kind : Look)
  | shorthand (letter : Char) (negated : Bool)
  | named (chars : CodeSet) (negated : Bool)

/-- The hexadecimal digits up to a closing `}`. -/
def bracedHex? (verbose : Bool) (cs : List Char) : Option (Nat × List Char) :=
  match splitOnce (· == '}') cs with
  | none => none
  | some (inside, rest) =>
    let digits := if verbose then inside.filter (!isBlank ·) else inside
    if digits.isEmpty || !digits.all isHexDigit then none
    else some (ofDigits 16 digits, skip verbose rest)

/-- A given number of hexadecimal digits. -/
def fixedHex? (verbose : Bool) : Nat → List Char → List Char → Option (Nat × List Char)
  | 0, digits, rest => some (ofDigits 16 digits.reverse, rest)
  | n + 1, digits, c :: rest =>
    if isHexDigit c then fixedHex? verbose n (c :: digits) (skip verbose rest) else none
  | _ + 1, _, [] => none

def hexEscape? (verbose : Bool) (digits : Nat) (cs : List Char) : Option (Escape × List Char) :=
  match skip verbose cs with
  | '{' :: rest => do
    let (n, rest) ← bracedHex? verbose (skip verbose rest)
    let c ← scalar? n
    some (.char c, rest)
  | rest => do
    let (n, rest) ← fixedHex? verbose digits [] rest
    let c ← scalar? n
    some (if digits == 2 then .byte c else .char c, rest)

/-- The first place where a text holds `mark`, as what is before and after it. -/
def cutAt (mark : List Char) : List Char → Option (List Char × List Char)
  | [] => none
  | c :: cs =>
    if mark.isPrefixOf (c :: cs) then some ([], (c :: cs).drop mark.length)
    else (cutAt mark cs).map fun r => (c :: r.1, r.2)

/-- A class by property: one letter, or a name or equation in braces. The mark `!=` of an
inequation is read as that of an equation. -/
def propertyEscape? (f : Flags) (negated : Bool) (cs : List Char) :
    Option (Escape × List Char) :=
  if !f.unicode then none else
  match skip f.verbose cs with
  | [] => none
  | '{' :: rest => do
    let (inside, rest) ← splitOnce (· == '}') rest
    let name := if f.verbose then inside.filter (!isBlank ·) else inside
    match cutAt ['!', '='] name with
    | some (property, value) => return (.named (← valueClass? property value) negated, rest)
    | none =>
      match (splitOnce (· == ':') name) <|> (splitOnce (· == '=') name) with
      | some (property, value) => return (.named (← valueClass? property value) negated, rest)
      | none => return (.named (← namedClass? name) negated, rest)
  | c :: rest => do
    if c == '\\' then none
    return (.named (← namedClass? [c]) negated, skip f.verbose rest)

def namedBoundary? (kind : WordKind) : String → Option Look
  | "start" => some (.wordStart kind)
  | "end" => some (.wordEnd kind)
  | "start-half" => some (.wordStartHalf kind)
  | "end-half" => some (.wordEndHalf kind)
  | _ => none

/-- A word boundary `\b`, possibly one that is named in braces. A brace before anything but a letter
or a dash is left for a repetition. -/
def boundaryEscape? (f : Flags) (cs : List Char) : Option (Escape × List Char) :=
  let plain : Escape × List Char := (.look (.wordBoundary f.wordKind), cs)
  let inName (c : Char) : Bool := c.isAlpha || c == '-'
  match cs with
  | '{' :: rest =>
    match skip f.verbose rest with
    | [] => none
    | c :: rest =>
      if !inName c then some plain else
      match splitOnce (· == '}') (c :: rest) with
      | none => none
      | some (inside, rest) => do
        let name := if f.verbose then inside.filter (!isBlank ·) else inside
        let look ← namedBoundary? f.wordKind (String.ofList name)
        some (.look look, rest)
  | _ => some plain

/-- Reads what follows a backslash. Letters and digits without a meaning are refused, every other
ASCII character stands for itself. -/
def escape? (f : Flags) : List Char → Option (Escape × List Char)
  | [] => none
  | c :: rest =>
    match c with
    | 'x' => hexEscape? f.verbose 2 rest
    | 'u' => hexEscape? f.verbose 4 rest
    | 'U' => hexEscape? f.verbose 8 rest
    | 'p' => propertyEscape? f false rest
    | 'P' => propertyEscape? f true rest
    | 'd' | 's' | 'w' => some (.shorthand c false, rest)
    | 'D' | 'S' | 'W' => some (.shorthand c.toLower true, rest)
    | 'a' => some (.char '\x07', rest)
    | 'f' => some (.char '\x0c', rest)
    | 't' => some (.char '\t', rest)
    | 'n' => some (.char '\n', rest)
    | 'r' => some (.char '\r', rest)
    | 'v' => some (.char '\x0b', rest)
    | 'A' => some (.look .startText, rest)
    | 'z' => some (.look .endText, rest)
    | 'b' => boundaryEscape? f rest
    | 'B' => some (.look (.notWordBoundary f.wordKind), rest)
    | '<' => some (.look (.wordStart f.wordKind), rest)
    | '>' => some (.look (.wordEnd f.wordKind), rest)
    | c => if c.toNat < 128 && !c.isAlphanum then some (.char c, rest) else none

/-- The class of the letter d, s or w under the flags `f`. -/
def shorthand? (f : Flags) (letter : Char) (negated : Bool) : Option CodeSet :=
  let base := shorthandClass f.wordKind letter
  let result := if negated then f.compl base else base
  if !f.unicode && !result.isAscii then none else some result

/-! ## Bracketed classes -/

inductive ClassOp
  | inter
  | diff
  | symmDiff

def ClassOp.apply : ClassOp → CodeSet → CodeSet → CodeSet
  | .inter => CodeSet.inter
  | .diff => CodeSet.diff
  | .symmDiff => CodeSet.symmDiff

/-- A class that is being read: the operands so far joined by an operator, the union being
collected, how many items it has, and the depth of nesting below it. -/
structure OpenClass where
  negated : Bool
  left : Option (CodeSet × ClassOp × Nat) := none
  items : CodeSet := .empty
  count : Nat := 0
  depth : Nat := 0

namespace OpenClass

def add (c : OpenClass) (s : CodeSet) (depth : Nat) : OpenClass :=
  { c with items := c.items.union s, count := c.count + 1, depth := max c.depth depth }

/-- The depth of the collected union, which is a level of its own if `c` has several items. -/
def unionDepth (c : OpenClass) : Nat := if c.count > 1 then c.depth + 1 else c.depth

/-- What the operator and both its sides make, with the depth of it. -/
def value (f : Flags) (c : OpenClass) : CodeSet × Nat :=
  match c.left with
  | none => (c.items, c.unionDepth)
  | some (lhs, op, depth) => (op.apply (f.fold lhs) (f.fold c.items), max depth c.unionDepth + 1)

/-- Starts the right side of the operator `op`. -/
def operator (f : Flags) (op : ClassOp) (c : OpenClass) : OpenClass :=
  let (lhs, depth) := c.value f
  { negated := c.negated, left := some (lhs, op, depth) }

end OpenClass

/-- A member of a class: one character that may begin a range, or a class of its own. -/
inductive ClassItem
  | char (c : Char)
  | chars (s : CodeSet)

def classItem? (f : Flags) : List Char → Option (ClassItem × List Char)
  | [] => none
  | '\\' :: rest => do
    let (e, rest) ← escape? f rest
    match e with
    | .char c => if !f.unicode && c.toNat > 127 then none else some (.char c, rest)
    | .byte c => if !f.unicode && c.toNat > 127 then none else some (.char c, rest)
    | .look _ => none
    | .shorthand letter negated => return (.chars (← shorthand? f letter negated), rest)
    | .named s negated => return (.chars (← f.finish? negated s), rest)
  | c :: rest => if !f.unicode && c.toNat > 127 then none else some (.char c, rest)

/-- A member or a range. A `-` before the closing bracket or another `-` makes no range. -/
def classRange? (f : Flags) (cs : List Char) : Option (CodeSet × List Char) := do
  let (first, rest) ← classItem? f cs
  let rest := skip f.verbose rest
  let alone : CodeSet := match first with
    | .char c => .single c.toNat
    | .chars s => s
  match rest with
  | [] => none
  | '-' :: after =>
    match skip f.verbose after with
    | [] => none
    | ']' :: _ => some (alone, rest)
    | '-' :: _ => some (alone, rest)
    | after => do
      let (last, rest) ← classItem? f after
      match first, last with
      | .char a, .char b =>
        if a.toNat ≤ b.toNat then some (⟨[(a.toNat, b.toNat)]⟩, rest) else none
      | _, _ => none
  | _ => some (alone, rest)

/-- The dashes at the start of a class stand for themselves. -/
def leadingDashes (f : Flags) (c : OpenClass) (cs : List Char) : OpenClass × List Char :=
  match cs with
  | '-' :: rest =>
    let next := skip f.verbose rest
    if next.length < rest.length + 1 then leadingDashes f (c.add (.single 45) 0) next
    else (c, cs)
  | _ => (c, cs)
  termination_by cs.length
  decreasing_by
    all_goals
      simp only [List.length_cons] at *
      omega

/-- Opens a class after its bracket: the negation mark, leading dashes, and a closing bracket that
comes first and so stands for itself. -/
def openClass? (f : Flags) (cs : List Char) : Option (OpenClass × List Char) := do
  let cs := skip f.verbose cs
  let (negated, cs) := match cs with
    | '^' :: rest => (true, skip f.verbose rest)
    | cs => (false, cs)
  let (c, cs) := leadingDashes f { negated } cs
  match cs with
  | [] => none
  | ']' :: rest => if c.count == 0 then some (c.add (.single 93) 0, rest) else some (c, cs)
  | cs => some (c, cs)

/-- A class that is named between `[:` and `:]`. -/
def asciiItem? (f : Flags) (cs : List Char) : Option (Option CodeSet × List Char) := do
  match cs with
  | '[' :: ':' :: rest =>
    let (negated, rest) := match rest with
      | '^' :: rest => (true, rest)
      | rest => (false, rest)
    let (name, rest) ← splitOnce (· == ':') rest
    match rest with
    | ']' :: rest => do
      let s ← asciiClass? (String.ofList name)
      some (f.finish? negated s, rest)
    | _ => none
  | _ => none

/-- Reads a bracketed class `c` whose opening bracket has been passed. The classes that wait for an
inner one to close are `outer`. -/
def classBody? (f : Flags) (outer : List OpenClass) (c : OpenClass) (cs : List Char) :
    Option (CodeSet × Nat × List Char) :=
  let cs' := skip f.verbose cs
  let continue' (outer : List OpenClass) (c : OpenClass) (rest : List Char) :
      Option (CodeSet × Nat × List Char) :=
    if rest.length < cs.length then classBody? f outer c rest else none
  match cs' with
  | [] => none
  | '[' :: rest =>
    match asciiItem? f cs' with
    | some (none, _) => none
    | some (some s, rest) => continue' outer (c.add s 0) rest
    | none =>
      match openClass? f rest with
      | none => none
      | some (inner, rest) => continue' (c :: outer) inner rest
  | ']' :: rest =>
    let (s, depth) := c.value f
    match f.finish? c.negated s with
    | none => none
    | some s =>
      match outer with
      | [] => some (s, depth + 1, rest)
      | c' :: outer => continue' outer (c'.add s (depth + 1)) rest
  | '&' :: '&' :: rest => continue' outer (c.operator f .inter) rest
  | '-' :: '-' :: rest => continue' outer (c.operator f .diff) rest
  | '~' :: '~' :: rest => continue' outer (c.operator f .symmDiff) rest
  | cs' =>
    match classRange? f cs' with
    | none => none
    | some (s, rest) => continue' outer (c.add s 0) rest
  termination_by cs.length

/-! ## Groups -/

/-- What `(` introduces: a group with the flags `inside` it, or flags for the rest of the group
around. -/
inductive GroupStart
  | group (inside : Flags)
  | capture (name : Option String)
  | flags (after : Flags)

/-- The flags between `?` and `:` or `)`. -/
def flagList? (f : Flags) (negating : Bool) (seen : List Char) :
    List Char → Option (Flags × List Char × Bool × List Char)
  | [] => none
  | c :: rest =>
    if c == ':' || c == ')' then
      if seen.head? == some '-' then none else some (f, seen, c == ':', rest)
    else if seen.contains c then none
    else if c == '-' then flagList? f true (c :: seen) rest
    else do flagList? (← f.assign? c (!negating)) negating (c :: seen) rest

def isNameStart (c : Char) : Bool := c == '_' || Property.alphabetic.mem c

def isNameRest (c : Char) : Bool :=
  isNameStart c || c == '.' || c == '[' || c == ']' || Category.number.mem c

/-- The name of a group, up to its closing `>`. -/
def groupName? (cs : List Char) : Option (String × List Char) := do
  let (name, rest) ← splitOnce (· == '>') cs
  match name with
  | [] => none
  | c :: more =>
    if isNameStart c && more.all isNameRest then some (String.ofList name, rest) else none

def groupStart? (f : Flags) (cs : List Char) : Option (GroupStart × List Char) :=
  match skip f.verbose cs with
  | '?' :: '=' :: _ => none
  | '?' :: '!' :: _ => none
  | '?' :: '<' :: '=' :: _ => none
  | '?' :: '<' :: '!' :: _ => none
  | '?' :: 'P' :: '<' :: rest => (groupName? rest).map fun r => (.capture (some r.1), r.2)
  | '?' :: '<' :: rest => (groupName? rest).map fun r => (.capture (some r.1), r.2)
  | '?' :: rest => do
    let (g, seen, opens, rest) ← flagList? f false [] rest
    if opens then some (.group g, rest)
    else if seen.isEmpty then none
    else some (.flags g, rest)
  | rest => some (.capture none, rest)

/-! ## Sequences and alternatives -/

/-- An expression with the depth of its nesting. -/
abbrev Sized := Regex × Nat

/-- A part of a sequence: an expression, or flags, which cannot be repeated. -/
inductive Part
  | expr (e : Sized)
  | flags

/-- A group that is being read: the alternatives before the current one and the parts of the
current one, each latest first, and the flags in force. -/
structure OpenGroup where
  flags : Flags
  alternatives : List Sized := []
  parts : List Part := []

namespace OpenGroup

def add (g : OpenGroup) (e : Sized) : OpenGroup := { g with parts := .expr e :: g.parts }

def sequence (g : OpenGroup) : Sized :=
  let exprs := g.parts.filterMap fun p => match p with
    | .expr e => some e
    | .flags => none
  let depth := (exprs.map (·.2)).foldl max 0
  let body := match exprs with
    | [] => Regex.empty
    | e :: es => es.foldl (fun acc d => .cat d.1 acc) e.1
  (body, if g.parts.length > 1 then depth + 1 else depth)

def close (g : OpenGroup) : Sized :=
  match g.alternatives with
  | [] => g.sequence
  | alts =>
    let last := g.sequence
    let depth := (alts.map (·.2)).foldl max last.2
    (alts.foldl (fun acc a => .alt a.1 acc) last.1, depth + 1)

def alternate (g : OpenGroup) : OpenGroup :=
  { g with alternatives := g.sequence :: g.alternatives, parts := [] }

/-- Repeats the last part, which must be an expression, from `least` to `most` times. -/
def rep? (g : OpenGroup) (least : Nat) (most : Option Nat) : Option OpenGroup :=
  match g.parts with
  | .expr (r, d) :: parts => some { g with parts := .expr (.rep r least most, d + 1) :: parts }
  | _ => none

end OpenGroup

def counts? (verbose : Bool) (cs : List Char) : Option (Nat × Option Nat × List Char) := do
  let (least, rest) ← decimal? verbose (skip verbose cs)
  match rest with
  | '}' :: rest => some (least, some least, rest)
  | ',' :: rest =>
    match skip verbose rest with
    | '}' :: rest => some (least, none, rest)
    | rest => do
      let (most, rest) ← decimal? verbose rest
      match rest with
      | '}' :: rest => if least ≤ most then some (least, some most, rest) else none
      | _ => none
  | _ => none

/-- Passes the mark `?` that makes a repetition lazy. -/
def skipLazy : List Char → List Char
  | '?' :: rest => rest
  | cs => cs

/-- One character of the pattern that stands for itself. -/
def literal (f : Flags) (c : Char) : Regex := .set (f.fold (.single c.toNat))

def escaped? (f : Flags) : Escape → Option Sized
  | .char c => some (literal f c, 0)
  | .byte c => if !f.unicode && c.toNat > 127 then none else some (literal f c, 0)
  | .look l => some (.look l, 0)
  | .shorthand letter negated => (shorthand? f letter negated).map fun s => (.set s, 0)
  | .named s negated => (f.finish? negated s).map fun s => (.set s, 0)

/-- What `.` stands for: any character, except line ends unless the flags say otherwise. -/
def dot? (f : Flags) : Option Sized :=
  if !f.unicode then none
  else if f.dotNewline then some (.set .all, 0)
  else if f.crlf then some (.set (CodeSet.compl ⟨[(10, 10), (13, 13)]⟩), 0)
  else some (.set (CodeSet.compl ⟨[(10, 10)]⟩), 0)

def lineStart (f : Flags) : Look :=
  if !f.multiLine then .startText else if f.crlf then .startLineCrlf else .startLine

def lineEnd (f : Flags) : Look :=
  if !f.multiLine then .endText else if f.crlf then .endLineCrlf else .endLine

/-- Reads a pattern. The groups around the current one, `g`, which has the flags it was opened
under, are `outer`, and `names` are those given to groups. -/
def read? (outer : List OpenGroup) (names : List String) (g : OpenGroup) (cs : List Char) :
    Option Sized :=
  let f := g.flags
  let continue' (outer : List OpenGroup) (names : List String) (g : OpenGroup)
      (rest : List Char) : Option Sized :=
    if rest.length < cs.length then read? outer names g rest else none
  let repeated (least : Nat) (most : Option Nat) (rest : List Char) : Option Sized :=
    match g.rep? least most with
    | none => none
    | some g => continue' outer names g (skipLazy rest)
  match skip f.verbose cs with
  | [] => if outer.isEmpty then some g.close else none
  | '(' :: rest =>
    match groupStart? f rest with
    | none => none
    | some (.flags after, rest) =>
      continue' outer names { g with flags := after, parts := .flags :: g.parts } rest
    | some (.group inside, rest) => continue' (g :: outer) names { flags := inside } rest
    | some (.capture none, rest) => continue' (g :: outer) names { flags := f } rest
    | some (.capture (some name), rest) =>
      if names.contains name then none
      else continue' (g :: outer) (name :: names) { flags := f } rest
  | ')' :: rest =>
    match outer with
    | [] => none
    | parent :: outer =>
      let (body, depth) := g.close
      continue' outer names (parent.add (.group body, depth + 1)) rest
  | '|' :: rest => continue' outer names g.alternate rest
  | '[' :: rest =>
    match openClass? f rest with
    | none => none
    | some (c, rest) =>
      match classBody? f [] c rest with
      | none => none
      | some (s, depth, rest) => continue' outer names (g.add (.set s, depth)) rest
  | '?' :: rest => repeated 0 (some 1) rest
  | '*' :: rest => repeated 0 none rest
  | '+' :: rest => repeated 1 none rest
  | '{' :: rest =>
    match counts? f.verbose rest with
    | none => none
    | some (least, most, rest) => repeated least most (skip f.verbose rest)
  | '\\' :: rest =>
    match escape? f rest with
    | none => none
    | some (e, rest) =>
      match escaped? f e with
      | none => none
      | some e => continue' outer names (g.add e) rest
  | '.' :: rest =>
    match dot? f with
    | none => none
    | some e => continue' outer names (g.add e) rest
  | '^' :: rest => continue' outer names (g.add (.look (lineStart f), 0)) rest
  | '$' :: rest => continue' outer names (g.add (.look (lineEnd f), 0)) rest
  | c :: rest => continue' outer names (g.add (literal f c, 0)) rest
  termination_by cs.length

def depthLimit : Nat := 250

end Pattern

open Pattern in
/-- The regular expression that `pattern` stands for, unless it is malformed, nests beyond
`depthLimit` or grows beyond `sizeLimit`. -/
def Pattern.compile? (pattern : String) : Option Pattern.Regex := do
  let (r, depth) ← read? [] [] { flags := {} } pattern.toList
  if depth ≤ depthLimit && r.size ≤ Regex.sizeLimit then some r else none

end StreamPolicy
