import StreamPolicy.Unicode.CodeSet
import StreamPolicy.Unicode.Property

/-!
# Regular expressions and where they match

A `Regex` is matched by following sets of positions: `Regex.step` sends the positions where an
expression may start to those where it may end, and `Regex.matchesIn` starts it everywhere. Which of
several ways of matching is taken does not matter, since a condition only asks whether there is one.
-/

namespace StreamPolicy.Pattern

open StreamPolicy.Unicode

/-- Which characters make up words. -/
inductive WordKind
  | unicode
  | ascii
  deriving DecidableEq, Repr

/-- What a position without width is asked for. -/
inductive Look
  | startText
  | endText
  | startLine
  | endLine
  | startLineCrlf
  | endLineCrlf
  | wordBoundary (kind : WordKind)
  | notWordBoundary (kind : WordKind)
  | wordStart (kind : WordKind)
  | wordEnd (kind : WordKind)
  | wordStartHalf (kind : WordKind)
  | wordEndHalf (kind : WordKind)
  deriving DecidableEq, Repr

inductive Regex
  | empty
  | set (chars : CodeSet)
  | look (look : Look)
  | cat (first second : Regex)
  | alt (left right : Regex)
  | group (body : Regex)
  | rep (body : Regex) (least : Nat) (most : Option Nat)
  deriving Repr

/-! ## Words -/

/-- The characters of words: letters, marks, digits, connectors and joiners. -/
def unicodeWord : CodeSet :=
  CodeSet.unions [Property.alphabetic, Category.mark, Category.decimalNumber,
    Category.connectorPunctuation, Property.joinControl]

def asciiWord : CodeSet := ⟨[(48, 57), (65, 90), (95, 95), (97, 122)]⟩

def WordKind.chars : WordKind → CodeSet
  | .unicode => unicodeWord
  | .ascii => asciiWord

/-! ## Positions -/

/-- The character before position `i`. -/
def charBefore (text : Array Char) : Nat → Option Char
  | 0 => none
  | i + 1 => text[i]?

def Look.holds (text : Array Char) (i : Nat) (look : Look) : Bool :=
  let before := charBefore text i
  let after := text[i]?
  let inWord (kind : WordKind) (c : Option Char) := c.any kind.chars.mem
  match look with
  | .startText => i == 0
  | .endText => i == text.size
  | .startLine => before.all (· == '\n')
  | .endLine => after.all (· == '\n')
  | .startLineCrlf =>
    before.all fun c => c == '\n' || (c == '\r' && after != some '\n')
  | .endLineCrlf =>
    after.all fun c => c == '\r' || (c == '\n' && before != some '\r')
  | .wordBoundary kind => inWord kind before != inWord kind after
  | .notWordBoundary kind => inWord kind before == inWord kind after
  | .wordStart kind => !inWord kind before && inWord kind after
  | .wordEnd kind => inWord kind before && !inWord kind after
  | .wordStartHalf kind => !inWord kind before
  | .wordEndHalf kind => !inWord kind after

/-- Two ascending lists of positions as one, without repetitions. -/
def mergePositions : List Nat → List Nat → List Nat
  | [], ys => ys
  | xs, [] => xs
  | x :: xs, y :: ys =>
    if x < y then x :: mergePositions xs (y :: ys)
    else if y < x then y :: mergePositions (x :: xs) ys
    else x :: mergePositions xs ys
  termination_by xs ys => xs.length + ys.length

/-- At most `n` times `step`, cut short where it changes nothing. -/
def repeatStep (step : List Nat → List Nat) : Nat → List Nat → List Nat
  | 0, ps => ps
  | n + 1, ps =>
    let next := step ps
    if next = ps then ps else repeatStep step n next

/-- The positions that at most `n` times `step` leads to, the start included. -/
def reachable (step : List Nat → List Nat) : Nat → List Nat → List Nat → List Nat
  | 0, reached, _ => reached
  | n + 1, reached, frontier =>
    let fresh := (step frontier).filter fun i => !reached.contains i
    if fresh.isEmpty then reached
    else reachable step n (mergePositions reached fresh) fresh

namespace Regex

/-- Sends the positions of `text` where the expression may start to those where it may end. -/
def step (text : Array Char) : Regex → List Nat → List Nat
  | .empty => id
  | .set chars => fun ps =>
    ps.filterMap fun i => if text[i]?.any chars.mem then some (i + 1) else none
  | .look l => fun ps => ps.filter fun i => l.holds text i
  | .cat a b => fun ps => step text b (step text a ps)
  | .alt a b => fun ps => mergePositions (step text a ps) (step text b ps)
  | .group r => step text r
  | .rep r least most => fun ps =>
    let start := repeatStep (step text r) least ps
    let rounds := match most with
      | none => text.size + 1
      | some m => min (m - least) (text.size + 1)
    reachable (step text r) rounds start start

/-- Whether `r` matches somewhere in `text`. -/
def matchesIn (r : Regex) (text : List Char) : Bool :=
  !(r.step text.toArray (List.range (text.length + 1))).isEmpty

/-!
## Sizes

An expression stands for an automaton with a number of states; repetitions write their body out
again and again. What grows beyond `sizeLimit` is refused.
-/

/-- Whether the expression can only match the empty text. -/
def isWidthless : Regex → Bool
  | .empty => true
  | .set _ => false
  | .look _ => true
  | .cat a b => a.isWidthless && b.isWidthless
  | .alt a b => a.isWidthless && b.isWidthless
  | .group r => r.isWidthless
  | .rep r _ most => r.isWidthless || most == some 0

/-- The bytes that the automaton of `set chars` takes, about. -/
def setSize (chars : CodeSet) : Nat :=
  chars.ranges.foldl (fun n r => n + if r.2 < 128 then 8 else 60) 32

/-- The bytes that the automaton of the expression takes, about. -/
def size : Regex → Nat
  | .empty => 32
  | .set chars => setSize chars
  | .look _ => 32
  | .cat a b => a.size + b.size
  | .alt a b => a.size + b.size + 40
  | .group r => r.size + 64
  | .rep r least most =>
    if r.isWidthless then r.size + 40
    else match most with
      | none => max least 1 * r.size + 40
      | some m => least * r.size + (m - least) * (r.size + 40)

/-- The most bytes that an automaton may take. -/
def sizeLimit : Nat := 10485760

end Regex

end StreamPolicy.Pattern
