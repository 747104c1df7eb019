import StreamPolicy.Unicode.CaseTable
import StreamPolicy.Unicode.CodeSet

/-!
# Lower case and simple case folding

`lowercase` is the full lower-case mapping of one character; `CodeSet.foldClosure` adds to a set
all that differs from a member in case only.
-/

namespace StreamPolicy.Unicode

namespace CaseRun

def target (r : CaseRun) (c : Nat) : Nat := (c + r.shift).toNat

/-- Where the run `r` sends the code point `c`, if it holds it. -/
def map? (r : CaseRun) (c : Nat) : Option Nat :=
  if r.first ≤ c && c < r.first + r.count * r.stride && (c - r.first) % r.stride == 0 then
    some (r.target c)
  else none

def pairs (r : CaseRun) : List (Nat × Nat) :=
  (List.range r.count).map fun i =>
    let c := r.first + i * r.stride
    (c, r.target c)

end CaseRun

/-- The lower case of a character: one character, except that the dotted capital I keeps its dot
as a mark of its own. -/
def lowercase (c : Char) : List Char :=
  if c.toNat < 128 then [c.toLower]
  else if c.toNat = 0x130 then ['i', Char.ofNat 0x307]
  else [Char.ofNat ((CaseRun.lowering.findSome? (·.map? c.toNat)).getD c.toNat)]

/-- All pairs of a code point and its simple case folding, where the two differ, from
`CaseRun.folding`. -/
def foldPairs : List (Nat × Nat) := CaseRun.folding.flatMap CaseRun.pairs

namespace CodeSet

/-- The set `s` with everything that folds to the same code point as one of its members. -/
def foldClosure (s : CodeSet) : CodeSet :=
  let folded := s.union (ofRanges ((foldPairs.filter fun p => s.contains p.1).map
    fun p => (p.2, p.2)))
  folded.union (ofRanges ((foldPairs.filter fun p => folded.contains p.2).map fun p => (p.1, p.1)))

/-- The set `s` with letters of the Latin alphabet in both cases, as far as it holds them in one. -/
def asciiFoldClosure (s : CodeSet) : CodeSet :=
  let upper := s.inter ⟨[(65, 90)]⟩
  let lower := s.inter ⟨[(97, 122)]⟩
  unions [s, ⟨upper.ranges.map fun r => (r.1 + 32, r.2 + 32)⟩,
    ⟨lower.ranges.map fun r => (r.1 - 32, r.2 - 32)⟩]

end CodeSet

end StreamPolicy.Unicode
