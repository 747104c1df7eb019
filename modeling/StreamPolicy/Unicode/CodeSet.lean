/-!
# Sets of code points

A `CodeSet` is kept as ascending ranges with gaps between them, so that two sets are combined by
putting their ranges together and normalizing with `ofRanges`.
-/

namespace StreamPolicy.Unicode

/-- A set of code points as ranges, both ends included. -/
structure CodeSet where
  ranges : List (Nat × Nat)
  deriving DecidableEq, Repr

namespace CodeSet

/-- The last code point. -/
def last : Nat := 0x10FFFF

def empty : CodeSet := ⟨[]⟩

def contains (s : CodeSet) (c : Nat) : Bool :=
  s.ranges.any fun r => r.1 ≤ c && c ≤ r.2

def mem (s : CodeSet) (c : Char) : Bool := s.contains c.toNat

/-- Joins neighbouring ranges, which ascend by their first elements. -/
def join : List (Nat × Nat) → List (Nat × Nat)
  | [] => []
  | [r] => [r]
  | (a, b) :: (c, d) :: rest =>
    if c ≤ b + 1 then join ((a, max b d) :: rest) else (a, b) :: join ((c, d) :: rest)
  termination_by rs => rs.length

/-- The set of the ranges `rs`, in any order and with any overlaps; empty ranges are left out. -/
def ofRanges (rs : List (Nat × Nat)) : CodeSet :=
  ⟨join ((rs.filter fun r => r.1 ≤ r.2).mergeSort fun r s => r.1 ≤ s.1)⟩

def single (c : Nat) : CodeSet := ⟨[(c, c)]⟩

def all : CodeSet := ⟨[(0, last)]⟩

def union (s t : CodeSet) : CodeSet := ofRanges (s.ranges ++ t.ranges)

def unions (ss : List CodeSet) : CodeSet := ofRanges (ss.flatMap ranges)

/-- The ranges between those of an ascending list, from `start` on. -/
def gaps (start : Nat) : List (Nat × Nat) → List (Nat × Nat)
  | [] => if start ≤ last then [(start, last)] else []
  | (a, b) :: rest => if start < a then (start, a - 1) :: gaps (b + 1) rest else gaps (b + 1) rest

def compl (s : CodeSet) : CodeSet := ⟨gaps 0 s.ranges⟩

def inter (s t : CodeSet) : CodeSet := (s.compl.union t.compl).compl

def diff (s t : CodeSet) : CodeSet := s.inter t.compl

/-- What is in exactly one of the two. -/
def symmDiff (s t : CodeSet) : CodeSet := (s.union t).diff (s.inter t)

def isAscii (s : CodeSet) : Bool := s.ranges.all fun r => r.2 < 128

/-! ## Packed tables -/

/-- The hexadecimal numbers of a text, set apart by blanks. -/
def hexNumbers (text : List Char) : List Nat :=
  go text none
where
  go : List Char → Option Nat → List Nat
    | [], none => []
    | [], some n => [n]
    | c :: cs, acc =>
      if c == ' ' || c == '\n' then
        match acc with
        | none => go cs none
        | some n => n :: go cs none
      else
        let digit := if c.isDigit then c.toNat - 48 else c.toNat - 87
        go cs (some (acc.getD 0 * 16 + digit))

/-- Ranges from their distances: how far each starts behind the end of the one before, and how far
it ends behind its own start. -/
def ofDistances (start : Nat) : List Nat → List (Nat × Nat)
  | skip :: length :: rest =>
    (start + skip, start + skip + length) :: ofDistances (start + skip + length + 1) rest
  | _ => []

/-- Reads a packed table: pairs of hexadecimal distances, as `ofDistances` takes them. -/
def ofGaps (text : String) : CodeSet := ⟨ofDistances 0 (hexNumbers text.toList)⟩

end CodeSet

end StreamPolicy.Unicode
