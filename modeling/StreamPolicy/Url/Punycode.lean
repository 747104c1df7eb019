import StreamPolicy.Text.Basic

/-!
# Punycode

A label with characters outside ASCII is written as its ASCII characters, a hyphen, and a row of
numbers in base 36 that say where to insert the others: `encode` and `decode`. Numbers are written
with their lowest digit first and end with a digit below a `threshold`, which adapts to the sizes of
the numbers so far.
-/

namespace StreamPolicy.Url.Punycode

def digitChar (d : Nat) : Char := if d < 26 then Char.ofNat (97 + d) else Char.ofNat (22 + d)

def digitValue? (c : Char) : Option Nat :=
  if c.isLower then some (c.toNat - 97)
  else if c.isUpper then some (c.toNat - 65)
  else if c.isDigit then some (c.toNat - 22)
  else none

/-- The threshold of the digit at `position`, which is counted in steps of 36. -/
def threshold (bias position : Nat) : Nat :=
  if position ≤ bias + 1 then 1 else if bias + 26 ≤ position then 26 else position - bias

theorem threshold_bounds (bias position : Nat) :
    1 ≤ threshold bias position ∧ threshold bias position ≤ 26 := by
  unfold threshold
  split
  · omega
  · split <;> omega

/-- Scales `n` down until it is small, and adds 36 for every division. -/
def scale (n : Nat) : Nat × Nat :=
  if 455 < n then ((scale (n / 35)).1, (scale (n / 35)).2 + 36) else (n, 0)
  termination_by n
  decreasing_by all_goals omega

/-- The bias after the number `n` has been written, when there are `count` characters. -/
def adapt (n count : Nat) (isFirst : Bool) : Nat :=
  let damped := if isFirst then n / 700 else n / 2
  let (rest, bias) := scale (damped + damped / count)
  bias + 36 * rest / (rest + 38)

/-- The digits of `n`, from `position` on. -/
def digits (bias position n : Nat) : List Char :=
  let t := threshold bias position
  if n < t then [digitChar n]
  else digitChar (t + (n - t) % (36 - t)) :: digits bias (position + 36) ((n - t) / (36 - t))
  termination_by n
  decreasing_by
    have := threshold_bounds bias position
    exact Nat.lt_of_le_of_lt (Nat.div_le_self _ _) (by omega)

/-- The state of writing: the digits so far, the bias, the number to be written next, and how many
characters are done. -/
structure Writer where
  written : List Char
  bias : Nat
  delta : Nat
  done : Nat

/-- Passes the character `c` of the label while those equal to `point` are written. -/
def Writer.pass (basic point : Nat) (w : Writer) (c : Char) : Writer :=
  if c.toNat < point then { w with delta := w.delta + 1 }
  else if c.toNat == point then
    { written := w.written ++ digits w.bias 36 w.delta
      bias := adapt w.delta (w.done + 1) (w.done == basic)
      delta := 0
      done := w.done + 1 }
  else w

/-- Writes the characters with the given code points, which ascend from the last one written. -/
def Writer.run (basic : Nat) (label : List Char) (last : Nat) : List Nat → Writer → Writer
  | [], w => w
  | point :: points, w =>
    let skipped := { w with delta := w.delta + (point - last) * (w.done + 1) }
    let passed := label.foldl (pass basic point) skipped
    run basic label (point + 1) points { passed with delta := passed.delta + 1 }

def encode (label : List Char) : List Char :=
  let basic := label.filter (·.toNat < 128)
  let points := (((label.map Char.toNat).filter (128 ≤ ·)).mergeSort (· ≤ ·)).eraseDups
  let start : Writer := ⟨[], 72, 0, basic.length⟩
  basic ++ (if basic.isEmpty then [] else ['-']) ++
    (Writer.run basic.length label 128 points start).written

/-- Reads a number, whose next digit has a `weight`, and what follows it. -/
def readNumber (bias position weight n : Nat) : List Char → Option (Nat × List Char)
  | [] => none
  | c :: rest =>
    match digitValue? c with
    | none => none
    | some d =>
      let t := threshold bias position
      if d < t then some (n + d * weight, rest)
      else readNumber bias (position + 36) (weight * (36 - t)) (n + d * weight) rest

theorem length_readNumber {bias position weight n m : Nat} {cs rest : List Char}
    (h : readNumber bias position weight n cs = some (m, rest)) : rest.length < cs.length := by
  fun_induction readNumber bias position weight n cs with
  | case1 => simp at h
  | case2 => simp at h
  | case3 =>
    simp only [Option.some.injEq, Prod.mk.injEq] at h
    simp [h.2]
  | case4 _ _ _ _ _ _ _ _ _ ih =>
    have := ih h
    simp only [List.length_cons]
    omega

/-- Inserts characters as the numbers say. -/
def insertAll (bias point index : Nat) (label : List Char) : List Char → Option (List Char)
  | [] => some label
  | c :: cs =>
    match h : readNumber bias 36 1 index (c :: cs) with
    | none => none
    | some (n, rest) =>
      have := length_readNumber h
      let count := label.length + 1
      let next := point + n / count
      if next.isValidChar then
        insertAll (adapt (n - index) count (index == 0)) next (n % count + 1)
          (label.insertIdx (n % count) (Char.ofNat next)) rest
      else none
  termination_by cs => cs.length
  decreasing_by
    all_goals
      simp only [List.length_cons] at *
      omega

/-- The label that a text stands for; what stands before its last hyphen is taken over. -/
def decode (cs : List Char) : Option (List Char) :=
  match Text.splitOnce (· == '-') cs.reverse with
  | some (extra, basic) =>
    if basic.isEmpty then none else insertAll 72 128 0 basic.reverse extra.reverse
  | none => insertAll 72 128 0 [] cs

end StreamPolicy.Url.Punycode
