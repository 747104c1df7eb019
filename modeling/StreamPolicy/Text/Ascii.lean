/-!
# Letter case in ASCII

Names of headers, keywords and targets are compared by `sameIgnoringCase`, without regard to the
case of ASCII letters; every other character stands for itself.
-/

namespace StreamPolicy.Text

/-- The text with its ASCII capitals made small. -/
def asciiLower (s : String) : String := String.ofList (s.toList.map Char.toLower)

/-- Whether `s` and `t` differ at most in the case of ASCII letters. -/
def sameIgnoringCase (s t : String) : Bool := asciiLower s == asciiLower t

def isHexDigit (c : Char) : Bool :=
  c.isDigit || (97 ≤ c.toNat && c.toNat ≤ 102) || (65 ≤ c.toNat && c.toNat ≤ 70)

/-- The value of a hexadecimal digit, in either case. -/
def hexValue (c : Char) : Nat :=
  if c.isDigit then c.toNat - 48 else c.toLower.toNat - 87

/-- The number that `digits` write in `base`, the first digit counting most. -/
def ofDigits (base : Nat) (digits : List Char) : Nat :=
  digits.foldl (fun n c => n * base + hexValue c) 0

/-- The hexadecimal digit of `n`, which is below sixteen. -/
def hexDigit (n : Nat) : Char := if n < 10 then Char.ofNat (48 + n) else Char.ofNat (87 + n)

end StreamPolicy.Text
