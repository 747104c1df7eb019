import StreamPolicy.Data.Basic
import StreamPolicy.Text.Ascii
import StreamPolicy.Text.Basic

/-!
# Identifiers

A `Uuid` is a number of 128 bits. `Uuid.text` writes it as 32 hexadecimal digits in five groups, and
`Uuid.parse?` reads it with or without hyphens, in braces, or behind the mark of a resource name.
-/

namespace StreamPolicy

structure Uuid where
  bits : BitVec 128
  deriving DecidableEq, Repr

namespace Uuid

def ofNat (n : Nat) : Uuid := ⟨BitVec.ofNat 128 n⟩

def toNat (u : Uuid) : Nat := u.bits.toNat

/-- The digit that names the version. -/
def version (u : Uuid) : Nat := (u.toNat >>> 76) % 16

def succ (u : Uuid) : Uuid := ⟨u.bits + 1⟩

/-- The last digits of a number in base sixteen: `hexDigits count n` has `count` of those of `n`. -/
def hexDigits : Nat → Nat → List Char
  | 0, _ => []
  | count + 1, n => hexDigits count (n / 16) ++ [Text.hexDigit (n % 16)]

def grouped (digits : List Char) : List Char :=
  digits.take 8 ++ '-' :: (digits.drop 8).take 4 ++ '-' :: (digits.drop 12).take 4 ++
    '-' :: (digits.drop 16).take 4 ++ '-' :: digits.drop 20

/-- The identifier as it is written: small letters and hyphens. -/
def text (u : Uuid) : String := String.ofList (grouped (hexDigits 32 u.toNat))

def ofDigits? (digits : List Char) : Option Uuid :=
  if digits.length == 32 && digits.all Text.isHexDigit then some (ofNat (Text.ofDigits 16 digits))
  else none

def ofGrouped? (cs : List Char) : Option Uuid :=
  let digits := cs.take 8 ++ (cs.drop 9).take 4 ++ (cs.drop 14).take 4 ++ (cs.drop 19).take 4 ++
    cs.drop 24
  if cs == grouped digits then ofDigits? digits else none

/-- What stands before an identifier that is written as a resource name. -/
def resourceMark : List Char := "urn:uuid:".toList

def parse? (s : String) : Option Uuid :=
  let cs := s.toList
  if cs.length == 32 then ofDigits? cs
  else if cs.length == 36 then ofGrouped? cs
  else if cs.length == 38 && cs.head? == some '\x7b' && cs.getLast? == some '\x7d' then
    ofGrouped? cs.tail.dropLast
  else if cs.length == 45 && resourceMark.isPrefixOf cs then
    ofGrouped? (cs.drop resourceMark.length)
  else none

instance : Coded Uuid where
  encode u := .text u.text
  decode?
    | .text s => parse? s
    | _ => none

end Uuid

end StreamPolicy
