import StreamPolicy.Text.Ascii
import StreamPolicy.Text.Utf8

/-!
# Percent-encoding

A byte is written as a percent sign and two hexadecimal digits. Each part of a URL has its own set
of characters that are written so, such as `pathSet` and `querySet`; control characters and
characters outside ASCII always are.
-/

namespace StreamPolicy.Url.Percent

/-- The bytes of a text in which percent sequences stand for bytes. A percent sign that two
hexadecimal digits do not follow stands for itself. -/
def decode : List Char → List UInt8
  | '%' :: a :: b :: rest =>
    if Text.isHexDigit a && Text.isHexDigit b then
      UInt8.ofNat (Text.ofDigits 16 [a, b]) :: decode rest
    else Text.Utf8.encode ['%'] ++ decode (a :: b :: rest)
  | c :: rest => Text.Utf8.encode [c] ++ decode rest
  | [] => []

/-- A byte as a percent sequence. -/
def encodeByte (b : UInt8) : List Char :=
  ['%', (Text.hexDigit (b.toNat / 16)).toUpper, (Text.hexDigit (b.toNat % 16)).toUpper]

/-- Whether a character is written in percent sequences in every part. -/
def isAlwaysEncoded (c : Char) : Bool := c.toNat < 0x20 || 0x7F ≤ c.toNat

/-- The text `cs` with the characters of `set`, and those that always are, in percent sequences. -/
def encode (set : List Char) (cs : List Char) : List Char :=
  cs.flatMap fun c =>
    if isAlwaysEncoded c || set.contains c then (Text.Utf8.encode [c]).flatMap encodeByte else [c]

/-- The characters that a path does not hold as they are. -/
def pathSet : List Char := [' ', '"', '#', '<', '>', '?', '\x60', '\x7b', '\x7d']

/-- The characters that a query does not hold as they are. -/
def querySet : List Char := [' ', '"', '#', '<', '>']

end StreamPolicy.Url.Percent
