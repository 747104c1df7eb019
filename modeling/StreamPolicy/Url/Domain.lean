import StreamPolicy.Text.Basic
import StreamPolicy.Unicode.Case
import StreamPolicy.Unicode.Category
import StreamPolicy.Url.Punycode

/-!
# Domain names

`ascii?` puts a domain name into its ASCII form: letters become small, characters without a look of
their own are dropped, wide characters become narrow, and labels with characters outside ASCII are
written in Punycode.
-/

namespace StreamPolicy.Url.Domain

/-- Characters that leave no trace in a domain name. -/
def isIgnored (n : Nat) : Bool :=
  n == 0xAD || n == 0x200B || n == 0x2060 || n == 0xFEFF || (0xFE00 ≤ n && n ≤ 0xFE0F)

/-- What a character is mapped to before labels are looked at. -/
def mapped (c : Char) : List Char :=
  let n := c.toNat
  if isIgnored n then []
  else if n == 0x3002 || n == 0xFF0E || n == 0xFF61 then ['.']
  else if 0xFF01 ≤ n && n ≤ 0xFF5E then Unicode.lowercase (Char.ofNat (n - 0xFEE0))
  else Unicode.lowercase c

/-- Characters of ASCII that no domain name holds. -/
def isForbidden (c : Char) : Bool :=
  c.toNat ≤ 0x20 || c.toNat == 0x7F || "#%/:<>?@[\\]^|".toList.contains c

/-- Whether a character outside ASCII may stand in a label. -/
def isValid (c : Char) : Bool :=
  c.toNat < 128 || !(Unicode.Category.other.mem c || Unicode.Category.separator.mem c ||
    c.toNat == 0xFFFD)

/-- Whether a label may be written in Punycode. -/
def isLabel (label : List Char) : Bool :=
  label.all isValid && !(label.head?.any Unicode.Category.mark.mem)

def punycodeMark : List Char := "xn--".toList

/-- The ASCII form of `label`. One that is in Punycode already has to be the written form of what it
stands for. -/
def asciiLabel? (label : List Char) : Option (List Char) :=
  if punycodeMark.isPrefixOf label then
    let written := label.drop punycodeMark.length
    match Punycode.decode written with
    | none => none
    | some decoded =>
      if isLabel decoded && decoded.any (128 ≤ ·.toNat) && decoded.flatMap mapped == decoded &&
          Punycode.encode decoded == written then some label
      else none
  else if label.all (·.toNat < 128) then some label
  else if isLabel label then some (punycodeMark ++ Punycode.encode label)
  else none

def ascii? (domain : List Char) : Option (List Char) :=
  match (Text.splitAll (· == '.') (domain.flatMap mapped)).mapM asciiLabel? with
  | none => none
  | some labels =>
    let name := ['.'].intercalate labels
    if name.isEmpty || name.any isForbidden then none else some name

end StreamPolicy.Url.Domain
