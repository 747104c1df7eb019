import StreamPolicy.Text.Basic
import StreamPolicy.Unicode.Category

/-!
# Quoted texts

`quoted s` is `s` in double quotes, as messages show names that may hold anything. Quotes of either
kind, backslashes and what cannot be seen are escaped.
-/

namespace StreamPolicy.Text

/-- The characters that cannot be seen on their own: separators other than the plain space, marks
that combine with what is before them, and what is not for display at all. -/
def invisible : Unicode.CodeSet :=
  Unicode.CodeSet.unions [Unicode.Category.separator, Unicode.Category.nonspacingMark,
    Unicode.Category.enclosingMark, Unicode.Category.other]

/-- How `c` is written between quotes. -/
def visible (c : Char) : List Char :=
  match c with
  | '\x00' => ['\\', '0']
  | '\t' => ['\\', 't']
  | '\n' => ['\\', 'n']
  | '\r' => ['\\', 'r']
  | '"' => ['\\', '"']
  | '\'' => ['\\', '\'']
  | '\\' => ['\\', '\\']
  | ' ' => [' ']
  | c =>
    if c.toNat < 127 && 32 < c.toNat then [c]
    else if invisible.mem c then
      "\\u\x7b".toList ++ Nat.toDigits 16 c.toNat ++ ['\x7d']
    else [c]

def quoted (s : String) : String := "\"" ++ String.ofList (s.toList.flatMap visible) ++ "\""

end StreamPolicy.Text
