import StreamPolicy.Unicode.Category
import StreamPolicy.Unicode.Property
import StreamPolicy.Unicode.Script
import StreamPolicy.Text.Blank
import StreamPolicy.Pattern.Regex

/-!
# Named classes of characters

The classes that patterns name: the letters d, s and w after a backslash (`shorthandClass`), the
bracketed ASCII classes (`asciiClass?`), and Unicode's properties, categories and scripts
(`namedClass?`, `valueClass?`).
-/

namespace StreamPolicy.Pattern

open StreamPolicy.Unicode

/-- The class of the letter d, s or w, over all characters or over ASCII. -/
def shorthandClass (kind : WordKind) (letter : Char) : CodeSet :=
  match kind, letter with
  | .unicode, 'd' => Category.decimalNumber
  | .unicode, 's' => Property.whiteSpace
  | .unicode, _ => unicodeWord
  | .ascii, 'd' => ⟨[(48, 57)]⟩
  | .ascii, 's' => ⟨[(9, 13), (32, 32)]⟩
  | .ascii, _ => asciiWord

/-- The ASCII classes that stand between brackets and colons. -/
def asciiClass? : String → Option CodeSet
  | "alnum" => some ⟨[(48, 57), (65, 90), (97, 122)]⟩
  | "alpha" => some ⟨[(65, 90), (97, 122)]⟩
  | "ascii" => some ⟨[(0, 127)]⟩
  | "blank" => some ⟨[(9, 9), (32, 32)]⟩
  | "cntrl" => some ⟨[(0, 31), (127, 127)]⟩
  | "digit" => some ⟨[(48, 57)]⟩
  | "graph" => some ⟨[(33, 126)]⟩
  | "lower" => some ⟨[(97, 122)]⟩
  | "print" => some ⟨[(32, 126)]⟩
  | "punct" => some ⟨[(33, 47), (58, 64), (91, 96), (123, 126)]⟩
  | "space" => some ⟨[(9, 13), (32, 32)]⟩
  | "upper" => some ⟨[(65, 90)]⟩
  | "word" => some asciiWord
  | "xdigit" => some ⟨[(48, 57), (65, 70), (97, 102)]⟩
  | _ => none

/-- The form of `name` that is compared: ASCII, small, without separators, and without a leading
"is". -/
def looseName (name : List Char) : String :=
  let kept := (name.filter fun c => c.toNat < 128 && !(c == ' ' || c == '_' || c == '-')).map
    Char.toLower
  let isWord := name.take 2 |>.map Char.toLower
  let plain := if isWord == ['i', 's'] then kept.drop 2 else kept
  if isWord == ['i', 's'] && plain == ['c'] then "isc" else String.ofList plain

def lookup (table : List (List String × CodeSet)) (name : String) : Option CodeSet :=
  (table.find? fun entry => entry.1.contains name).map (·.2)

def categoryClass? (name : String) : Option CodeSet :=
  match name with
  | "any" => some .all
  | "assigned" => some Category.unassigned.compl
  | "ascii" => some ⟨[(0, 127)]⟩
  | _ => lookup Category.table name

/-- The class that a name alone stands for: a property, a category or a script. Three names mean a
category although a property has them too. -/
def namedClass? (name : List Char) : Option CodeSet :=
  let loose := looseName name
  let property :=
    if loose == "cf" || loose == "sc" || loose == "lc" then none else lookup Property.table loose
  property <|> categoryClass? loose <|> lookup Script.table loose

/-- The class of those code points for which `property` has `value`. -/
def valueClass? (property value : List Char) : Option CodeSet :=
  match looseName property with
  | "generalcategory" | "gc" => categoryClass? (looseName value)
  | "script" | "sc" | "scriptextensions" | "scx" => lookup Script.table (looseName value)
  | _ => none

end StreamPolicy.Pattern
