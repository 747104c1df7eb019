import StreamPolicy.Data.Basic
import StreamPolicy.Text.Ascii
import StreamPolicy.Text.Basic

/-!
# Data as JSON

`Data.json` is the JSON text of data, spread over lines: every item of a list and every field of a
record has a line of its own, two columns further to the right than the brackets around it.
-/

namespace StreamPolicy.Data

/-- A character between quotes. Only quotes, backslashes and control characters are escaped. -/
def jsonChar (c : Char) : List Char :=
  match c with
  | '"' => ['\\', '"']
  | '\\' => ['\\', '\\']
  | '\n' => ['\\', 'n']
  | '\r' => ['\\', 'r']
  | '\t' => ['\\', 't']
  | '\x08' => ['\\', 'b']
  | '\x0c' => ['\\', 'f']
  | c =>
    if c.toNat < 32 then '\\' :: 'u' :: Text.padLeft 4 '0' (Nat.toDigits 16 c.toNat) else [c]

def jsonString (s : String) : String := "\"" ++ String.ofList (s.toList.flatMap jsonChar) ++ "\""

/-- The start of a line inside `level` brackets. -/
def jsonLine (level : Nat) : String := "\n" ++ String.ofList (List.replicate (2 * level) ' ')

/-- The JSON text of data inside `level` brackets. -/
def jsonAt (level : Nat) : Data → String
  | .null => "null"
  | .bool b => if b then "true" else "false"
  | .int n => toString n
  | .text s => jsonString s
  | .decimal s => s
  | .moment s => jsonString s
  | .list [] => "[]"
  | .list (d :: ds) => "[" ++ ",".intercalate (items (level + 1) (d :: ds)) ++ jsonLine level ++ "]"
  | .record [] => "\x7b\x7d"
  | .record (f :: fs) =>
    "\x7b" ++ ",".intercalate (fields (level + 1) (f :: fs)) ++ jsonLine level ++ "\x7d"
where
  items (level : Nat) : List Data → List String
    | [] => []
    | d :: ds => (jsonLine level ++ jsonAt level d) :: items level ds
  fields (level : Nat) : List (String × Data) → List String
    | [] => []
    | (name, d) :: fs =>
      (jsonLine level ++ jsonString name ++ ": " ++ jsonAt level d) :: fields level fs

def json (d : Data) : String := jsonAt 0 d

end StreamPolicy.Data
