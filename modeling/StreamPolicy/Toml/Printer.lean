import StreamPolicy.Data.Basic
import StreamPolicy.Text.Ascii
import StreamPolicy.Text.Basic
import StreamPolicy.Toml.Trivia

/-!
# Writing values

`valueText` writes a value. Texts with quotes or backslashes in them are written without escapes
where that is possible, and texts of several lines are written on several lines.
-/

namespace StreamPolicy.Toml

/-- The character `c` in double quotes. Line ends of a text of several lines stand for
themselves. -/
def escaped (isMulti : Bool) (c : Char) : List Char :=
  match c with
  | '\x08' => ['\\', 'b']
  | '\t' => ['\\', 't']
  | '\n' => if isMulti then ['\n'] else ['\\', 'n']
  | '\x0c' => ['\\', 'f']
  | '\r' => ['\\', 'r']
  | '"' => ['\\', '"']
  | '\\' => ['\\', '\\']
  | c =>
    if isPlain c then [c]
    else '\\' :: 'u' :: (Text.padLeft 4 '0' ((Nat.toDigits 16 c.toNat).map Char.toUpper))

/-- Whether `cs` can stand without escapes in three single quotes, and gains by it. -/
def prefersLiteral (cs : List Char) : Bool :=
  (cs.contains '"' || cs.contains '\\') && cs.all (fun c => isPlain c || c == '\n') &&
    !Text.occursIn ['\'', '\'', '\''] cs && cs.getLast? != some '\''

def quotedText (s : String) : String :=
  let cs := s.toList
  let isMulti := cs.contains '\n'
  if prefersLiteral cs then
    if isMulti then "'''\n" ++ s ++ "'''"
    else if cs.contains '\'' then "'''" ++ s ++ "'''"
    else "'" ++ s ++ "'"
  else
    let inside := String.ofList (cs.flatMap (escaped isMulti))
    if isMulti then "\"\"\"\n" ++ inside ++ "\"\"\"" else "\"" ++ inside ++ "\""

/-- A value on one line, as far as its texts allow. -/
def valueText : Data → String
  | .null => ""
  | .bool b => if b then "true" else "false"
  | .int n => toString n
  | .text s => quotedText s
  | .decimal s => s
  | .moment s => s
  | .list ds => "[" ++ ", ".intercalate (texts ds) ++ "]"
  | .record fields => "\x7b " ++ ", ".intercalate (pairTexts fields) ++ " \x7d"
where
  texts : List Data → List String
    | [] => []
    | d :: ds => valueText d :: texts ds
  pairTexts : List (String × Data) → List String
    | [] => []
    | (k, d) :: rest => (k ++ " = " ++ valueText d) :: pairTexts rest

end StreamPolicy.Toml
