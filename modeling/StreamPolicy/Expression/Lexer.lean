import StreamPolicy.Expression.ParseError
import StreamPolicy.Expression.Token
import StreamPolicy.Text.Blank

/-!
# Splitting a text into tokens

`lex` splits a text. Space, tab, line ends and form feeds separate tokens and are dropped. At every
other place `Token.next?` takes the longest token; where there is none, the character found there
tells what is wrong (`faultAt`).
-/

namespace StreamPolicy

/-- A token and the byte offset of its first character. -/
structure Lexeme where
  token : Token
  start : Nat
  deriving DecidableEq, Repr

namespace Lexeme

/-- The byte offset behind the token. -/
def stop (l : Lexeme) : Nat := l.start + Text.byteSize l.token.text

def isSeparator (c : Char) : Bool :=
  c == ' ' || c == '\t' || c == '\r' || c == '\n' || c == '\x0c'

/-- What is wrong with a text that begins with no token. -/
def faultAt (c : Char) (rest : List Char) : ParseFault :=
  if c == '"' || c == '\'' then .unterminatedString
  else if c == '@' then
    .malformedDynamicField (String.ofList ((c :: rest).takeWhile (!Text.isBlank ·)))
  else .invalidCharacter c

/-- The tokens of a text that stands at the byte `offset`. -/
def lexFrom (offset : Nat) : List Char → Except ParseError (List Lexeme)
  | [] => .ok []
  | c :: rest =>
    if isSeparator c then lexFrom (offset + c.utf8Size) rest
    else
      match h : Token.next? (c :: rest) with
      | none => .error ⟨faultAt c rest, offset⟩
      | some (token, rest') =>
        have := Token.length_next? h
        (lexFrom (offset + Text.byteSize token.text) rest').map (⟨token, offset⟩ :: ·)
  termination_by cs => cs.length
  decreasing_by
    all_goals
      simp only [List.length_cons] at *
      omega

def lex (text : String) : Except ParseError (List Lexeme) := lexFrom 0 text.toList

end Lexeme

end StreamPolicy
