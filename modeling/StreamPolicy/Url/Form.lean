import StreamPolicy.Text.Basic
import StreamPolicy.Url.Percent

/-!
# Query parameters

`parse` reads a query as pairs set apart by ampersands. In names and values a plus sign stands for a
space and percent sequences stand for bytes.
-/

namespace StreamPolicy.Url.Form

def decode (cs : List Char) : String :=
  let spaced := cs.map fun c => if c == '+' then ' ' else c
  String.ofList (Text.Utf8.decodeLossy (Percent.decode spaced))

/-- The name and the value of `piece`. Without an equals sign the value is empty. -/
def pair (piece : List Char) : String × String :=
  match Text.splitOnce (· == '=') piece with
  | some (name, value) => (decode name, decode value)
  | none => (decode piece, "")

/-- The pairs of a query, in order. Empty pieces are none. -/
def parse (query : String) : List (String × String) :=
  ((Text.splitAll (· == '&') query.toList).filter (!·.isEmpty)).map pair

end StreamPolicy.Url.Form
