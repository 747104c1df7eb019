import StreamPolicy.Media.Basic
import StreamPolicy.Text.Ascii
import StreamPolicy.Text.Blank
import StreamPolicy.Unicode.Case

/-!
# Names from probers

Tools that look into streams name codecs and containers in many ways. `MediaKind.ofProbe?` leaves
letter case, hyphens, underscores, dots and spaces out of account, and knows aliases.
-/

namespace StreamPolicy

/-- What counts of `name`. -/
def probeKey (name : String) : String :=
  let kept := (Text.trim name.toList).filter fun c => !(['-', '_', '.', ' '].contains c)
  String.ofList (kept.flatMap Unicode.lowercase)

def MediaKind.ofProbe? [MediaKind α] (name : String) : Option α :=
  let key := probeKey name
  (Named.all (α := α)).find? fun a => (Named.name a :: aliases a).contains key

/-- The truth value that `s` spells, in any letter case. -/
def parseFlag (s : String) : Except UnknownFlag Bool :=
  let word := Text.asciiLower (Text.trimmed s)
  if ["true", "1", "yes"].contains word then .ok true
  else if ["false", "0", "no"].contains word then .ok false
  else .error ⟨s⟩

end StreamPolicy
