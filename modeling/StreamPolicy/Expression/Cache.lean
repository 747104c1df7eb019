import StreamPolicy.Expression.Parser

/-!
# Parsed texts

A `ParseCache` keeps what `Expression.parse` gave for each text, errors included.
-/

namespace StreamPolicy

abbrev Parsed := Except ParseError Expression

/-- Texts and what is known of each; no text is there twice. -/
structure ParseCache where
  entries : List (String × Parsed)
  nodup : (entries.map Prod.fst).Nodup

namespace ParseCache

def empty : ParseCache := ⟨[], List.nodup_nil⟩

instance : Inhabited ParseCache := ⟨empty⟩

def size (c : ParseCache) : Nat := c.entries.length

def isEmpty (c : ParseCache) : Bool := c.entries.isEmpty

def get? (c : ParseCache) (text : String) : Option Parsed := c.entries.lookup text

/-- Keeps the entries of the texts that satisfy `p`. -/
def filter (c : ParseCache) (p : String → Bool) : ParseCache where
  entries := c.entries.filter fun e => p e.1
  nodup := c.nodup.sublist (List.filter_sublist.map Prod.fst)

/-- Drops what is not among `texts`. -/
def retain (c : ParseCache) (texts : List String) : ParseCache := c.filter texts.contains

/-- Stores the entry of `text` in place of an earlier one. -/
def insert (c : ParseCache) (text : String) (parsed : Parsed) : ParseCache where
  entries := (text, parsed) :: (c.filter (· != text)).entries
  nodup := by
    refine List.nodup_cons.2 ⟨?_, (c.filter _).nodup⟩
    simp [filter]

/-- What `Expression.parse` gives for `text`; the cache is asked first and remembers the answer. -/
def parse (c : ParseCache) (text : String) : Parsed × ParseCache :=
  match c.get? text with
  | some parsed => (parsed, c)
  | none =>
    let parsed := Expression.parse text
    (parsed, c.insert text parsed)

end ParseCache

end StreamPolicy
