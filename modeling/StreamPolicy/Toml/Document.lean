import StreamPolicy.Toml.Printer
import StreamPolicy.Toml.Value

/-!
# Documents

A `Document` is read into entries, each of which keeps its writing and what stands before it, so
that `replace` can exchange some entries while all others stay as they are written. What a document
means (`data?`) is put together from the contents of its entries.
-/

namespace StreamPolicy.Toml

/-- What an entry says. -/
inductive Content
  | pair (p : Pair)
  | header (isArray : Bool) (path : Path)
  deriving Repr

/-- A line of a document, or several that belong together. -/
structure Entry where
  content : Content
  /-- The blanks, line ends and comments before the entry. -/
  leading : List Char := []
  /-- The first key as it is written, with the blanks behind it that belong to it. -/
  key : List Char
  /-- The entry as it is written, to the end of its line. -/
  body : List Char
  deriving Repr

structure Document where
  entries : List Entry
  /-- What stands behind the last entry. -/
  trailing : List Char := []
  deriving Repr

/-! ## Meaning -/

/-- The contents as the pairs of the document itself and the sections that follow. -/
def sections : List Content → List Pair × List Section
  | [] => ([], [])
  | .pair p :: rest =>
    let (ps, ss) := sections rest
    (p :: ps, ss)
  | .header isArray path :: rest =>
    let (ps, ss) := sections rest
    ([], ⟨path, isArray, ps⟩ :: ss)

/-- The table that `contents` make up, if they agree with each other. -/
def tableOf? (contents : List Content) : Option Items :=
  let (ps, ss) := sections contents
  match Items.addPairs [] ps with
  | none => none
  | some items => ss.foldlM Items.addSection items

namespace Document

def table? (d : Document) : Option Items := tableOf? (d.entries.map (·.content))

/-! ## Reading -/

/-- The first key of `cs` as it is written. Blanks behind it belong to it unless a point follows. -/
def keyText (cs : List Char) : List Char :=
  match part? (skipBlanks cs) with
  | none => []
  | some (_, rest) =>
    if (skipBlanks rest).head? == some '.' then passed cs rest else passed cs (skipBlanks rest)

/-- A header, whose first bracket has been passed. -/
def header? (cs : List Char) : Option (Content × List Char × List Char) :=
  match cs with
  | '[' :: rest =>
    match key? rest with
    | some (path, ']' :: ']' :: behind) => some (.header true path, keyText rest, behind)
    | _ => none
  | _ =>
    match key? cs with
    | some (path, ']' :: behind) => some (.header false path, keyText cs, behind)
    | _ => none

def content? (cs : List Char) : Option (Content × List Char × List Char) :=
  match cs with
  | '[' :: rest => header? rest
  | _ => (pair? (value? maxDepth) cs).map fun r => (.pair r.1, keyText cs, r.2)

def entries? (cs : List Char) : Option (List Entry × List Char) :=
  let start := skipTrivia cs
  if start.isEmpty then some ([], cs)
  else match content? start with
    | none => none
    | some (content, key, behind) =>
      match lineEnd? behind with
      | none => none
      | some rest =>
        if rest.length < cs.length then
          let entry : Entry :=
            { content, leading := passed cs start, key, body := passed start rest }
          (entries? rest).map fun r => (entry :: r.1, r.2)
        else none
  termination_by cs.length

/-- Reads a document. A byte order mark at its front is dropped. -/
def parse? (text : String) : Option Document :=
  let cs := text.toList
  let cs := if cs.head? == some '\uFEFF' then cs.tail else cs
  match entries? cs with
  | none => none
  | some (entries, trailing) =>
    let d : Document := ⟨entries, trailing⟩
    if d.table?.isSome then some d else none

def data? (text : String) : Option Data := ((parse? text).bind table?).map Items.toData

/-! ## Writing -/

/-- The line `cs` with its end, which the last line of a document may lack. -/
def ended (cs : List Char) : List Char := if cs.getLast? == some '\n' then cs else cs ++ ['\n']

def text (d : Document) : String :=
  String.ofList (d.entries.flatMap (fun e => e.leading ++ ended e.body) ++ d.trailing)

/-! ## Exchanging sections -/

/-- The first key of each entry, which for a pair below a header is that of the header. -/
def withOwners (owner : Option String) : List Entry → List (Option String × Entry)
  | [] => []
  | e :: rest =>
    match e.content with
    | .header _ path => (path.head?, e) :: withOwners path.head? rest
    | .pair p => (owner <|> p.path.head?, e) :: withOwners owner rest

/-- The document without what stands under `key`. -/
def erase (d : Document) (key : String) : Document :=
  { d with entries := (withOwners none d.entries).filterMap fun (owner, e) =>
      if owner == some key then none else some e }

/-- How `key` is written where it occurs first, together with what stands before it there if it has
a value of its own. -/
def spelling (d : Document) (key : String) : List Char :=
  match (withOwners none d.entries).find? fun x => x.1 == some key with
  | none => key.toList
  | some (_, e) =>
    match e.content with
    | .pair _ => e.leading ++ e.key
    | .header .. => e.key

/-- A pair of a section, on a line of its own. -/
def pairEntry (field : String × Data) : Entry where
  content := .pair ⟨[field.1], field.2⟩
  key := field.1.toList
  body := s!"{field.1} = {valueText field.2}\n".toList

/-- One table of the list of tables `key`, whose header is written as `spelling`. -/
def sectionEntries (key : String) (spelling : List Char) (fields : List (String × Data)) :
    List Entry :=
  { content := .header true [key]
    leading := ['\n']
    key := spelling
    body := "[[".toList ++ spelling ++ "]]\n".toList } :: fields.map pairEntry

/-- The document with a list of tables in place of what stands under `key`. The headers are written
as the key was, by `spelling`. -/
def replace (d : Document) (key : String) (tables : List (List (String × Data))) : Document :=
  let rest := d.erase key
  { rest with entries := rest.entries ++ tables.flatMap (sectionEntries key (d.spelling key)) }

end Document

end StreamPolicy.Toml
