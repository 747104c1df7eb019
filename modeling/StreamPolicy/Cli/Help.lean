import StreamPolicy.Cli.Grammar
import StreamPolicy.Text.Basic

/-!
# Help

The help of a command (`Grammar.help`): what it is about, how it is used, and sections with the
commands under it, its operands and its options. Each line of a section is an `Entry`.
-/

namespace StreamPolicy.Cli

/-- Something a section explains. -/
structure Entry where
  shown : String
  about : String
  /-- Follows `about` in brackets. -/
  note : String := ""

/-! ## Entries -/

def Role.valueText : Role → String
  | .value shown => s!" <{shown}>"
  | _ => ""

/-- The names of an option and of its value. Long names are aligned. -/
def Opt.shown (o : Opt) : String :=
  let short := match o.short with
    | some c => s!"-{c}, "
    | none => "    "
  short ++ "--" ++ o.long ++ o.role.valueText

def Opt.entry (o : Opt) : Entry where
  shown := o.shown
  about := o.about
  note := (o.initial.map fun value => s!"[default: {value}]").getD ""

def Operand.entry (o : Operand) : Entry := { shown := o.shown, about := o.about }

def Grammar.entry (g : Grammar) : Entry := { shown := g.name, about := g.about }

namespace Entry

def text (e : Entry) : String :=
  if e.about == "" then e.note
  else if e.note == "" then e.about
  else e.about ++ " " ++ e.note

def lineWidth : Nat := 100

/-- Whether `about` does not fit beside names of `width` columns, and these take up much of a
line. -/
def overflows (width : Nat) (e : Entry) : Bool :=
  let taken := width + 12
  2 * lineWidth < 5 * taken && taken ≤ lineWidth &&
    lineWidth - taken < e.about.length + e.note.length

def below (e : Entry) : String := "  " ++ e.shown ++ "\n          " ++ e.text

def beside (width : Nat) (e : Entry) : String :=
  "  " ++ String.ofList (Text.padRight width ' ' e.shown.toList) ++ "  " ++ e.text

/-- The lines of a section. All explanations go below if one of them does not fit. -/
def sectionText (title : String) (entries : List Entry) : String :=
  let width := (entries.map (·.shown.length)).foldl max 2
  let line := if entries.any (overflows width) then below else beside width
  title ++ ":\n" ++ "\n".intercalate (entries.map line)

end Entry

/-! ## Commands -/

namespace Grammar

/-- How a command is used, after the names `path` that lead to it. -/
def usage (path : List String) (g : Grammar) : String :=
  " ".intercalate (path ++
    (if g.options.any fun o => o.takesValue || o.role == .switch then ["[OPTIONS]"] else []) ++
    g.operands.map (·.shown) ++ if g.commands.isEmpty then [] else ["<COMMAND>"])

def sections (g : Grammar) : List String :=
  [("Commands", g.commands.map entry), ("Arguments", g.operands.map Operand.entry),
    ("Options", g.options.map Opt.entry)].filterMap fun (title, entries) =>
      if entries.isEmpty then none else some (Entry.sectionText title entries)

def help (path : List String) (g : Grammar) : String :=
  "\n\n".intercalate ([g.about, "Usage: " ++ g.usage path] ++ g.sections) ++ "\n"

end Grammar

end StreamPolicy.Cli
