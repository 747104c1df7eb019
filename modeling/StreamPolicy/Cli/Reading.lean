import StreamPolicy.Cli.Help

/-!
# Reading arguments

Arguments are read from left to right (`Progress.readAll`), each by the grammar of the command that
has been reached. Reading stops with a `Halt` at the first argument that does not fit and at the
first that asks for help or for the version.
-/

namespace StreamPolicy.Cli

/-- Why there is no command to run. -/
inductive Halt
  | refused
  /-- There is only a text to be shown. -/
  | shown (text : String)
  deriving DecidableEq, Repr

/-- What arguments say: the names that lead to a command, the options with their values in order,
those of outer commands first, and the operands of the command. -/
structure Reading where
  path : List String
  options : List (String × String)
  operands : List String
  deriving DecidableEq, Repr

namespace Reading

def has (r : Reading) (name : String) : Bool := r.options.any (·.1 == name)

def values (r : Reading) (name : String) : List String :=
  (r.options.filter (·.1 == name)).map (·.2)

/-- The value of an option. That of an inner command goes before that of an outer one. -/
def value? (r : Reading) (name : String) : Option String := (r.values name).getLast?

end Reading

structure Progress where
  /-- The command that has been reached, and the names that lead to it. -/
  grammar : Grammar
  path : List String
  /-- Options of outer commands. -/
  outer : List (String × String) := []
  options : List (String × String) := []
  operands : List String := []
  /-- The option whose value comes next. -/
  awaiting : Option Opt := none
  /-- Whether all that follows is operands. -/
  operandsOnly : Bool := false

namespace Progress

/-- The option `o` with `value`. -/
def give (p : Progress) (o : Opt) (value : String) : Except Halt Progress :=
  if !o.isList && p.options.any (·.1 == o.long) then .error .refused
  else if o.accepts value then
    .ok { p with options := p.options ++ [(o.long, value)], awaiting := none }
  else .error .refused

/-- The option `o` without a value. -/
def name (p : Progress) (o : Opt) : Except Halt Progress :=
  match o.role with
  | .switch => p.give o ""
  | .value _ => .ok { p with awaiting := some o }
  | .help => .error (.shown (p.grammar.help p.path))
  | .version text => .error (.shown text)

/-- Reads what follows `--`. A value follows `=`. -/
def readLong (p : Progress) (word : List Char) : Except Halt Progress :=
  match Text.splitOnce (· == '=') word with
  | none =>
    match p.grammar.long? (String.ofList word) with
    | some o => p.name o
    | none => .error .refused
  | some (before, value) =>
    match p.grammar.long? (String.ofList before) with
    | some o => if o.takesValue then p.give o (String.ofList value) else .error .refused
    | none => .error .refused

/-- Reads what follows `-`: options without values, of which the last may have one that is the rest
of the word. -/
def readShorts (p : Progress) : List Char → Except Halt Progress
  | [] => .ok p
  | c :: rest =>
    match p.grammar.short? c with
    | none => .error .refused
    | some o =>
      if o.takesValue then
        match rest with
        | [] => p.name o
        | '=' :: value => p.give o (String.ofList value)
        | value => p.give o (String.ofList value)
      else match p.name o with
        | .ok p => p.readShorts rest
        | .error h => .error h

def readOperand (p : Progress) (word : String) : Except Halt Progress :=
  match p.grammar.operands[p.operands.length]? with
  | some o =>
    if o.accepts word then .ok { p with operands := p.operands ++ [word] } else .error .refused
  | none => .error .refused

/-- The command `g` under the one that had been reached. -/
def enter (p : Progress) (g : Grammar) : Progress :=
  { grammar := g, path := p.path ++ [g.name], outer := p.outer ++ p.options }

def looksLikeOption : List Char → Bool
  | '-' :: _ :: _ => true
  | _ => false

/-- Reads a word that is neither the value of an option nor behind the mark `--` for operands. -/
def readWord (p : Progress) (word : String) : Except Halt Progress :=
  match p.grammar.command? word with
  | some g => .ok (p.enter g)
  | none =>
    match word.toList with
    | ['-', '-'] => .ok { p with operandsOnly := true }
    | '-' :: '-' :: rest => p.readLong rest
    | '-' :: c :: rest => p.readShorts (c :: rest)
    | _ => p.readOperand word

def step (p : Progress) (word : String) : Except Halt Progress :=
  if p.operandsOnly then p.readOperand word
  else match p.awaiting with
    | some o => if looksLikeOption word.toList then .error .refused else p.give o word
    | none => p.readWord word

/-- Nothing follows. All operands have to be there, and a command that has others under it is not
complete. -/
def finish (p : Progress) : Except Halt Reading :=
  if p.awaiting.isNone && p.grammar.commands.isEmpty &&
      p.operands.length == p.grammar.operands.length then
    .ok { path := p.path, options := p.outer ++ p.options, operands := p.operands }
  else .error .refused

/-- Whether `word` asks for help, about which the rest says. -/
def asksHelp (p : Progress) (word : String) : Bool :=
  !p.operandsOnly && p.awaiting.isNone && word == helpWord && (p.grammar.command? helpWord).isSome

end Progress

/-- The help of the command under `g` that the names lead to. -/
def Grammar.helpAbout (path : List String) (g : Grammar) : List String → Halt
  | [] => .shown (g.help path)
  | name :: names =>
    match g.command? name with
    | some inner => inner.helpAbout (path ++ [name]) names
    | none => .refused

def Progress.readAll (p : Progress) : List String → Except Halt Reading
  | [] => p.finish
  | word :: words =>
    if p.asksHelp word then .error (p.grammar.helpAbout p.path words)
    else match p.step word with
      | .ok p => p.readAll words
      | .error h => .error h

def Grammar.read (g : Grammar) (args : List String) : Except Halt Reading :=
  Progress.readAll { grammar := g, path := [g.name] } args

end StreamPolicy.Cli
