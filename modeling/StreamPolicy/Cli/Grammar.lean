/-!
# Command line grammars

A `Grammar` says which options and operands a command takes and which commands it has under it. The
help of a command (`Grammar.help`) and the reading of its arguments (`Grammar.read`) both follow
from its grammar.
-/

namespace StreamPolicy.Cli

/-- What an option is for. -/
inductive Role
  /-- It is there or it is not. -/
  | switch
  /-- It has a value, which the help shows as `shown`. -/
  | value (shown : String)
  | help
  | version (text : String)
  deriving DecidableEq, Repr

structure Opt where
  long : String
  short : Option Char := none
  role : Role := .switch
  about : String := ""
  /-- The value that stands for none given. -/
  initial : Option String := none
  /-- Whether it may be given several times. -/
  isList : Bool := false
  accepts : String → Bool := fun _ => true

/-- A value that is given by its place and has to be there. -/
structure Operand where
  shown : String
  about : String := ""
  accepts : String → Bool := fun _ => true

/-- A command. Options and commands under it come in the order in which its help lists them. -/
structure Grammar where
  name : String
  about : String
  options : List Opt := []
  operands : List Operand := []
  commands : List Grammar := []

/-- The word that asks for the help of the command that follows it. -/
def helpWord : String := "help"

/-- The command that shows the help of others. -/
def helpCommand : Grammar where
  name := helpWord
  about := "Print this message or the help of the given subcommand(s)"
  operands := [{ shown := "[COMMAND]...", about := "Print help for the subcommand(s)" }]

def Opt.takesValue (o : Opt) : Bool :=
  match o.role with
  | .value _ => true
  | _ => false

namespace Grammar

def long? (g : Grammar) (name : String) : Option Opt := g.options.find? (·.long == name)

def short? (g : Grammar) (c : Char) : Option Opt := g.options.find? (·.short == some c)

def command? (g : Grammar) (name : String) : Option Grammar := g.commands.find? (·.name == name)

end Grammar

end StreamPolicy.Cli
