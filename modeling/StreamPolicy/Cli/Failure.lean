import StreamPolicy.Expression.Evaluation
import StreamPolicy.Rule.Error
import StreamPolicy.Text.Quoted

/-!
# Failures

A `Failure` is why a command cannot be carried out, and `Failure.text` what is said about it. A
parse error is shown below the expression, where the error is (`pointer`).
-/

namespace StreamPolicy.Cli

inductive Failure
  | unreadable (path reason : String)
  /-- A file holds no configuration. -/
  | noConfig (path : String)
  | noExpression (text : String) (error : ParseError)
  | notEvaluated (error : EvalError)
  | rule (error : RuleError)
  | unwritable (path reason : String)
  deriving DecidableEq, Repr

/-- The column of the byte at `offset` of `text`, counted from one. -/
def caretColumn (text : String) (offset : Nat) : Nat :=
  (Text.charsWithin? offset text.toList).getD offset + 1

/-- The expression `text` with a mark below `column`. -/
def pointer (text : String) (column : Nat) : String :=
  text ++ "\n" ++ String.ofList (Text.padLeft column ' ' ['^']) ++ "\n"

namespace Failure

def message : Failure → String
  | .unreadable path _ => "Failed to read config file: " ++ Text.quoted path
  | .noConfig path => "Failed to parse config file: " ++ Text.quoted path
  | .noExpression _ e => s!"Invalid expression: {e.message}"
  | .notEvaluated e => s!"Expression could not be evaluated: {e.message}"
  | .rule e => e.message
  | .unwritable path _ => "Failed to persist rules to " ++ Text.quoted path

/-- What lies behind a failure, if it is more than `message` says. -/
def cause? : Failure → Option String
  | .unreadable _ reason => some reason
  | .noConfig _ => some "the text is not a configuration"
  | .unwritable _ reason => some reason
  | _ => none

/-- What is shown before `message`. -/
def introduction : Failure → String
  | .noExpression text e => pointer text (caretColumn text e.offset)
  | _ => ""

def text (f : Failure) : String :=
  let cause := (f.cause?.map fun reason => "\n\nCaused by:\n    " ++ reason).getD ""
  f.introduction ++ "Error: " ++ f.message ++ cause ++ "\n"

end Failure

end StreamPolicy.Cli
