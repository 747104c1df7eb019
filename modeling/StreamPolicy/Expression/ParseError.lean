/-!
# Errors in expressions

A `ParseError` says why a text is no expression, and where in it that shows.
-/

namespace StreamPolicy

inductive ParseFault
  | unexpectedToken (token : String)
  | unexpectedEnd (expected : String)
  | unbalancedParenthesis
  | unknownOperator (word : String)
  | missingOperand (after : String)
  | unknownScope (scope : String)
  | malformedDynamicField (text : String)
  | unknownTarget (word : String)
  | invalidPattern (pattern : String)
  | unterminatedString
  | tooDeep (limit : Nat)
  | invalidCharacter (c : Char)
  deriving DecidableEq, Repr

/-- The message of a fault. What makes a pattern invalid is not spelled out. -/
def ParseFault.message : ParseFault → String
  | .unexpectedToken token => s!"unexpected token '{token}'"
  | .unexpectedEnd expected => s!"unexpected end of input, expected {expected}"
  | .unbalancedParenthesis => "unbalanced parenthesis"
  | .unknownOperator word => s!"unknown operator '{word}'"
  | .missingOperand after => s!"missing operand after '{after}'"
  | .unknownScope scope => s!"unknown dynamic scope '{scope}'"
  | .malformedDynamicField text => s!"malformed dynamic field '{text}'"
  | .unknownTarget word => s!"unknown SET target '{word}'"
  | .invalidPattern pattern => s!"invalid regex '{pattern}': <regex>"
  | .unterminatedString => "unterminated string literal"
  | .tooDeep limit => s!"expression nested deeper than {limit} levels"
  | .invalidCharacter c => s!"invalid character '{c}'"

/-- A fault and the byte offset at which it was found. -/
structure ParseError where
  fault : ParseFault
  offset : Nat
  deriving DecidableEq, Repr

def ParseError.message (e : ParseError) : String := s!"{e.fault.message} at offset {e.offset}"

end StreamPolicy
