import StreamPolicy.Text.Ascii
import StreamPolicy.Text.Basic
import StreamPolicy.Pattern.Parser

/-!
# Operators

The comparisons of a condition (`Operator`) and the connectives of a group (`Connective`), under the
names they have in expressions.
-/

namespace StreamPolicy

/-- The value among `all` whose name `word` spells, in any letter case. -/
def byName (all : List α) (name : α → String) (word : String) : Option α :=
  all.find? fun a => Text.sameIgnoringCase (name a) word

/-- How the children of a group are joined. -/
inductive Connective
  | and
  | or
  deriving DecidableEq, Repr

def Connective.name : Connective → String
  | .and => "AND"
  | .or => "OR"

/-- The comparison of a condition. All comparisons mind letter case. -/
inductive Operator
  | equals
  | notEquals
  | contains
  | notContains
  | startsWith
  | notStartsWith
  | endsWith
  | notEndsWith
  | matchesPattern
  | notMatchesPattern
  deriving DecidableEq, Repr

namespace Operator

def all : List Operator :=
  [.equals, .notEquals, .contains, .notContains, .startsWith, .notStartsWith, .endsWith,
    .notEndsWith, .matchesPattern, .notMatchesPattern]

def name : Operator → String
  | .equals => "equals"
  | .notEquals => "not_equals"
  | .contains => "contains"
  | .notContains => "not_contains"
  | .startsWith => "starts_with"
  | .notStartsWith => "not_starts_with"
  | .endsWith => "ends_with"
  | .notEndsWith => "not_ends_with"
  | .matchesPattern => "matches"
  | .notMatchesPattern => "not_matches"

def ofName? : String → Option Operator := byName all name

/-- Whether the literal of the comparison is a pattern. -/
def takesPattern (op : Operator) : Bool := op == .matchesPattern || op == .notMatchesPattern

/-- Whether the value `actual` compares with `literal`. A literal that is no pattern compares with
nothing under the pattern operators. -/
def holds (op : Operator) (actual literal : String) : Bool :=
  match op with
  | .equals => actual == literal
  | .notEquals => actual != literal
  | .contains => Text.occursIn literal.toList actual.toList
  | .notContains => !Text.occursIn literal.toList actual.toList
  | .startsWith => literal.toList.isPrefixOf actual.toList
  | .notStartsWith => !literal.toList.isPrefixOf actual.toList
  | .endsWith => literal.toList.isSuffixOf actual.toList
  | .notEndsWith => !literal.toList.isSuffixOf actual.toList
  | .matchesPattern => (Pattern.compile? literal).any (·.matchesIn actual.toList)
  | .notMatchesPattern => (Pattern.compile? literal).any (!·.matchesIn actual.toList)

/-- The value that a missing field compares as: the empty text for equality, none otherwise. -/
def missing? (op : Operator) : Option String :=
  if op == .equals || op == .notEquals then some "" else none

/-- Whether a value that may be missing compares with `literal`. -/
def test (op : Operator) (actual : Option String) (literal : String) : Bool :=
  (actual <|> op.missing?).any (op.holds · literal)

end Operator

end StreamPolicy
