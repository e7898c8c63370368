import LuaHost.Event
import LuaHost.Text.Search

/-!
# Hints

Remediation hints for known families of error messages. Every rule looks for a phrase in the message
on its own, so one message can collect several blocks; a fallback rule gives way to the more special
rule it stands behind.
-/

namespace LuaHost

open LuaHost.Text

/-- A name taken from a message, and what kind of name it is. -/
structure Identifier where
  kind : String
  name : String
  deriving DecidableEq, Repr

namespace Identifier

/-- The kinds of variables that messages qualify names with, in the order they are looked for. -/
def kinds : List String := ["global", "field", "local", "upvalue", "method", "constant"]

/-- What stands in front of a qualified name, as in `(global 'x')`. -/
def marker (kind : String) : List Char :=
  '(' :: kind.toList ++ [' ', '\'']

/-- What stands in front of a function name, as in `bad argument #1 to 'insert'`. -/
def functionMarker : List Char := ['t', 'o', ' ', '\'']

/-- The text between the first `marker` and the quote after it, if there is any. -/
def quotedAfter? (marker message : List Char) : Option String :=
  (splitFirst? marker message).bind fun (_, rest) =>
    (splitAtFirst? '\'' rest).bind fun (name, _) =>
      if name.isEmpty then none else some (String.ofList name)

/-- The variable that a message names. -/
def qualified? (message : String) : Option Identifier :=
  kinds.findSome? fun kind =>
    (quotedAfter? (marker kind) message.toList).map fun name => ⟨kind, name⟩

/-- The function that a message names. -/
def callee? (message : String) : Option Identifier :=
  (quotedAfter? functionMarker message.toList).map fun name => ⟨"function", name⟩

end Identifier

/-- What a rule takes from a message. -/
inductive Extraction where
  | nothing
  | variable
  | function
  deriving DecidableEq, Repr

/-- The name that an extraction finds in a message. -/
def Extraction.apply : Extraction → String → Option Identifier
  | .nothing, _ => none
  | .variable, message => Identifier.qualified? message
  | .function, message => Identifier.callee? message

/-- A family of error messages. -/
structure HintRule where
  name : String
  phrase : String
  hints : List String
  extraction : Extraction
  /-- The rule that this one gives way to. -/
  fallbackFor : Option String := none
  deriving DecidableEq, Repr

namespace HintRule

def nilCall : HintRule where
  name := "nil_call"
  phrase := "attempt to call a nil value"
  hints := [
    "A function you called does not exist at this point.",
    "Check the spelling, and that the module providing it is registered and initialized.",
    "A function defined further down the file is only visible after its definition has run."]
  extraction := .variable

def nilIndex : HintRule where
  name := "nil_index"
  phrase := "attempt to index a nil value"
  hints := [
    "A value you indexed with '.', ':' or '[]' is nil.",
    "Assign it before use, or guard the access with 'if value then ... end'."]
  extraction := .variable

def arithmetic : HintRule where
  name := "arithmetic"
  phrase := "attempt to perform arithmetic on"
  hints := [
    "An operand of +, -, *, /, //, % or ^ is not a number.",
    "Convert strings with tonumber() and check for nil before doing arithmetic."]
  extraction := .variable

def concatenate : HintRule where
  name := "concatenate"
  phrase := "attempt to concatenate"
  hints := [
    "Only strings and numbers can be joined with '..'.",
    "Wrap other values in tostring() before concatenating."]
  extraction := .variable

def badArgument : HintRule where
  name := "bad_argument"
  phrase := "bad argument"
  hints := [
    "A function received an argument of the wrong type or value.",
    "Compare the call with the parameters the function expects."]
  extraction := .function

def compare : HintRule where
  name := "compare"
  phrase := "attempt to compare"
  hints := [
    "Values of different types cannot be ordered with <, >, <= or >=.",
    "Make sure both sides are numbers or both are strings."]
  extraction := .nothing

def stackOverflow : HintRule where
  name := "stack_overflow"
  phrase := "stack overflow"
  hints := ["A function keeps calling itself without reaching a base case."]
  extraction := .nothing

def indexValue : HintRule where
  name := "index_value"
  phrase := "attempt to index a"
  hints := ["Only tables, strings and values with an __index metamethod can be indexed."]
  extraction := .variable
  fallbackFor := some "nil_index"

def callValue : HintRule where
  name := "call_value"
  phrase := "attempt to call a"
  hints := [
    "The value you called is not a function.",
    "Only functions and values with a __call metamethod can be called."]
  extraction := .variable
  fallbackFor := some "nil_call"

/-- All rules, in the order of their blocks. -/
def all : List HintRule :=
  [nilCall, nilIndex, arithmetic, concatenate, badArgument, compare, stackOverflow, indexValue,
    callValue]

/-- Whether the phrase of the rule occurs in a message. -/
def applies (rule : HintRule) (message : String) : Bool :=
  occurs rule.phrase.toList message.toList

end HintRule

/-- The hints of one rule for one message. -/
structure HintBlock where
  rule : String
  hints : List String
  identifier : Option Identifier
  deriving DecidableEq, Repr

namespace HintBlock

/-- The line that names the culprit. -/
def offendingLine (identifier : Identifier) : String :=
  "Offending name: " ++ identifier.kind ++ " '" ++ identifier.name ++ "'."

/-- The block that a rule contributes for a message. -/
def ofRule (message : String) (rule : HintRule) : HintBlock :=
  let identifier := rule.extraction.apply message
  { rule := rule.name
    hints := rule.hints ++ (identifier.map offendingLine).toList
    identifier }

/-- The blocks of all rules that apply to a message and give way to no other. -/
def forMessage (message : String) : List HintBlock :=
  let matched := HintRule.all.filter fun rule => rule.applies message
  let kept := matched.filter fun rule =>
    !rule.fallbackFor.any fun primary => matched.any fun other => other.name == primary
  kept.map (ofRule message)

/-- The log entry about the name that a block took from the message. -/
def event? (block : HintBlock) : Option Event :=
  block.identifier.map fun identifier =>
    log .debug "Extracted identifier from error message"
      [("rule", block.rule), ("kind", identifier.kind), ("identifier", identifier.name)]

end HintBlock

end LuaHost
