import LuaHost.Event
import LuaHost.Lua.Stack
import LuaHost.Text.Timestamp

/-!
# Native functions

What the functions of the host and of the library do. A call ends with values or with a fault; the
machine turns faults into the error values that scripts see.
-/

namespace LuaHost.Lua

/-- Why a call or an operation fails. -/
inductive Cause where
  /-- A value is raised as it is. -/
  | value (value : Value)
  /-- A message is raised, with the place of a level in front of it. -/
  | message (text : String) (level : Nat)
  /-- A host function fails. -/
  | host (error : Error)

/-- A failure in progress: the native calls that are above the closures of the stack, and if there
are none, what tracebacks call the operation that failed. -/
structure Fault where
  cause : Cause
  above : List CallLevel := []
  operation : Option Naming := none

namespace Native

/-- How a native call ends. -/
abbrev Reply := Except Cause (List Value)

/-- A native call: the heap, the calls in progress with this one first, and the arguments. -/
structure Call where
  heap : Heap
  level : CallLevel
  arguments : List Value

namespace Call

/-- The value of an argument, nil if it is missing. -/
def argument (call : Call) (index : Nat) : Value :=
  call.arguments.getD index .nil

/-- How messages name the called function. -/
def name (call : Call) : String :=
  match call.level.naming with
  | some naming => naming.name
  | none => (call.level.function.bind (Library.nameOf? call.heap)).getD "?"

/-- An argument is not what it has to be. The object of a method is not counted. -/
def badArgument (call : Call) (index : Nat) (text : String) : Cause :=
  let isMethod := call.level.naming.any fun naming => naming.kind == "method"
  if isMethod && index == 0 then
    .message ("calling " ++ Token.quote call.name ++ " on bad self (" ++ text ++ ")") 1
  else
    let position := if isMethod then index else index + 1
    .message
      ("bad argument #" ++ toString position ++ " to " ++ Token.quote call.name ++ " (" ++
        text ++ ")") 1

/-- What an argument is, in messages. -/
def typeName (call : Call) (index : Nat) : String :=
  match call.arguments[index]? with
  | some value => value.typeName
  | none => "no value"

/-- An argument does not have the type it has to have. -/
def badType (call : Call) (index : Nat) (expected : String) : Cause :=
  call.badArgument index (expected ++ " expected, got " ++ call.typeName index)

/-- An argument that has to be there. -/
def present (call : Call) (index : Nat) : Except Cause Value :=
  match call.arguments[index]? with
  | some value => .ok value
  | none => .error (call.badArgument index "value expected")

/-- An argument that has to be an integer. -/
def integer (call : Call) (index : Nat) : Except Cause Int64 :=
  match (call.argument index).toNumber? with
  | some n =>
    match n.toInteger? with
    | some n => .ok n
    | none => .error (call.badArgument index "number has no integer representation")
  | none => .error (call.badType index "number")

/-- An argument that has to be an integer if it is there. -/
def optionalInteger (call : Call) (index : Nat) (default : Int64) : Except Cause Int64 :=
  match call.argument index with
  | .nil => .ok default
  | _ => call.integer index

/-- An argument that has to be a text. -/
def text (call : Call) (index : Nat) : Except Cause String :=
  match (call.argument index).toText? with
  | some s => .ok s
  | none => .error (call.badType index "string")

/-- An argument of a host function that has to be a text. -/
def hostText (call : Call) (index : Nat) : Except Cause String :=
  match (call.argument index).toText? with
  | some s => .ok s
  | none =>
    .error (.host (.badArgument none (index + 1) none
      (.fromLua (call.argument index).hostTypeName "String" (some "expected string or number"))))

end Call

/-- Raises a value; a text gets the place of a level in front, the caller's unless told
otherwise. -/
def raise (value : Value) (level : Int64) : Cause :=
  match value with
  | .string text => if 0 < level then .message text level.toInt.toNat else .value value
  | _ => .value value

/-- The value of a digit among the letters and digits. -/
def digitValue? (c : Char) : Option Nat :=
  if c.isDigit then some (c.toNat - '0'.toNat)
  else if c.isAlpha then some (c.toUpper.toNat - 'A'.toNat + 10)
  else none

/-- The integer that a text denotes in a base, with blanks around it and an optional sign. -/
def inBase? (base : Nat) (text : List Char) : Option Int64 :=
  let (negative, digits) := match Number.stripBlanks text with
    | '-' :: rest => (true, rest)
    | '+' :: rest => (false, rest)
    | rest => (false, rest)
  let value := digits.foldl
    (fun value c => value.bind fun n =>
      match digitValue? c with
      | some d => if d < base then some (n * base + d) else none
      | none => none)
    (some 0)
  if digits.isEmpty then none
  else value.map fun n => if negative then -(Int64.ofNat n) else Int64.ofNat n

/-- The number that the first argument denotes, in the base that the second one gives. -/
def number (call : Call) : Reply :=
  match call.argument 1 with
  | .nil =>
    match (call.argument 0).toNumber? with
    | some n => .ok [.number n]
    | none => do
      let _ ← call.present 0
      return [.nil]
  | _ => do
    let base ← call.integer 1
    match call.argument 0 with
    | .string text =>
      if 2 ≤ base && base ≤ 36 then
        return [((inBase? base.toInt.toNat text.toList).map fun n =>
          Value.number (.integer n)).getD .nil]
      else throw (call.badArgument 1 "base out of range")
    | _ => throw (call.badType 0 "string")

/-- A text repeated, with another one between the copies. -/
def repeated (call : Call) : Reply := do
  let text ← call.text 0
  let count ← call.integer 1
  let separator ← match call.argument 2 with
    | .nil => pure ""
    | _ => call.text 2
  return [.string (separator.intercalate (List.replicate count.toInt.toNat text))]

/-- Logs a message at a level, both given by the arguments. -/
def logMessage (target : String) (call : Call) : Except Cause Event := do
  let level ← call.hostText 0
  let message ← call.hostText 1
  match Level.ofName? level with
  | some level => return LuaHost.log level message [("source", target)]
  | none =>
    throw (.host (.runtime
      ("unknown log level '" ++ level ++ "' (expected trace, debug, info, warn or error)")))

/-- Calls a native function. A protected call of a function is the affair of the machine. -/
def run (native : Native) (call : Call) : Heap × List Event × Reply :=
  match native with
  | .print =>
    let line := "\t".intercalate (call.arguments.map call.heap.text)
    (call.heap, [.printed line], .ok [])
  | .log target =>
    match logMessage target call with
    | .ok event => ({ call.heap with logged := call.heap.logged + 1 }, [event], .ok [])
    | .error cause => (call.heap, [], .error cause)
  | .error => unchanged do
      let level ← call.optionalInteger 1 1
      throw (raise (call.argument 0) level)
  | .assert => unchanged do
      let condition ← call.present 0
      if condition.isTrue then return call.arguments
      else
        match call.arguments with
        | [_] => throw (raise (.string "assertion failed!") 1)
        | _ => throw (raise (call.argument 1) 1)
  | .type => unchanged do return [.string (← call.present 0).typeName]
  | .tostring => unchanged do return [.string (call.heap.text (← call.present 0))]
  | .tonumber => unchanged (number call)
  | .rep => unchanged (repeated call)
  | .pcall => unchanged do return [← call.present 0]
  | .absent name => unchanged (.error (.message (Token.quote name ++ " is not available") 1))
  | .time => unchanged (.ok [.string (Text.timestamp call.heap.clock)])
  | .nowMillis => unchanged (.ok [.number (.integer (Int64.ofNat call.heap.clock))])
  | .failing reason => unchanged (.error (.host reason))
  | .echo => unchanged (.ok [call.argument 0])
  | .returning value => unchanged (.ok [value])
where
  /-- A call that changes nothing. -/
  unchanged (reply : Reply) : Heap × List Event × Reply := (call.heap, [], reply)

end Native

end LuaHost.Lua
