import LuaHost.Lua.Native

/-!
# Operations

What operators, accesses and assignments do with the values of their operands.
-/

namespace LuaHost.Lua

/-- A message about the operation that fails. -/
def Fault.here (text : String) (operation : Option Naming := none) : Fault :=
  { cause := .message text 0, operation }

/-- What tracebacks call an operation that a metamethod could stand in for. -/
def Naming.ofMethod (name : String) : Naming := ⟨"metamethod", name⟩

/-- How a message names the value that an operation fails on. -/
def Naming.suffix : Option Naming → String
  | some naming => " (" ++ naming.kind ++ " " ++ Token.quote naming.name ++ ")"
  | none => ""

/-- An operation meets a value of the wrong type. -/
def Fault.badOperand (verb : String) (value : Value) (naming operation : Option Naming) : Fault :=
  .here ("attempt to " ++ verb ++ " a " ++ value.typeName ++ " value" ++ Naming.suffix naming)
    operation

namespace Value

/-- The value of a key in an object. Strings have the functions of their library. -/
def index (heap : Heap) (object key : Value) (naming : Option Naming) : Except Fault Value :=
  let find (address : Nat) : Value :=
    match Key.ofValue? key with
    | some key => heap.get address key
    | none => .nil
  match object with
  | .table address => .ok (find address)
  | .string _ => .ok (find Library.stringTable)
  | other => .error (.badOperand "index" other naming (some (.ofMethod "index")))

/-- Gives a key in an object a value. -/
def store (heap : Heap) (object key value : Value) (naming : Option Naming) : Heap × Option Fault :=
  let operation := some (Naming.ofMethod "newindex")
  match object with
  | .table address =>
    match Key.ofValue? key, key with
    | some key, _ => (heap.set address key value, none)
    | none, .nil => (heap, some (.here "table index is nil" operation))
    | none, _ => (heap, some (.here "table index is NaN" operation))
  | other => (heap, some (.badOperand "index" other naming operation))

/-- Whether a value is a string. -/
def isString : Value → Bool
  | .string _ => true
  | _ => false

/-- Whether a value is a number. -/
def isNumber : Value → Bool
  | .number _ => true
  | _ => false

/-- Arithmetic with a string among the operands, which is an affair of the string library. -/
def stringArithmetic (op : Arithmetic) (left right : Value) : Except Fault Value :=
  let above : List CallLevel :=
    [{ CallLevel.anonymous with naming := some (.ofMethod op.name) }]
  match left.toNumber?, right.toNumber? with
  | some a, some b =>
    match op.onNumbers a b with
    | .ok n => .ok (.number n)
    | .error reason => .error { cause := .message reason.text 0, above }
  | _, _ =>
    .error
      { cause := .message
          ("attempt to " ++ op.name ++ " a " ++ Token.quote left.typeName ++ " with a " ++
            Token.quote right.typeName) 1
        above }

/-- Arithmetic on values; the namings are those of the operands. -/
def arithmetic (op : Arithmetic) (left right : Value) (leftNaming rightNaming : Option Naming) :
    Except Fault Value :=
  match left, right with
  | .number a, .number b =>
    match op.onNumbers a b with
    | .ok n => .ok (.number n)
    | .error reason => .error (.here reason.text)
  | _, _ =>
    let verb := "perform arithmetic on"
    let operation := some (Naming.ofMethod op.name)
    if left.isString || right.isString then stringArithmetic op left right
    else if left.isNumber then .error (.badOperand verb right rightNaming operation)
    else .error (.badOperand verb left leftNaming operation)

/-- Two values have no order. -/
def unordered (orEqual : Bool) (left right : Value) : Fault :=
  let operation := some (Naming.ofMethod (if orEqual then "le" else "lt"))
  if left.typeName == right.typeName then
    .here ("attempt to compare two " ++ left.typeName ++ " values") operation
  else .here ("attempt to compare " ++ left.typeName ++ " with " ++ right.typeName) operation

/-- Whether a value is below another one, or equal to it if `orEqual`. -/
def below (orEqual : Bool) (left right : Value) : Except Fault Bool :=
  match left, right with
  | .number a, .number b => .ok (if orEqual then a.atMost b else a.below b)
  | .string a, .string b => .ok (if orEqual then !decide (b < a) else decide (a < b))
  | _, _ => .error (unordered orEqual left right)

/-- The comparison of two values. -/
def compare (op : Comparison) (left right : Value) : Except Fault Bool :=
  match op with
  | .equal => .ok (left.same right)
  | .unequal => .ok (!left.same right)
  | .less => below false left right
  | .atMost => below true left right
  | .greater => below false right left
  | .atLeast => below true right left

/-- The concatenation of values, from the last one on. -/
def concat : List (Value × Option Naming) → Except Fault Value
  | [] => .ok (.string "")
  | [(value, _)] => .ok value
  | (value, naming) :: (next, nextNaming) :: rest => do
    let tail ← concat ((next, nextNaming) :: rest)
    let operation := some (Naming.ofMethod "concat")
    match value.toText?, tail.toText? with
    | some a, some b => .ok (.string (a ++ b))
    | some _, none => .error (.badOperand "concatenate" tail nextNaming operation)
    | none, _ => .error (.badOperand "concatenate" value naming operation)

/-- The length of a text or of the sequence in a table. -/
def length (heap : Heap) (value : Value) (naming : Option Naming) : Except Fault Value :=
  match value with
  | .string s => .ok (.number (.integer (Int64.ofNat s.utf8ByteSize)))
  | .table address => .ok (.number (.integer (Int64.ofNat (heap.tables.getD address {}).length)))
  | other => .error (.badOperand "get length of" other naming (some (.ofMethod "len")))

end Value

/-! ### Table constructors -/

namespace Field

/-- The expressions of a field. -/
def operands : Field → List Expr
  | .named _ value => [value]
  | .keyed key value => [key, value]
  | .item value => [value]

/-- The keys and values of the fields that have keys, and the values of the others. -/
def split : List Field → List Value → List (Value × Value) × List Value
  | [], values => ([], values)
  | .named name _ :: rest, value :: values =>
    let (pairs, items) := split rest values
    ((.string name, value) :: pairs, items)
  | .keyed .. :: rest, key :: value :: values =>
    let (pairs, items) := split rest values
    ((key, value) :: pairs, items)
  | .item _ :: [], values => ([], values)
  | .item _ :: rest, value :: values =>
    let (pairs, items) := split rest values
    (pairs, value :: items)
  | _, [] => ([], [])
  | .keyed .. :: _, [_] => ([], [])

end Field

/-- Stores several values in a table, up to the first one that cannot be stored. -/
def Value.storeAll (heap : Heap) (table : Value) : List (Value × Value) → Heap × Option Fault
  | [] => (heap, none)
  | (key, value) :: rest =>
    match Value.store heap table key value none with
    | (heap, none) => storeAll heap table rest
    | (heap, some fault) => (heap, some fault)

/-- A new table with the values of fields. -/
def Value.construct (heap : Heap) (fields : List Field) (values : List Value) :
    Heap × Except Fault Value :=
  let (pairs, items) := Field.split fields values
  let (address, heap) := heap.newTable {}
  let numbered := items.mapIdx fun i value => (Value.number (.integer (Int64.ofNat (i + 1))), value)
  match Value.storeAll heap (.table address) (pairs ++ numbered) with
  | (heap, none) => (heap, .ok (.table address))
  | (heap, some fault) => (heap, .error fault)

/-! ### Assignments -/

namespace Expr

/-- The expressions that say where a target is. -/
def targetOperands : Expr → List Expr
  | .index object key _ => [object, key]
  | _ => []

/-- Where an assignment puts a value. -/
inductive Place where
  | cell (address : Nat)
  | global (name : String)
  | field (object key : Value) (naming : Option Naming)

/-- The places of targets, given the values of their operands, and the values that are left. -/
def places (env : Env) : List Expr → List Value → List Place × List Value
  | [], values => ([], values)
  | .index object _ _ :: rest, o :: k :: values =>
    let (found, values) := places env rest values
    (.field o k object.naming? :: found, values)
  | .variable position _ _ :: rest, values =>
    let (found, values) := places env rest values
    (.cell (env.cells.getD position 0) :: found, values)
  | .global name :: rest, values =>
    let (found, values) := places env rest values
    (.global name :: found, values)
  | _ :: rest, values => places env rest values

/-- Puts a value into a place. -/
def Place.put (heap : Heap) (place : Place) (value : Value) : Heap × Option Fault :=
  match place with
  | .cell address => (heap.setCell address value, none)
  | .global name => (heap.setGlobal name value, none)
  | .field object key naming => Value.store heap object key value naming

/-- Puts values into places, the last one first; a missing value is nil. -/
def putAll (heap : Heap) : List Place → List Value → Heap × Option Fault
  | [], _ => (heap, none)
  | place :: rest, values =>
    match putAll heap rest values.tail with
    | (heap, none) => place.put heap (values.headD .nil)
    | (heap, some fault) => (heap, some fault)

end Expr

/-! ### Counting loops -/

/-- How a loop over numbers runs: over integers, with the number of turns after the first one, over
floats, or not at all. -/
inductive Count where
  | integers (start step : Int64) (left : Nat)
  | floats (start limit step : Float)
  | never

namespace Count

/-- A loop over numbers has a bound that is no number. -/
def badBound (what : String) (value : Value) : Fault :=
  .here ("bad 'for' " ++ what ++ " (number expected, got " ++ value.typeName ++ ")")

/-- The step of a loop is zero. -/
def zeroStep : Fault := .here "'for' step is zero"

/-- A bound as a float. -/
def float (what : String) (value : Value) : Except Fault Float :=
  match value.toNumber? with
  | some n => .ok n.toFloat
  | none => .error (badBound what value)

/-- A limit as an integer: a fraction is dropped toward the start of the loop. None if no integer
can be reached. -/
def integerLimit (step : Int64) (limit : Number) : Option Int64 :=
  match limit with
  | .integer n => some n
  | .float x =>
    match exactInteger? (if step < 0 then x.ceil else x.floor) with
    | some n => some n
    | none =>
      if 0 < x then (if step < 0 then none else some Int64.maxValue)
      else if 0 < step then none
      else some Int64.minValue

/-- The loop over integers. -/
def ofIntegers (start step : Int64) (limit : Value) : Except Fault Count :=
  if step == 0 then .error zeroStep
  else
    match limit.toNumber? with
    | none => .error (badBound "limit" limit)
    | some limit =>
      match integerLimit step limit with
      | none => .ok .never
      | some limit =>
        if (if 0 < step then limit < start else start < limit) then .ok .never
        else .ok (.integers start step ((limit.toInt - start.toInt).natAbs / step.toInt.natAbs))

/-- The loop over floats. -/
def ofFloats (start limit step : Value) : Except Fault Count := do
  let limit ← float "limit" limit
  let step ← float "step" step
  let start ← float "initial value" start
  if step == 0 then throw zeroStep
  if (if 0 < step then limit < start else start < limit) then return .never
  return .floats start limit step

/-- The loop from one value to another with a step. -/
def ofValues (start limit step : Value) : Except Fault Count :=
  match start, step with
  | .number (.integer start), .number (.integer step) => ofIntegers start step limit
  | _, _ => ofFloats start limit step

/-- The next turn of a loop over floats, if there is one. -/
def nextFloat? (index limit step : Float) : Option Float :=
  let next := index + step
  if (if 0 < step then next ≤ limit else limit ≤ next) then some next else none

end Count

end LuaHost.Lua
