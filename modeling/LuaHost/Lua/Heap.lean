import LuaHost.Lua.Value

/-!
# Heap

What the functions of one interpreter share: tables, functions, variables and the errors of host
functions, each in the order of their creation. The first table holds the global variables, the next
ones are the libraries.
-/

namespace LuaHost.Lua

/-- The shared state of an interpreter. -/
structure Heap where
  tables : Array Table
  functions : Array Callable
  cells : Array Value
  failures : Array Error
  /-- How many messages scripts have logged since the last reset. -/
  logged : Nat
  /-- The time in milliseconds since 1970. -/
  clock : Nat

namespace Heap

/-- The address of the table of global variables. -/
def globals : Nat := 0

/-- The value of a key in a table. -/
def get (heap : Heap) (address : Nat) (key : Key) : Value :=
  match heap.tables[address]? with
  | some table => table.get key
  | none => .nil

/-- Gives a key of a table a value. -/
def set (heap : Heap) (address : Nat) (key : Key) (value : Value) : Heap :=
  { heap with tables := heap.tables.modify address fun table => table.set key value }

/-- The value of a global variable. -/
def getGlobal (heap : Heap) (name : String) : Value :=
  heap.get globals (.string name)

/-- Gives a global variable a value. -/
def setGlobal (heap : Heap) (name : String) (value : Value) : Heap :=
  heap.set globals (.string name) value

/-- A new table. -/
def newTable (heap : Heap) (table : Table) : Nat × Heap :=
  (heap.tables.size, { heap with tables := heap.tables.push table })

/-- A new function. -/
def newFunction (heap : Heap) (callable : Callable) : Nat × Heap :=
  (heap.functions.size, { heap with functions := heap.functions.push callable })

/-- A new variable. -/
def newCell (heap : Heap) (value : Value) : Nat × Heap :=
  (heap.cells.size, { heap with cells := heap.cells.push value })

/-- A new error of a host function. -/
def newFailure (heap : Heap) (error : Error) : Nat × Heap :=
  (heap.failures.size, { heap with failures := heap.failures.push error })

/-- The value of a variable. -/
def cell (heap : Heap) (address : Nat) : Value :=
  heap.cells.getD address .nil

/-- Gives a variable a value. -/
def setCell (heap : Heap) (address : Nat) (value : Value) : Heap :=
  { heap with cells := heap.cells.setIfInBounds address value }

/-- The function at an address. -/
def callable? (heap : Heap) (address : Nat) : Option Callable :=
  heap.functions[address]?

/-- New variables on top of others: one for each of `count` places, with nil where values are
missing. -/
def declare (heap : Heap) (cells : List Nat) : Nat → List Value → List Nat × Heap
  | 0, _ => (cells, heap)
  | count + 1, values =>
    let (cell, heap) := heap.newCell (values.headD .nil)
    declare heap (cell :: cells) count values.tail

/-- The hexadecimal form of an address. -/
def addressText (address : Nat) : String :=
  let digits := Nat.toDigits 16 (address * 16)
  "0x" ++ String.ofList (List.replicate (14 - digits.length) '0' ++ digits)

/-- The text of a value. -/
def text (heap : Heap) : Value → String
  | .nil => "nil"
  | .boolean true => "true"
  | .boolean false => "false"
  | .number n => n.text
  | .string s => s
  | .table address => "table: " ++ addressText address
  | .function address => "function: " ++ addressText address
  | .failure address => ((heap.failures[address]?).map Error.text).getD ""

end Heap

end LuaHost.Lua
