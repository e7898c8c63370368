import LuaHost.Lua.Error
import LuaHost.Lua.Syntax

/-!
# Values

What scripts compute with. Tables, functions and the errors of host functions are shared and known
by their addresses. Strings are texts: a byte from 0x80 on that an escape puts into a string on its
own is not kept, U+FFFD stands for it. So every string is text to the functions of the host, where
such a byte would make them refuse the string.
-/

namespace LuaHost.Lua

/-- A value. -/
inductive Value where
  | nil
  | boolean (value : Bool)
  | number (number : Number)
  | string (text : String)
  | table (address : Nat)
  | function (address : Nat)
  | failure (address : Nat)

instance : Inhabited Value := ⟨.nil⟩

namespace Value

/-- Whether a value counts as true in a condition. -/
def isTrue : Value → Bool
  | .nil => false
  | .boolean value => value
  | _ => true

/-- The name of the type of a value. -/
def typeName : Value → String
  | .nil => "nil"
  | .boolean _ => "boolean"
  | .number _ => "number"
  | .string _ => "string"
  | .table _ => "table"
  | .function _ => "function"
  | .failure _ => "userdata"

/-- The name of the type of a value in messages of the host, which tells the kinds of numbers
apart. -/
def hostTypeName : Value → String
  | .number (.integer _) => "integer"
  | .number (.float _) => "number"
  | .failure _ => "error"
  | other => other.typeName

/-- The number that a value is, or that its text denotes. -/
def toNumber? : Value → Option Number
  | .number n => some n
  | .string s => Number.ofText? s.toList
  | _ => none

/-- The text of a number or a string. -/
def toText? : Value → Option String
  | .number n => some n.text
  | .string s => some s
  | _ => none

/-- Whether two values are the same. -/
def same : Value → Value → Bool
  | .nil, .nil => true
  | .boolean a, .boolean b => a == b
  | .number a, .number b => a.same b
  | .string a, .string b => a == b
  | .table a, .table b => a == b
  | .function a, .function b => a == b
  | .failure a, .failure b => a == b
  | _, _ => false

end Value

/-! ### Tables -/

/-- What a table is indexed by: any value but nil and floats that are no numbers. A float with an
integral value is that integer. -/
inductive Key where
  | boolean (value : Bool)
  | integer (n : Int64)
  | float (bits : UInt64)
  | string (text : String)
  | table (address : Nat)
  | function (address : Nat)
  | failure (address : Nat)
  deriving DecidableEq, Repr

/-- The key that a value is. -/
def Key.ofValue? : Value → Option Key
  | .nil => none
  | .boolean b => some (.boolean b)
  | .number (.integer n) => some (.integer n)
  | .number (.float x) =>
    match exactInteger? x with
    | some n => some (.integer n)
    | none => if x == x then some (.float x.toBits) else none
  | .string s => some (.string s)
  | .table address => some (.table address)
  | .function address => some (.function address)
  | .failure address => some (.failure address)

/-- A table: each key occurs once, and no value is nil. -/
structure Table where
  entries : List (Key × Value) := []

namespace Table

/-- The value of a key, nil if there is none. -/
def get (table : Table) (key : Key) : Value :=
  (table.entries.lookup key).getD .nil

/-- Entries with a new value for a key, in the place of the old one or at the end. -/
def put (key : Key) (value : Value) : List (Key × Value) → List (Key × Value)
  | [] => [(key, value)]
  | (k, v) :: rest => if k = key then (k, value) :: rest else (k, v) :: put key value rest

/-- Gives a key a value; nil removes the key. -/
def set (table : Table) (key : Key) (value : Value) : Table :=
  match value with
  | .nil => ⟨table.entries.filter fun entry => entry.1 ≠ key⟩
  | value => ⟨put key value table.entries⟩

/-- The greatest `n` up to `fuel` such that `start + 1`, …, `n` all have values. -/
def borderFrom (table : Table) (start : Nat) : Nat → Nat
  | 0 => start
  | fuel + 1 =>
    match table.get (.integer (Int64.ofNat (start + 1))) with
    | .nil => start
    | _ => borderFrom table (start + 1) fuel

/-- The length of the sequence in a table. -/
def length (table : Table) : Nat :=
  table.borderFrom 0 table.entries.length

end Table

/-! ### Functions -/

/-- A function of the host or of the library. -/
inductive Native where
  | print
  | error
  | pcall
  | assert
  | type
  | tostring
  | tonumber
  | rep
  /-- A library function that cannot be called here. -/
  | absent (name : String)
  /-- Logs a message in the name of `target`. -/
  | log (target : String)
  | time
  | nowMillis
  | failing (error : Error)
  | echo
  | returning (value : Value)

/-- A function that can be called. A closure knows the script it is from and the cells of the
variables around it. -/
inductive Callable where
  | closure (code : Function) (source : String) (outer : List Nat)
  | native (native : Native)

instance : Inhabited Callable := ⟨.native .echo⟩

end LuaHost.Lua
