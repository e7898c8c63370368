import LuaHost.Failure.Basic
import LuaHost.Lua.Chunk
import LuaHost.Script

/-!
# Engine

One interpreter that the modules of a host share. Modules bind functions and tables into its global
variables; the host loads scripts and calls their hooks. What happens meanwhile is returned as
events.

To read or to set a global variable or a field fails only where a metatable says so, and the
interpreter has none. So the operations here have no errors for that.
-/

namespace LuaHost

/-- An interpreter. -/
structure Engine where
  heap : Lua.Heap

/-- A value written down: it becomes a value of an engine when it is made there. -/
inductive Literal where
  | nil
  | boolean (value : Bool)
  | integer (n : Int64)
  | float (x : Float)
  | string (text : String)
  | table (fields : List (String × Literal))
  deriving Inhabited

/-- What an operation on an engine leads to: a result, the engine afterwards and the events. -/
structure Ran (α : Type) where
  result : α
  engine : Engine
  events : List Event

namespace Engine

/-- A new engine, at a time given in milliseconds since 1970. -/
def create (clock : Nat) : Engine :=
  ⟨Lua.Library.start clock⟩

/-- The engine at another time. -/
def atTime (engine : Engine) (clock : Nat) : Engine :=
  ⟨{ engine.heap with clock }⟩

/-! ### Values -/

mutual

/-- Makes a value. -/
def make (engine : Engine) : Literal → Lua.Value × Engine
  | .nil => (.nil, engine)
  | .boolean value => (.boolean value, engine)
  | .integer n => (.number (.integer n), engine)
  | .float x => (.number (.float x), engine)
  | .string text => (.string text, engine)
  | .table fields =>
    let (address, heap) := engine.heap.newTable {}
    (.table address, makeFields ⟨heap⟩ address fields)

/-- Makes the fields of a table. -/
def makeFields (engine : Engine) (table : Nat) : List (String × Literal) → Engine
  | [] => engine
  | (name, literal) :: rest =>
    let (value, engine) := make engine literal
    makeFields ⟨engine.heap.set table (.string name) value⟩ table rest

end

/-- Makes several values. -/
def makeAll (engine : Engine) : List Literal → List Lua.Value × Engine
  | [] => ([], engine)
  | literal :: rest =>
    let (value, engine) := engine.make literal
    let (values, engine) := engine.makeAll rest
    (value :: values, engine)

/-- Makes a function. -/
def makeFunction (engine : Engine) (native : Lua.Native) : Lua.Value × Engine :=
  let (address, heap) := engine.heap.newFunction (.native native)
  (.function address, ⟨heap⟩)

/-- The value of a global variable. -/
def global (engine : Engine) (name : String) : Lua.Value :=
  engine.heap.getGlobal name

/-- Gives a global variable a value. -/
def setGlobal (engine : Engine) (name : String) (value : Lua.Value) : Engine :=
  ⟨engine.heap.setGlobal name value⟩

/-- Gives a field of a table a value. -/
def setField (engine : Engine) (table : Nat) (name : String) (value : Lua.Value) : Engine :=
  ⟨engine.heap.set table (.string name) value⟩

/-- What a chain of names leads to: a global variable, then a field of its table, and so on. Nil
where there is no table. -/
def resolve (engine : Engine) (names : List String) : Lua.Value :=
  names.foldl
    (fun value name =>
      match value with
      | .table table => engine.heap.get table (.string name)
      | _ => .nil)
    (.table Lua.Heap.globals)

/-! ### Binding -/

/-- Binds a function to a global variable. -/
def registerFunction (engine : Engine) (name : String) (function : Lua.Value) : Ran Unit :=
  { result := ()
    engine := engine.setGlobal name function
    events := [log .debug "Binding global function" [("function", name)]] }

/-- The table in a global variable, made if the variable is nil. The variable itself can always be
read and set. -/
def registerTable (engine : Engine) (name : String) : Ran (Except EngineError Nat) :=
  match engine.global name with
  | .table table => { result := .ok table, engine, events := [] }
  | .nil =>
    let (table, heap) := engine.heap.newTable {}
    { result := .ok table
      engine := ⟨heap.setGlobal name (.table table)⟩
      events := [log .debug "Created global table" [("table", name)]] }
  | other =>
    let reason := "global '" ++ name ++ "' is already a " ++ other.hostTypeName
    { result := .error (.binding reason), engine, events := [] }

/-! ### Running -/

/-- Calls a function with arguments. -/
def call (engine : Engine) (function : Lua.Value) (arguments : List Lua.Value) :
    Ran (Except Failure (List Lua.Value)) :=
  let finished := Lua.Machine.call engine.heap function arguments
  { result := finished.outcome.mapError Failure.ofError
    engine := ⟨finished.heap⟩
    events := finished.events }

/-- Runs a script. -/
def load (engine : Engine) (script : Script) : Ran (Except Failure Unit) :=
  let start := log .debug "Loading script" [("script", script.name)]
  match Lua.Chunk.load engine.heap script.name script.code with
  | .error error => { result := .error (.ofError error), engine, events := [start] }
  | .ok (function, heap) =>
    let ran := Engine.call ⟨heap⟩ (.function function) []
    { result := ran.result.map fun _ => (), engine := ran.engine, events := start :: ran.events }

/-- Whether a global variable is a function. -/
def hasFunction (engine : Engine) (name : String) : Bool :=
  match engine.global name with
  | .function _ => true
  | _ => false

/-- Calls the function in a global variable, and says whether there was one. The variable can always
be read. -/
def callHook (engine : Engine) (name : String) (arguments : List Lua.Value) :
    Ran (Except Failure Bool) :=
  if engine.hasFunction name then
    let ran := engine.call (engine.global name) arguments
    { result := ran.result.map fun _ => true, engine := ran.engine, events := ran.events }
  else { result := .ok false, engine, events := [] }

end Engine

end LuaHost
