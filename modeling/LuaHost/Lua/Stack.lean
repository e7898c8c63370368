import LuaHost.Lua.Library
import LuaHost.Lua.Token

/-!
# Stack

What is left to do while a script runs, as a list of frames, innermost first, and how messages and
tracebacks show it. A level is one call in progress.
-/

namespace LuaHost.Lua

/-- What a function body sees: the cells of the variables in scope, innermost first, and the
arguments beyond its parameters. -/
structure Env where
  cells : List Nat
  extra : List Value

/-- Where a call stands: how the called function is named there, and the line. -/
structure Site where
  naming : Option Naming
  line : Nat

/-- What happens with the values of operands. -/
inductive Purpose where
  /-- They determine the value of an expression. -/
  | expression (expr : Expr)
  /-- The first is called with the others. -/
  | call (site : Site)
  /-- The first is called with the others, in place of the current function. -/
  | tailCall (site : Site)
  /-- They determine what a statement does. -/
  | statement (statement : Statement)
  /-- They are an iterator, which is asked for the next values of a loop. -/
  | iteration (count : Nat) (body : List Statement) (state : Value) (line : Nat)

/-- A call of a closure in progress. -/
structure Activation where
  function : Nat
  source : String
  lineDefined : Nat
  isMain : Bool
  /-- How its caller names it. -/
  naming : Option Naming
  /-- Whether it took the place of its caller. -/
  isTail : Bool
  /-- The line of the call in its caller. -/
  callLine : Nat
  /-- How many calls are in progress, this one included. -/
  depth : Nat

/-- A protected call in progress. -/
structure Protection where
  function : Nat
  naming : Option Naming
  callLine : Nat
  depth : Nat

/-- A part of what is left to do. -/
inductive Pending where
  /-- Values of operands so far, the last one first, the operands after the current one, and what to
  do with all of them. -/
  | operands (done : List Value) (rest : List Expr) (purpose : Purpose) (env : Env)
  /-- The statements of a block after the current one. -/
  | block (rest whole : List Statement) (env : Env)
  /-- A loop that goes on while a condition holds. -/
  | whileLoop (condition : Expr) (body : List Statement) (env : Env)
  /-- A loop over integers, with the number of turns left. -/
  | integerLoop (index step : Int64) (left : Nat) (body : List Statement) (env : Env)
  /-- A loop over floats. -/
  | floatLoop (index limit step : Float) (body : List Statement) (env : Env)
  /-- A loop over the values of an iterator. -/
  | iteratorLoop (count : Nat) (iterator state control : Value) (body : List Statement) (line : Nat)
      (env : Env)
  | activation (activation : Activation)
  | protection (protection : Protection)

namespace Pending

/-- How many calls are in progress. -/
def depth : List Pending → Nat
  | [] => 0
  | .activation call :: _ => call.depth
  | .protection call :: _ => call.depth
  | _ :: rest => depth rest

/-- The frames below the innermost protected call, if there is one. -/
def unprotected? : List Pending → Option (List Pending)
  | [] => none
  | .protection _ :: rest => some rest
  | _ :: rest => unprotected? rest

end Pending

/-! ### Levels -/

/-- A call in progress as tracebacks show it. -/
structure CallLevel where
  function : Option Nat
  naming : Option Naming
  isTail : Bool
  /-- For a closure: its script, the line where it is defined and the line that is executed. -/
  position : Option (String × Nat × Nat)
  isMain : Bool

namespace CallLevel

/-- A call of a native function. -/
def ofNative (function : Nat) (naming : Option Naming) : CallLevel :=
  { function := some function, naming, isTail := false, position := none, isMain := false }

/-- A native function that has no name. -/
def anonymous : CallLevel :=
  { function := none, naming := none, isTail := false, position := none, isMain := false }

/-- The calls in progress, innermost first, when `line` is executed. -/
def ofFrames (line : Nat) : List Pending → List CallLevel
  | [] => []
  | .activation call :: rest =>
    { function := some call.function, naming := call.naming, isTail := call.isTail,
      position := some (call.source, call.lineDefined, line), isMain := call.isMain } ::
      ofFrames call.callLine rest
  | .protection call :: rest =>
    ofNative call.function call.naming :: ofFrames call.callLine rest
  | _ :: rest => ofFrames line rest

/-- The start of a message about what a level executes. -/
def place (levels : List CallLevel) (index : Nat) : String :=
  match levels[index]? with
  | some { position := some (source, _, line), .. } => source ++ ":" ++ toString line ++ ": "
  | _ => ""

/-- How a traceback shows a level. -/
def text (heap : Heap) (level : CallLevel) : String :=
  "\n\t" ++ start ++ ": in " ++ name ++ if level.isTail then "\n\t(...tail calls...)" else ""
where
  start : String :=
    match level.position with
    | some (source, _, line) => source ++ ":" ++ toString line
    | none => "[C]"
  name : String :=
    match level.function.bind (Library.nameOf? heap) with
    | some name => "function " ++ Token.quote name
    | none =>
      match level.naming with
      | some naming => naming.kind ++ " " ++ Token.quote naming.name
      | none =>
        match level.position with
        | some (source, lineDefined, _) =>
          if level.isMain then "main chunk"
          else "function <" ++ source ++ ":" ++ toString lineDefined ++ ">"
        | none => "?"

end CallLevel

/-- How many levels a shortened traceback shows at its start. -/
def shownFirst : Nat := 10

/-- How many levels a shortened traceback shows at its end. -/
def shownLast : Nat := 11

/-- The traceback of the calls in progress. If there are many, the middle ones are left out. -/
def traceback (heap : Heap) (levels : List CallLevel) : String :=
  let count := levels.length
  let lines :=
    if count ≤ shownFirst + shownLast + 1 then levels.map (CallLevel.text heap)
    else
      (levels.take shownFirst).map (CallLevel.text heap) ++
        ["\n\t...\t(skipping " ++ toString (count - shownFirst - shownLast - 1) ++ " levels)"] ++
        (levels.drop (count - shownLast)).map (CallLevel.text heap)
  Traceback.header ++ String.join lines

end LuaHost.Lua
