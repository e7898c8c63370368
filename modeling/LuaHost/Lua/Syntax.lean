import LuaHost.Lua.Number

/-!
# Syntax

Scripts as trees. A local variable is given by its position among the variables in scope, innermost
first. Expressions that can fail carry the line that a failure is reported on.
-/

namespace LuaHost.Lua

/-- How a message names a value or a function: what kind of variable it came from, and the name. -/
structure Naming where
  kind : String
  name : String
  deriving DecidableEq, Repr

/-- Operators with two operands that are both evaluated, arithmetic apart. -/
inductive Comparison where
  | equal
  | unequal
  | less
  | atMost
  | greater
  | atLeast
  deriving DecidableEq, Repr

mutual

/-- An expression. -/
inductive Expr where
  | nil
  | boolean (value : Bool)
  | number (value : Number)
  | string (value : String)
  | varargs
  /-- A local variable; `outer` if it belongs to an enclosing function. -/
  | variable (position : Nat) (name : String) (outer : Bool)
  | global (name : String)
  | index (object key : Expr) (line : Nat)
  | call (callee : Expr) (arguments : List Expr) (line : Nat)
  | invoke (object : Expr) (method : String) (arguments : List Expr) (selfLine line : Nat)
  | lambda (function : Function)
  | arithmetic (op : Arithmetic) (left right : Expr) (line : Nat)
  | comparison (op : Comparison) (left right : Expr) (line : Nat)
  | concat (operands : List Expr) (line : Nat)
  | length (operand : Expr) (line : Nat)
  | negation (operand : Expr)
  | conjunction (left right : Expr)
  | disjunction (left right : Expr)
  | parentheses (inner : Expr)
  | table (fields : List Field) (line : Nat)

/-- A field of a table constructor. -/
inductive Field where
  | named (name : String) (value : Expr)
  | keyed (key value : Expr)
  | item (value : Expr)

/-- A function body. -/
inductive Function where
  | mk (parameters : Nat) (variadic : Bool) (body : List Statement) (lineDefined : Nat)
    (isMain : Bool)

/-- A statement. A loop that tests at its end is an endless loop whose body ends with a test. -/
inductive Statement where
  | perform (call : Expr)
  | assign (targets values : List Expr) (line : Nat)
  | declare (count : Nat) (values : List Expr)
  | declareFunction (function : Function)
  | block (body : List Statement)
  | conditional (condition : Expr) (yes no : List Statement)
  | whileLoop (condition : Expr) (body : List Statement)
  | countLoop (start limit : Expr) (step : Option Expr) (body : List Statement) (line : Nat)
  | iterate (count : Nat) (values : List Expr) (body : List Statement) (line : Nat)
  | leave (values : List Expr)
  | leaveCalling (callee : Expr) (arguments : List Expr) (line : Nat)
  | leaveInvoking (object : Expr) (method : String) (arguments : List Expr) (selfLine line : Nat)
  | breakLoop
  | jump (label : String)
  /-- A label, with the number of variables in scope there. -/
  | label (name : String) (scope : Nat)

end

instance : Inhabited Expr := ⟨.nil⟩
instance : Inhabited Statement := ⟨.breakLoop⟩

namespace Expr

/-- The truth value of a literal. -/
def literalTruth? : Expr → Option Bool
  | .nil => some false
  | .boolean b => some b
  | .number _ => some true
  | .string _ => some true
  | _ => none

/-- The greatest integer that is shown as an integer index. -/
def greatestShownIndex : Int64 := 255

/-- How messages name the value of an expression, if they do. -/
def naming? : Expr → Option Naming
  | .string s => some ⟨"constant", s⟩
  | .variable _ name outer => some ⟨if outer then "upvalue" else "local", name⟩
  | .global name => some ⟨"global", name⟩
  | .index _ (.string name) _ => some ⟨"field", name⟩
  | .index _ (.number (.integer n)) _ =>
    some ⟨"field", if 0 ≤ n && n ≤ greatestShownIndex then "integer index" else "?"⟩
  | .index .. => some ⟨"field", "?"⟩
  | .parentheses inner => naming? inner
  | .conjunction left right => if left.literalTruth? == some true then naming? right else none
  | .disjunction left right => if left.literalTruth? == some false then naming? right else none
  | _ => none

end Expr

end LuaHost.Lua
