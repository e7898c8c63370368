import LuaHost.Lua.Lexer
import LuaHost.Lua.Syntax

/-!
# Parser state

The lexemes that are left, the variables in scope and the jumps without a target yet. The first
lexeme that is left is the current one; messages are about it.
-/

namespace LuaHost.Lua.Parser

/-- What a name in scope stands for. A variable with a constant value takes no place at run time. -/
inductive Role where
  | variable
  | readOnly
  | constant (value : Expr)

/-- A name in scope, and how many functions enclose its declaration. -/
structure Binding where
  name : String
  level : Nat
  role : Role

/-- A jump without a target yet: to a label, or out of the loop. -/
structure Jump where
  label : Option String
  line : Nat

/-- What the parser knows. -/
structure State where
  source : String
  lexemes : List Lexeme
  /-- The line of the lexeme before the current one. -/
  previousLine : Nat
  /-- Innermost first. -/
  bindings : List Binding
  level : Nat
  variadic : Bool
  /-- Of the current function, oldest first. -/
  jumps : List Jump

/-- A parsing action; it fails with the text of a syntax error. -/
abbrev Action := StateT State (Except String)

/-! ### Lexemes and mistakes -/

/-- Fails with a message about a line. -/
def failAt {α : Type} (line : Nat) (message : String) : Action α := do
  throw ((← get).source ++ ":" ++ toString line ++ ": " ++ message)

/-- The current lexeme. -/
def current : Action Lexeme := do
  match (← get).lexemes with
  | lexeme :: _ => return lexeme
  | [] => return ⟨.endOfText, (← get).previousLine, Token.endShown⟩

/-- Fails with a message about the current lexeme, without showing it. -/
def failHere {α : Type} (message : String) : Action α := do
  failAt (← current).line message

/-- Fails with a message that shows the current lexeme. -/
def failNear {α : Type} (message : String) : Action α := do
  let lexeme ← current
  failAt lexeme.line (message ++ " near " ++ lexeme.shown)

/-- Fails if the text cannot be read on at the current lexeme. -/
def checkReadable : Action Unit := do
  match (← current).token with
  | .invalid message => failNear message
  | _ => return

/-- Goes on to the next lexeme. -/
def advance : Action Unit := do
  let line := (← current).line
  modify fun state => { state with lexemes := state.lexemes.drop 1, previousLine := line }
  checkReadable

/-- The line of the last lexeme that was passed. -/
def previousLine : Action Nat :=
  return (← get).previousLine

/-- Whether the current lexeme is a given symbol. -/
def atSymbol (text : String) : Action Bool := do
  match (← current).token with
  | .symbol symbol => return symbol == text
  | _ => return false

/-- Whether the current lexeme is a given reserved word. -/
def atWord (word : String) : Action Bool := do
  match (← current).token with
  | .reserved found => return found == word
  | _ => return false

/-- Passes a symbol if it is there, and says whether it was. -/
def skipSymbol (text : String) : Action Bool := do
  if ← atSymbol text then
    advance
    return true
  else return false

/-- Passes a reserved word if it is there, and says whether it was. -/
def skipWord (word : String) : Action Bool := do
  if ← atWord word then
    advance
    return true
  else return false

/-- Passes a symbol that has to be there. -/
def expectSymbol (text : String) : Action Unit := do
  if !(← skipSymbol text) then failNear (Token.quote text ++ " expected")

/-- Passes a reserved word that has to be there. -/
def expectWord (word : String) : Action Unit := do
  if !(← skipWord word) then failNear (Token.quote word ++ " expected")

/-- Fails because `close` is missing, which closes what was opened on a line. -/
def failUnclosed {α : Type} (close opener : String) (line : Nat) : Action α := do
  if line == (← current).line then failNear (Token.quote close ++ " expected")
  else
    failNear (Token.quote close ++ " expected (to close " ++ Token.quote opener ++ " at line " ++
      toString line ++ ")")

/-- Passes the symbol that closes what was opened on a line. -/
def closeSymbol (close opener : String) (line : Nat) : Action Unit := do
  if !(← skipSymbol close) then failUnclosed close opener line

/-- Passes the `end` of what was opened on a line. -/
def closeBlock (opener : String) (line : Nat) : Action Unit := do
  if !(← skipWord "end") then failUnclosed "end" opener line

/-- Passes a name. -/
def expectName : Action String := do
  match (← current).token with
  | .name name =>
    advance
    return name
  | _ => failNear "<name> expected"

/-- Whether a block ends at the current lexeme. -/
def atBlockEnd : Action Bool := do
  match (← current).token with
  | .endOfText => return true
  | .reserved word => return ["else", "elseif", "end", "until"].contains word
  | _ => return false

/-! ### Scopes -/

/-- Whether a binding takes a place at run time. -/
def Binding.takesPlace (binding : Binding) : Bool :=
  match binding.role with
  | .constant _ => false
  | _ => true

/-- What a name stands for: its binding, and how many variables have been declared after it. -/
def resolve? (name : String) : List Binding → Option (Binding × Nat)
  | [] => none
  | binding :: rest =>
    if binding.name == name then some (binding, 0)
    else
      (resolve? name rest).map fun (found, position) =>
        (found, if binding.takesPlace then position + 1 else position)

/-- The expression that a name stands for. -/
def nameExpr (name : String) : Action Expr := do
  let state ← get
  match resolve? name state.bindings with
  | none => return .global name
  | some (binding, position) =>
    match binding.role with
    | .constant value => return value
    | _ => return .variable position name (binding.level != state.level)

/-- Fails if a name stands for a variable that cannot be assigned to. -/
def checkAssignable (name : String) : Action Unit := do
  match resolve? name (← get).bindings with
  | some (⟨_, _, .readOnly⟩, _) =>
    failHere ("attempt to assign to const variable " ++ Token.quote name)
  | some (⟨_, _, .constant _⟩, _) =>
    failHere ("attempt to assign to const variable " ++ Token.quote name)
  | _ => return

/-- Puts a name into scope. -/
def bind (name : String) (role : Role) : Action Unit :=
  modify fun state => { state with bindings := ⟨name, state.level, role⟩ :: state.bindings }

/-- Runs an action whose declarations go out of scope at its end. -/
def inScope {α : Type} (action : Action α) : Action α := do
  let bindings := (← get).bindings
  let result ← action
  modify fun state => { state with bindings }
  return result

/-- The number of variables in scope. -/
def scopeSize : Action Nat :=
  return (((← get).bindings).filter Binding.takesPlace).length

/-! ### Jumps -/

/-- Notes a jump. -/
def noteJump (label : Option String) (line : Nat) : Action Unit :=
  modify fun state => { state with jumps := state.jumps ++ [⟨label, line⟩] }

/-- Runs an action; of the jumps noted in it, those that `resolved` accepts have found their
target. -/
def settlingJumps {α : Type} (action : Action α) (resolved : α → Jump → Bool) : Action α := do
  let before := (← get).jumps.length
  let result ← action
  modify fun state =>
    { state with
      jumps := state.jumps.take before ++
        (state.jumps.drop before).filter fun jump => !resolved result jump }
  return result

/-- Fails if a jump of the current function has found no target. -/
def checkJumps : Action Unit := do
  match (← get).jumps with
  | [] => return
  | ⟨none, line⟩ :: _ => failHere ("break outside loop at line " ++ toString line)
  | ⟨some label, line⟩ :: _ =>
    failHere ("no visible label " ++ Token.quote label ++ " for <goto> at line " ++ toString line)


end LuaHost.Lua.Parser
