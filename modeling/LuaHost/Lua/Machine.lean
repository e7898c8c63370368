import LuaHost.Lua.Operation

/-!
# Machine

Scripts run step by step. A machine has a heap, something to do now and the frames of what is left
to do after that. One step does one thing and may cause events; a run is a bounded number of steps.

This is the part of the language that scripts of a host need. Left out are metatables, so that
nothing runs code behind a script's back and no access to a table or a global variable fails because
of its table; coroutines; the operators on bits; the closing of variables at the end of their scope;
and all functions of the library without a `Native` of their own, which are there by name and fail
when they are called.
-/

namespace LuaHost.Lua

/-- What a machine does next. -/
inductive Control where
  | evaluate (expr : Expr) (env : Env)
  | execute (rest whole : List Statement) (env : Env)
  /-- An expression has these values. -/
  | deliver (values : List Value)
  /-- A statement is done. -/
  | proceed
  | apply (callee : Value) (arguments : List Value) (site : Site)
  /-- The current function ends with these values. -/
  | leave (values : List Value)
  | breakLoop
  | jump (label : String)
  /-- Something fails on a line. -/
  | raise (fault : Fault) (line : Nat)

/-- A machine. -/
structure Machine where
  heap : Heap
  control : Control
  stack : List Pending

/-- How a run ends: with the values of the function that was called, or with an error. -/
abbrev Outcome := Except Error (List Value)

/-- What a step leads to. -/
inductive Transition where
  | next (machine : Machine) (events : List Event)
  | halt (heap : Heap) (outcome : Outcome)

/-- How many calls can be in progress at a time. -/
def depthLimit : Nat := 200000

/-! ### Operands -/

namespace Expr

/-- The expressions whose values an expression needs first. -/
def operands : Expr → List Expr
  | .index object key _ => [object, key]
  | .call callee arguments _ => callee :: arguments
  | .invoke object _ _ _ _ => [object]
  | .arithmetic .negate left _ _ => [left]
  | .arithmetic _ left right _ => [left, right]
  | .comparison _ left right _ => [left, right]
  | .concat operands _ => operands
  | .length operand _ => [operand]
  | .negation operand => [operand]
  | .conjunction left _ => [left]
  | .disjunction left _ => [left]
  | .parentheses inner => [inner]
  | .table fields _ => fields.flatMap Field.operands
  | _ => []

/-- Whether the last operand gives all of its values. -/
def spreads : Expr → Bool
  | .table fields _ =>
    match fields.getLast? with
    | some (.item _) => true
    | _ => false
  | _ => false

/-- The line on which an operation fails. -/
def line : Expr → Nat
  | .index _ _ line => line
  | .call _ _ line => line
  | .invoke _ _ _ selfLine _ => selfLine
  | .arithmetic _ _ _ line => line
  | .comparison _ _ _ line => line
  | .concat _ line => line
  | .length _ line => line
  | .table _ line => line
  | _ => 0

end Expr

namespace Statement

/-- The expressions whose values a statement needs first. -/
def operands : Statement → List Expr
  | .perform call => [call]
  | .assign targets values _ => targets.flatMap Expr.targetOperands ++ values
  | .declare _ values => values
  | .conditional condition _ _ => [condition]
  | .whileLoop condition _ => [condition]
  | .countLoop start limit step _ _ => start :: limit :: step.toList
  | .iterate _ values _ _ => values
  | .leave values => values
  | .leaveCalling callee arguments _ => callee :: arguments
  | .leaveInvoking object _ _ _ _ => [object]
  | _ => []

/-- Whether the last operand gives all of its values. -/
def spreads : Statement → Bool
  | .assign .. => true
  | .declare .. => true
  | .iterate .. => true
  | .leave _ => true
  | _ => false

end Statement

/-- Whether the last operand gives all of its values. -/
def Purpose.spreads : Purpose → Bool
  | .expression expr => expr.spreads
  | .call _ => true
  | .tailCall _ => true
  | .statement s => s.spreads
  | .iteration .. => true

/-- The value of an operand when it is used: a variable of the function itself is read only then. -/
def Expr.reread (heap : Heap) (env : Env) : Expr → Value → Value
  | .variable position _ false, _ => heap.cell (env.cells.getD position 0)
  | .parentheses inner, value => reread heap env inner value
  | _, value => value

/-! ### Values of expressions -/

/-- The value that an operation has for values of its operands. -/
def Expr.combine (heap : Heap) (env : Env) (expr : Expr) (values : List Value) :
    Heap × Except Fault Value :=
  match expr, values with
  | .index object _ _, [o, k] =>
    (heap, Value.index heap (object.reread heap env o) k object.naming?)
  | .arithmetic op left _ _, [a] => (heap, Value.arithmetic op a a left.naming? left.naming?)
  | .arithmetic op left right _, [a, b] =>
    (heap, Value.arithmetic op (left.reread heap env a) b left.naming? right.naming?)
  | .comparison op left _ _, [a, b] =>
    (heap, (Value.compare op (left.reread heap env a) b).map Value.boolean)
  | .concat operands _, values => (heap, Value.concat (values.zip (operands.map Expr.naming?)))
  | .length operand _, [a] => (heap, Value.length heap a operand.naming?)
  | .negation _, [a] => (heap, .ok (.boolean !a.isTrue))
  | .table fields _, values => Value.construct heap fields values
  | _, values => (heap, .ok (values.headD .nil))

namespace Machine

/-- Goes on without events. -/
def continueWith (heap : Heap) (control : Control) (stack : List Pending) : Transition :=
  .next { heap, control, stack } []

/-! ### Calls -/

/-- A call of a native function as tracebacks show it. -/
def callLevel (function : Nat) (site : Site) : CallLevel :=
  CallLevel.ofNative function site.naming

/-- Calls a closure with arguments: `stack` is what is left to do afterwards. -/
def enter (heap : Heap) (function : Nat) (code : Function) (source : String) (outer : List Nat)
    (arguments : List Value) (naming : Option Naming) (isTail : Bool) (callLine depth : Nat)
    (stack : List Pending) : Transition :=
  match code with
  | .mk parameters variadic body lineDefined isMain =>
    let (cells, heap) := heap.declare outer parameters arguments
    let env : Env := { cells, extra := if variadic then arguments.drop parameters else [] }
    let activation : Activation :=
      { function, source, lineDefined, isMain, naming, isTail, callLine, depth }
    continueWith heap (.execute body body env) (.activation activation :: stack)

/-- Calls a value. -/
def apply (heap : Heap) (callee : Value) (arguments : List Value) (site : Site)
    (stack : List Pending) :
    Transition :=
  match callee with
  | .function address =>
    match heap.callable? address with
    | some (.closure code source outer) =>
      let depth := Pending.depth stack + 1
      if depthLimit < depth then
        continueWith heap (.raise (.here "stack overflow" site.naming) site.line) stack
      else enter heap address code source outer arguments site.naming false site.line depth stack
    | some (.native native) =>
      match native, arguments with
      | .pcall, function :: arguments =>
        let protection : Protection :=
          { function := address, naming := site.naming, callLine := site.line
            depth := Pending.depth stack + 1 }
        continueWith heap (.apply function arguments { naming := none, line := 0 })
          (.protection protection :: stack)
      | native, arguments =>
        let level := callLevel address site
        let (heap, events, reply) := native.run { heap, level, arguments }
        match reply with
        | .ok values => .next { heap, control := .deliver values, stack } events
        | .error cause =>
          .next { heap, control := .raise { cause, above := [level] } site.line, stack } events
    | none => continueWith heap (.deliver []) stack
  | other =>
    continueWith heap (.raise (.badOperand "call" other site.naming site.naming) site.line) stack

/-- The innermost closure in progress, and what is left to do below it. -/
def innermost? : List Pending → Option (Activation × List Pending)
  | [] => none
  | .activation activation :: rest => some (activation, rest)
  | _ :: rest => innermost? rest

/-- Calls a value in place of the current function. A native function is called as usual, and its
values are those of the current function. -/
def applyLast (heap : Heap) (callee : Value) (arguments : List Value) (site : Site) (env : Env)
    (stack : List Pending) : Transition :=
  let closure? := match callee with
    | .function address => (heap.callable? address).map fun callable => (address, callable)
    | _ => none
  match closure?, innermost? stack with
  | some (address, .closure code source outer), some (activation, rest) =>
    enter heap address code source outer arguments none true activation.callLine
      activation.depth rest
  | _, _ =>
    continueWith heap (.apply callee arguments site)
      (.operands [] [] (.statement (.leave [])) env :: stack)

/-! ### Loops -/

/-- Runs the body of a loop with new variables. -/
def turn (heap : Heap) (body : List Statement) (count : Nat) (values : List Value) (env : Env)
    (stack : List Pending) : Transition :=
  let (cells, heap) := heap.declare env.cells count values
  continueWith heap (.execute body body { env with cells }) stack

/-- Asks an iterator for the next values. -/
def iterate (heap : Heap) (iterator state control : Value) (line : Nat) (stack : List Pending) :
    Transition :=
  continueWith heap
    (.apply iterator [state, control]
      { naming := some ⟨"for iterator", "for iterator"⟩, line }) stack

/-! ### Using values -/

/-- Evaluates the operands that are left, or uses the values. -/
def gather (heap : Heap) (done : List Value) (rest : List Expr) (purpose : Purpose) (env : Env)
    (stack : List Pending) : Except (List Value) Transition :=
  match rest with
  | [] => .error done.reverse
  | expr :: rest =>
    .ok (continueWith heap (.evaluate expr env) (.operands done rest purpose env :: stack))

/-- Looks up a method, then goes on with the arguments of its call. -/
def invoke (heap : Heap) (object : Expr) (method : String) (arguments : List Expr)
    (selfLine line : Nat) (isLast : Bool) (self : Value) (env : Env) (stack : List Pending) :
    Transition :=
  match Value.index heap self (.string method) object.naming? with
  | .error fault => continueWith heap (.raise fault selfLine) stack
  | .ok callee =>
    let site : Site := { naming := some ⟨"method", method⟩, line }
    match arguments with
    | [] =>
      if isLast then applyLast heap callee [self] site env stack
      else continueWith heap (.apply callee [self] site) stack
    | argument :: arguments =>
      let purpose : Purpose := if isLast then .tailCall site else .call site
      continueWith heap (.evaluate argument env)
        (.operands [self, callee] arguments purpose env :: stack)

/-- Gives an expression the values of its operands. -/
def finishExpression (heap : Heap) (expr : Expr) (values : List Value) (env : Env)
    (stack : List Pending) : Transition :=
  match expr with
  | .conjunction _ right =>
    let left := values.headD .nil
    if left.isTrue then continueWith heap (.evaluate (.parentheses right) env) stack
    else continueWith heap (.deliver [left]) stack
  | .disjunction _ right =>
    let left := values.headD .nil
    if left.isTrue then continueWith heap (.deliver [left]) stack
    else continueWith heap (.evaluate (.parentheses right) env) stack
  | .invoke object method arguments selfLine line =>
    invoke heap object method arguments selfLine line false (values.headD .nil) env stack
  | _ =>
    match expr.combine heap env values with
    | (heap, .ok value) => continueWith heap (.deliver [value]) stack
    | (heap, .error fault) => continueWith heap (.raise fault expr.line) stack

/-- Gives a statement the values of its operands. -/
def finishStatement (heap : Heap) (statement : Statement) (values : List Value) (env : Env)
    (stack : List Pending) : Transition :=
  match statement with
  | .assign targets _ line =>
    let (places, values) := Expr.places env targets values
    match Expr.putAll heap places values with
    | (heap, none) => continueWith heap .proceed stack
    | (heap, some fault) => continueWith heap (.raise fault line) stack
  | .declare count _ =>
    match stack with
    | .block rest whole env :: stack =>
      let (cells, heap) := heap.declare env.cells count values
      continueWith heap (.execute rest whole { env with cells }) stack
    | _ => continueWith heap .proceed stack
  | .conditional _ yes no =>
    let body := if (values.headD .nil).isTrue then yes else no
    continueWith heap (.execute body body env) stack
  | .whileLoop condition body =>
    if (values.headD .nil).isTrue then
      continueWith heap (.execute body body env) (.whileLoop condition body env :: stack)
    else continueWith heap .proceed stack
  | .countLoop _ _ _ body line =>
    let one : Value := .number (.integer 1)
    match Count.ofValues (values.headD .nil) (values.getD 1 .nil) (values.getD 2 one) with
    | .error fault => continueWith heap (.raise fault line) stack
    | .ok .never => continueWith heap .proceed stack
    | .ok (.integers start step left) =>
      turn heap body 1 [.number (.integer start)] env
        (.integerLoop start step left body env :: stack)
    | .ok (.floats start limit step) =>
      turn heap body 1 [.number (.float start)] env (.floatLoop start limit step body env :: stack)
  | .iterate count _ body line =>
    let iterator := values.headD .nil
    let state := values.getD 1 .nil
    iterate heap iterator state (values.getD 2 .nil) line
      (.operands [iterator] [] (.iteration count body state line) env :: stack)
  | .leave _ => continueWith heap (.leave values) stack
  | .leaveInvoking object method arguments selfLine line =>
    invoke heap object method arguments selfLine line true (values.headD .nil) env stack
  | _ => continueWith heap .proceed stack

/-- Gives the values of operands to what needs them. -/
def finish (heap : Heap) (purpose : Purpose) (values : List Value) (env : Env)
    (stack : List Pending) :
    Transition :=
  match purpose with
  | .expression expr => finishExpression heap expr values env stack
  | .call site => continueWith heap (.apply (values.headD .nil) values.tail site) stack
  | .tailCall site => applyLast heap (values.headD .nil) values.tail site env stack
  | .statement statement => finishStatement heap statement values env stack
  | .iteration count body state line =>
    match values with
    | iterator :: control :: others =>
      match control with
      | .nil => continueWith heap .proceed stack
      | _ =>
        turn heap body count (control :: others) env
          (.iteratorLoop count iterator state control body line env :: stack)
    | _ => continueWith heap .proceed stack

/-- Starts on the operands of something. -/
def start (heap : Heap) (operands : List Expr) (purpose : Purpose) (env : Env)
    (stack : List Pending) :
    Transition :=
  match gather heap [] operands purpose env stack with
  | .ok transition => transition
  | .error values => finish heap purpose values env stack

/-! ### One step -/

/-- Evaluates an expression. -/
def evaluate (heap : Heap) (expr : Expr) (env : Env) (stack : List Pending) : Transition :=
  match expr with
  | .nil => continueWith heap (.deliver [.nil]) stack
  | .boolean value => continueWith heap (.deliver [.boolean value]) stack
  | .number n => continueWith heap (.deliver [.number n]) stack
  | .string s => continueWith heap (.deliver [.string s]) stack
  | .varargs => continueWith heap (.deliver env.extra) stack
  | .variable position _ _ =>
    let value := heap.cell (env.cells.getD position 0)
    continueWith heap (.deliver [value]) stack
  | .global name =>
    let value := heap.getGlobal name
    continueWith heap (.deliver [value]) stack
  | .lambda code =>
    let source := match innermost? stack with
      | some (activation, _) => activation.source
      | none => ""
    let (address, heap) := heap.newFunction (.closure code source env.cells)
    continueWith heap (.deliver [.function address]) stack
  | .call callee arguments line =>
    start heap (callee :: arguments) (.call { naming := callee.naming?, line }) env stack
  | other => start heap other.operands (.expression other) env stack

/-- Executes the first of some statements. -/
def execute (heap : Heap) (rest whole : List Statement) (env : Env) (stack : List Pending) :
    Transition :=
  match rest with
  | [] => continueWith heap .proceed stack
  | .declareFunction code :: rest =>
    let (cells, heap) := heap.declare env.cells 1 []
    let env := { env with cells }
    continueWith heap (.evaluate (.lambda code) env)
      (.operands [] [] (.statement (.assign [.variable 0 "" false] [] 0)) env ::
        .block rest whole env :: stack)
  | statement :: rest =>
    let stack := .block rest whole env :: stack
    match statement with
    | .block body => continueWith heap (.execute body body env) stack
    | .breakLoop => continueWith heap .breakLoop stack
    | .jump label => continueWith heap (.jump label) stack
    | .label .. => continueWith heap .proceed stack
    | .leaveCalling callee arguments line =>
      start heap (callee :: arguments) (.tailCall { naming := callee.naming?, line }) env stack
    | other => start heap other.operands (.statement other) env stack

/-- Gives values to the first frame. -/
def deliver (heap : Heap) (values : List Value) (stack : List Pending) : Transition :=
  match stack with
  | [] => .halt heap (.ok values)
  | .operands done rest purpose env :: stack =>
    let isLast := rest.isEmpty
    let done :=
      if isLast && purpose.spreads then values.reverse ++ done else values.headD .nil :: done
    match gather heap done rest purpose env stack with
    | .ok transition => transition
    | .error values => finish heap purpose values env stack
  | .protection _ :: stack => continueWith heap (.deliver (.boolean true :: values)) stack
  | .activation _ :: stack => continueWith heap (.deliver values) stack
  | stack => continueWith heap .proceed stack

/-- Goes on after a statement. -/
def proceed (heap : Heap) (stack : List Pending) : Transition :=
  match stack with
  | [] => .halt heap (.ok [])
  | .block rest whole env :: stack => continueWith heap (.execute rest whole env) stack
  | .whileLoop condition body env :: stack =>
    start heap [condition] (.statement (.whileLoop condition body)) env stack
  | .integerLoop index step left body env :: stack =>
    match left with
    | 0 => continueWith heap .proceed stack
    | left + 1 =>
      turn heap body 1 [.number (.integer (index + step))] env
        (.integerLoop (index + step) step left body env :: stack)
  | .floatLoop index limit step body env :: stack =>
    match Count.nextFloat? index limit step with
    | none => continueWith heap .proceed stack
    | some next =>
      turn heap body 1 [.number (.float next)] env (.floatLoop next limit step body env :: stack)
  | .iteratorLoop count iterator state control body line env :: stack =>
    iterate heap iterator state control line
      (.operands [iterator] [] (.iteration count body state line) env :: stack)
  | .operands .. :: stack => continueWith heap .proceed stack
  | .activation _ :: stack => continueWith heap (.deliver []) stack
  | .protection _ :: stack => continueWith heap (.deliver [.boolean true]) stack

/-- Ends the current function. -/
def leave (heap : Heap) (values : List Value) (stack : List Pending) : Transition :=
  match innermost? stack with
  | some (_, rest) => continueWith heap (.deliver values) rest
  | none => .halt heap (.ok values)

/-- Ends the innermost loop. -/
def breakLoop (heap : Heap) (stack : List Pending) : Transition :=
  match stack with
  | .block .. :: stack => continueWith heap .breakLoop stack
  | _ :: stack => continueWith heap .proceed stack
  | [] => continueWith heap .proceed []

/-- The statements after a label, with the number of variables in scope there. -/
def afterLabel? (label : String) : List Statement → Option (List Statement × Nat)
  | [] => none
  | .label name scope :: rest =>
    if name == label then some (rest, scope) else afterLabel? label rest
  | _ :: rest => afterLabel? label rest

/-- Goes on after a label of a block around. -/
def jump (heap : Heap) (label : String) (stack : List Pending) : Transition :=
  match stack with
  | [] => continueWith heap .proceed []
  | .block _ whole env :: stack =>
    match afterLabel? label whole with
    | some (rest, scope) =>
      let env := { env with cells := env.cells.drop (env.cells.length - scope) }
      continueWith heap (.execute rest whole env) stack
    | none => continueWith heap (.jump label) stack
  | _ :: stack => continueWith heap (.jump label) stack

/-- The error value that a fault amounts to, given the calls in progress. -/
def errorValue (heap : Heap) (cause : Cause) (levels : List CallLevel) : Value × Heap :=
  match cause with
  | .value value => (value, heap)
  | .message text level => (.string (CallLevel.place levels level ++ text), heap)
  | .host error =>
    let (address, heap) := heap.newFailure (.callback (traceback heap levels) error)
    (.failure address, heap)

/-- The error that ends a run: an error of the host as it is, else a text with a traceback. On top
of the traceback is what made it, which goes by the name of the operation that failed. -/
def uncaught (heap : Heap) (value : Value) (operation : Option Naming) (levels : List CallLevel) :
    Error :=
  match value with
  | .failure address => heap.failures.getD address .unresumable
  | other =>
    let message := String.ofList ((heap.text other).toList.takeWhile (· ≠ '\x00'))
    let top := { CallLevel.anonymous with naming := operation }
    .runtime (message ++ "\n" ++ traceback heap (top :: levels))

/-- Ends the calls up to the innermost protected one, or the run. -/
def raise (heap : Heap) (fault : Fault) (line : Nat) (stack : List Pending) : Transition :=
  let levels := fault.above ++ CallLevel.ofFrames line stack
  let (value, heap) := errorValue heap fault.cause levels
  match Pending.unprotected? stack with
  | some stack => continueWith heap (.deliver [.boolean false, value]) stack
  | none => .halt heap (.error (uncaught heap value fault.operation levels))

/-- One step of a machine. -/
def step (machine : Machine) : Transition :=
  match machine with
  | { heap, control, stack } =>
    match control with
    | .evaluate expr env => evaluate heap expr env stack
    | .execute rest whole env => execute heap rest whole env stack
    | .deliver values => deliver heap values stack
    | .proceed => proceed heap stack
    | .apply callee arguments site => apply heap callee arguments site stack
    | .leave values => leave heap values stack
    | .breakLoop => breakLoop heap stack
    | .jump label => jump heap label stack
    | .raise fault line => raise heap fault line stack

/-! ### Runs -/

/-- What a run leaves behind. -/
structure Finished where
  heap : Heap
  outcome : Outcome
  events : List Event

/-- Runs a machine for at most `fuel` steps; `past` are the events so far, the last one first. A run
that is not over by then ends with an error that no script causes. It stands for a run that goes on,
so that what is said about hosts and programs supposes that scripts and their hooks return. -/
def runFrom (machine : Machine) (past : List Event) : Nat → Finished
  | 0 =>
    { heap := machine.heap, outcome := .error (.runtime "interrupted!"), events := past.reverse }
  | fuel + 1 =>
    match machine.step with
    | .next machine events => runFrom machine (events.reverse ++ past) fuel
    | .halt heap outcome => { heap, outcome, events := past.reverse }

/-- How many steps a run may take. Calls that return are supposed to take fewer. -/
def stepLimit : Nat := 1000000000000

/-- Calls a value with arguments. -/
def call (heap : Heap) (callee : Value) (arguments : List Value) : Finished :=
  let site : Site := { naming := none, line := 0 }
  runFrom { heap, control := .apply callee arguments site, stack := [] } [] stepLimit

end Machine

end LuaHost.Lua
