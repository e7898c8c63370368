import LuaHost.Lua.Parser.State

/-!
# Parser

From lexemes to trees, by recursive descent. Fuel bounds the depth of the calls; every call chain of
fixed length passes a lexeme.
-/

namespace LuaHost.Lua.Parser

/-- Binary operators with the strength by which they bind to the left and to the right. -/
inductive Infix where
  | arithmetic (op : Arithmetic)
  | comparison (op : Comparison)
  | concat
  | conjunction
  | disjunction

/-- The binary operator that a token stands for, with its strengths. -/
def infixOf? : Token → Option (Infix × Nat × Nat)
  | .symbol "+" => some (.arithmetic .add, 10, 10)
  | .symbol "-" => some (.arithmetic .sub, 10, 10)
  | .symbol "*" => some (.arithmetic .mul, 11, 11)
  | .symbol "%" => some (.arithmetic .mod, 11, 11)
  | .symbol "^" => some (.arithmetic .pow, 14, 13)
  | .symbol "/" => some (.arithmetic .div, 11, 11)
  | .symbol "//" => some (.arithmetic .floorDiv, 11, 11)
  | .symbol ".." => some (.concat, 9, 8)
  | .symbol "==" => some (.comparison .equal, 3, 3)
  | .symbol "~=" => some (.comparison .unequal, 3, 3)
  | .symbol "<" => some (.comparison .less, 3, 3)
  | .symbol "<=" => some (.comparison .atMost, 3, 3)
  | .symbol ">" => some (.comparison .greater, 3, 3)
  | .symbol ">=" => some (.comparison .atLeast, 3, 3)
  | .reserved "and" => some (.conjunction, 2, 2)
  | .reserved "or" => some (.disjunction, 1, 1)
  | _ => none

/-- The strength by which unary operators bind. -/
def unaryStrength : Nat := 12

/-- An expression whose last access happens when the parser has come to a line. -/
def settle (line : Nat) : Expr → Expr
  | .index object key _ => .index object key line
  | .conjunction left right => .conjunction left (settle line right)
  | .disjunction left right => .disjunction left (settle line right)
  | other => other

/-- An expression that is used at this point. -/
def settled (expr : Expr) : Action Expr :=
  return settle (← previousLine) expr

/-- An expression in parentheses, which has one value. -/
def parenthesize : Expr → Expr
  | .number n => .number n
  | other => .parentheses other

/-- Whether arithmetic on constants is done while parsing: not if the result is zero or no
number. -/
def foldable : Number → Bool
  | .integer _ => true
  | .float x => x == x && x != 0

/-- Arithmetic, done at once on constants. -/
def arithmetic (op : Arithmetic) (left right : Expr) (line : Nat) : Expr :=
  match left, right with
  | .number a, .number b =>
    match op.onNumbers a b with
    | .ok n => if foldable n then .number n else .arithmetic op left right line
    | .error _ => .arithmetic op left right line
  | _, _ => .arithmetic op left right line

/-- The concatenation of one more operand in front of others. -/
def concat (left right : Expr) (line : Nat) : Expr :=
  match right with
  | .concat operands inner => .concat (left :: operands) inner
  | .parentheses (.concat operands inner) => .concat (left :: operands) inner
  | other => .concat [left, other] line

/-- The application of a binary operator that stands on `line`, with its operands read. -/
def combine (op : Infix) (left right : Expr) (line : Nat) : Action Expr := do
  match op with
  | .arithmetic op => return arithmetic op left right line
  | .comparison op => return .comparison op left right (← previousLine)
  | .concat => return concat left right line
  | .conjunction => return .conjunction left right
  | .disjunction => return .disjunction left right

/-- Whether an expression can be assigned to. -/
def isTarget : Expr → Bool
  | .variable .. => true
  | .global _ => true
  | .index .. => true
  | _ => false

/-- Whether an expression is a call. -/
def isCall : Expr → Bool
  | .call .. => true
  | .invoke .. => true
  | _ => false

/-- The target with the line of its assignment. -/
def targetAt (line : Nat) : Expr → Expr
  | .index object key _ => .index object key line
  | other => other

/-- The labels of a block. -/
def labels (body : List Statement) : List String :=
  body.filterMap fun
    | .label name _ => some name
    | _ => none

/-- The statement that leaves a function with values. -/
def leaving : List Expr → Statement
  | [.call callee arguments line] => .leaveCalling callee arguments line
  | [.invoke object method arguments selfLine line] =>
    .leaveInvoking object method arguments selfLine line
  | values => .leave values

/-- A value known while parsing. -/
def constant? : Expr → Option Expr
  | .nil => some .nil
  | .boolean b => some (.boolean b)
  | .number n => some (.number n)
  | .string s => some (.string s)
  | _ => none

/-- The name of a variable, if an expression was that name alone. -/
def bareName? (lexemes : List Lexeme) (left : Nat) : Option String :=
  match lexemes with
  | ⟨.name name, _, _⟩ :: rest => if rest.length == left then some name else none
  | _ => none

/-- Fails because there are more nested constructs than fuel. -/
def failTooDeep {α : Type} : Action α := failNear "chunk has too many syntax levels"

mutual

/-- The statements of a block, up to a lexeme that ends it. -/
def statements (fuel : Nat) : Action (List Statement) :=
  match fuel with
  | 0 => failTooDeep
  | fuel + 1 => do
    if ← atBlockEnd then return []
    let isLast ← atWord "return"
    let first ← statement fuel
    if isLast then return first
    return first ++ (← statements fuel)

/-- A block with a scope of its own. -/
def block (fuel : Nat) : Action (List Statement) :=
  match fuel with
  | 0 => failTooDeep
  | fuel + 1 =>
    inScope (settlingJumps (statements fuel) fun body jump =>
      jump.label.any fun label => (labels body).contains label)

/-- The body of a loop, after which breaks have found their target. -/
def loopBody (fuel : Nat) : Action (List Statement) :=
  match fuel with
  | 0 => failTooDeep
  | fuel + 1 => settlingJumps (block fuel) fun _ jump => jump.label.isNone

/-- One statement; none for a semicolon. -/
def statement (fuel : Nat) : Action (List Statement) :=
  match fuel with
  | 0 => failTooDeep
  | fuel + 1 => do
    let lexeme ← current
    match lexeme.token with
    | .symbol ";" =>
      advance
      return []
    | .symbol "::" =>
      advance
      let name ← expectName
      expectSymbol "::"
      return [.label name (← scopeSize)]
    | .reserved "if" => return [← conditional fuel lexeme.line]
    | .reserved "while" =>
      advance
      let condition ← settled (← expression fuel 0)
      expectWord "do"
      let body ← loopBody fuel
      closeBlock "while" lexeme.line
      return [.whileLoop condition body]
    | .reserved "do" =>
      advance
      let body ← block fuel
      closeBlock "do" lexeme.line
      return [.block body]
    | .reserved "for" =>
      advance
      let name ← expectName
      let loop ← forLoop fuel name
      closeBlock "for" lexeme.line
      return [loop]
    | .reserved "repeat" =>
      advance
      let body ← settlingJumps
        (inScope (do
          let body ← settlingJumps (statements fuel) fun body jump =>
            jump.label.any fun label => (labels body).contains label
          if !(← skipWord "until") then failUnclosed "until" "repeat" lexeme.line
          let condition ← settled (← expression fuel 0)
          return body ++ [.conditional condition [.breakLoop] []]))
        fun _ jump => jump.label.isNone
      return [.whileLoop (.boolean true) body]
    | .reserved "function" =>
      advance
      let start := (← get).lexemes
      let name ← expectName
      let target ← nameExpr name
      let (target, isMethod) ← functionName fuel target
      let bare := bareName? start (← get).lexemes.length
      let function ← functionBody fuel isMethod lexeme.line
      if let some name := bare then checkAssignable name
      return [.assign [targetAt lexeme.line target] [.lambda function] lexeme.line]
    | .reserved "local" =>
      advance
      if ← skipWord "function" then
        let name ← expectName
        bind name .variable
        return [.declareFunction (← functionBody fuel false (← current).line)]
      else return [← declaration fuel]
    | .reserved "return" =>
      advance
      if (← atBlockEnd) || (← atSymbol ";") then
        discard (skipSymbol ";")
        return [.leave []]
      else
        let values ← expressions fuel
        discard (skipSymbol ";")
        return [leaving values]
    | .reserved "break" =>
      advance
      noteJump none lexeme.line
      return [.breakLoop]
    | .reserved "goto" =>
      advance
      let label ← expectName
      noteJump (some label) lexeme.line
      return [.jump label]
    | _ => return [← expressionStatement fuel]

/-- The statement that starts with `if` or `elseif`, up to and with its `end`; `line` is where the
whole of it was opened. -/
def conditional (fuel : Nat) (line : Nat) : Action Statement :=
  match fuel with
  | 0 => failTooDeep
  | fuel + 1 => do
    advance
    let condition ← expression fuel 0
    expectWord "then"
    let condition ← settled condition
    let yes ← block fuel
    if ← atWord "elseif" then return .conditional condition yes [← conditional fuel line]
    else if ← skipWord "else" then
      let no ← block fuel
      closeBlock "if" line
      return .conditional condition yes no
    else
      closeBlock "if" line
      return .conditional condition yes []

/-- A `for` loop after its first name, up to its `end`. -/
def forLoop (fuel : Nat) (name : String) : Action Statement :=
  match fuel with
  | 0 => failTooDeep
  | fuel + 1 => do
    if ← skipSymbol "=" then
      let start ← settled (← expression fuel 0)
      expectSymbol ","
      let limit ← settled (← expression fuel 0)
      let step ←
        if ← skipSymbol "," then pure (some (← settled (← expression fuel 0))) else pure none
      expectWord "do"
      let line ← previousLine
      let body ← inScope (do bind name .variable; loopBody fuel)
      return .countLoop start limit step body line
    else if (← atSymbol ",") || (← atWord "in") then
      let names ← moreNames fuel
      expectWord "in"
      let line := (← current).line
      let values ← expressions fuel
      expectWord "do"
      let body ← inScope (do
        for name in name :: names do bind name .variable
        loopBody fuel)
      return .iterate (names.length + 1) values body line
    else failNear "'=' or 'in' expected"

/-- Names that each follow a comma. -/
def moreNames (fuel : Nat) : Action (List String) :=
  match fuel with
  | 0 => failTooDeep
  | fuel + 1 => do
    if ← skipSymbol "," then
      let name ← expectName
      return name :: (← moreNames fuel)
    else return []

/-- The rest of a function name: fields, and whether it ends with a method. -/
def functionName (fuel : Nat) (target : Expr) : Action (Expr × Bool) :=
  match fuel with
  | 0 => failTooDeep
  | fuel + 1 => do
    if ← atSymbol "." then
      let object ← settled target
      advance
      functionName fuel (.index object (.string (← expectName)) (← previousLine))
    else if ← atSymbol ":" then
      let object ← settled target
      advance
      return (.index object (.string (← expectName)) (← previousLine), true)
    else return (target, false)

/-- The parameters of a function, up to the closing parenthesis: their number, and whether more
arguments are taken. -/
def parameters (fuel : Nat) : Action (Nat × Bool) :=
  match fuel with
  | 0 => failTooDeep
  | fuel + 1 => do
    match (← current).token with
    | .name name =>
      advance
      bind name .variable
      if ← skipSymbol "," then
        let (count, variadic) ← parameters fuel
        return (count + 1, variadic)
      else return (1, false)
    | .symbol "..." =>
      advance
      return (0, true)
    | _ => failNear "<name> or '...' expected"

/-- A function from its parameters to its `end`; `line` is where it was opened. -/
def functionBody (fuel : Nat) (isMethod : Bool) (line : Nat) : Action Function :=
  match fuel with
  | 0 => failTooDeep
  | fuel + 1 => do
    let outer ← get
    let function ← inScope (do
      modify fun state => { state with level := state.level + 1, jumps := [] }
      expectSymbol "("
      if isMethod then bind "self" .variable
      let (count, variadic) ← if ← atSymbol ")" then pure (0, false) else parameters fuel
      modify fun state => { state with variadic }
      expectSymbol ")"
      let body ← block fuel
      closeBlock "function" line
      checkJumps
      return .mk (if isMethod then count + 1 else count) variadic body line false)
    modify fun state =>
      { state with level := outer.level, variadic := outer.variadic, jumps := outer.jumps }
    return function

/-- The declared names of a `local` statement, with what each of them stands for. -/
def declaredNames (fuel : Nat) : Action (List (String × Bool)) :=
  match fuel with
  | 0 => failTooDeep
  | fuel + 1 => do
    let name ← expectName
    let isReadOnly ← declaredAttribute
    if ← skipSymbol "," then return (name, isReadOnly) :: (← declaredNames fuel)
    else return [(name, isReadOnly)]

/-- An optional attribute of a declared name: whether it makes the variable read-only. -/
def declaredAttribute : Action Bool := do
  if ← skipSymbol "<" then
    let name ← expectName
    expectSymbol ">"
    if name == "const" || name == "close" then return true
    else failHere ("unknown attribute " ++ Token.quote name)
  else return false

/-- A `local` statement after its first word. A last variable that is read-only and has a constant
value takes no place. -/
def declaration (fuel : Nat) : Action Statement :=
  match fuel with
  | 0 => failTooDeep
  | fuel + 1 => do
    let names ← declaredNames fuel
    let values ← if ← skipSymbol "=" then expressions fuel else pure []
    let role (isReadOnly : Bool) : Role := if isReadOnly then .readOnly else .variable
    let folded := match names.getLast?, values.getLast? with
      | some (_, true), some value =>
        if names.length == values.length then constant? value else none
      | _, _ => none
    match folded, names.getLast? with
    | some value, some (last, _) =>
      for (name, isReadOnly) in names.dropLast do bind name (role isReadOnly)
      bind last (.constant value)
      return .declare (names.length - 1) values.dropLast
    | _, _ =>
      for (name, isReadOnly) in names do bind name (role isReadOnly)
      return .declare names.length values

/-- A call or an assignment. -/
def expressionStatement (fuel : Nat) : Action Statement :=
  match fuel with
  | 0 => failTooDeep
  | fuel + 1 => do
    let start := (← get).lexemes
    let first ← suffixed fuel
    if (← atSymbol "=") || (← atSymbol ",") then
      let targets ← targetList fuel start first
      expectSymbol "="
      let values ← expressions fuel
      let line ← previousLine
      return .assign (targets.map (targetAt line)) values line
    else if isCall first then return .perform first
    else failNear "syntax error"

/-- The targets of an assignment, the first of which has been read from `start` on. -/
def targetList (fuel : Nat) (start : List Lexeme) (first : Expr) : Action (List Expr) :=
  match fuel with
  | 0 => failTooDeep
  | fuel + 1 => do
    if let some name := bareName? start (← get).lexemes.length then checkAssignable name
    if !isTarget first then failNear "syntax error"
    if ← skipSymbol "," then
      let start := (← get).lexemes
      let next ← suffixed fuel
      return first :: (← targetList fuel start next)
    else return [first]

/-- Expressions between commas, at least one. -/
def expressions (fuel : Nat) : Action (List Expr) :=
  match fuel with
  | 0 => failTooDeep
  | fuel + 1 => do
    let first ← expression fuel 0
    if ← skipSymbol "," then
      let first ← settled first
      return first :: (← expressions fuel)
    else return [← settled first]

/-- An expression whose binary operators bind stronger than `limit`. -/
def expression (fuel : Nat) (limit : Nat) : Action Expr :=
  match fuel with
  | 0 => failTooDeep
  | fuel + 1 => do
    let lexeme ← current
    let first ← match lexeme.token with
      | .reserved "not" =>
        advance
        pure (.negation (← settled (← expression fuel unaryStrength)))
      | .symbol "-" =>
        advance
        let operand ← settled (← expression fuel unaryStrength)
        pure (arithmetic .negate operand operand lexeme.line)
      | .symbol "#" =>
        advance
        pure (.length (← settled (← expression fuel unaryStrength)) lexeme.line)
      | _ => simple fuel
    operators fuel limit first

/-- An expression that starts with `left` and goes on with operators stronger than `limit`. -/
def operators (fuel : Nat) (limit : Nat) (left : Expr) : Action Expr :=
  match fuel with
  | 0 => failTooDeep
  | fuel + 1 => do
    let lexeme ← current
    match infixOf? lexeme.token with
    | some (op, leftStrength, rightStrength) =>
      if limit < leftStrength then
        advance
        let left ← settled left
        let right ← settled (← expression fuel rightStrength)
        operators fuel limit (← combine op left right lexeme.line)
      else return left
    | none => return left

/-- An expression without binary operators. -/
def simple (fuel : Nat) : Action Expr :=
  match fuel with
  | 0 => failTooDeep
  | fuel + 1 => do
    let lexeme ← current
    match lexeme.token with
    | .number n =>
      advance
      return .number n
    | .string s =>
      advance
      return .string s
    | .reserved "nil" =>
      advance
      return .nil
    | .reserved "true" =>
      advance
      return .boolean true
    | .reserved "false" =>
      advance
      return .boolean false
    | .symbol "..." =>
      if !(← get).variadic then failNear "cannot use '...' outside a vararg function"
      advance
      return .varargs
    | .symbol "\x7b" => tableConstructor fuel
    | .reserved "function" =>
      advance
      return .lambda (← functionBody fuel false (← current).line)
    | _ => suffixed fuel

/-- A name or an expression in parentheses, with what is accessed or called after it. -/
def suffixed (fuel : Nat) : Action Expr :=
  match fuel with
  | 0 => failTooDeep
  | fuel + 1 => do
    let lexeme ← current
    match lexeme.token with
    | .name name =>
      let expr ← nameExpr name
      advance
      suffixes fuel expr
    | .symbol "(" =>
      advance
      let inner ← expression fuel 0
      closeSymbol ")" "(" lexeme.line
      suffixes fuel (parenthesize (← settled inner))
    | _ => failNear "unexpected symbol"

/-- The accesses and calls that follow an expression. -/
def suffixes (fuel : Nat) (expr : Expr) : Action Expr :=
  match fuel with
  | 0 => failTooDeep
  | fuel + 1 => do
    match (← current).token with
    | .symbol "." =>
      let object ← settled expr
      advance
      let name ← expectName
      suffixes fuel (.index object (.string name) (← previousLine))
    | .symbol "[" =>
      let object ← settled expr
      let key ← bracketKey fuel
      suffixes fuel (.index object key (← previousLine))
    | .symbol ":" =>
      advance
      let name ← expectName
      let object ← settled expr
      let selfLine ← previousLine
      let (arguments, line) ← callArguments fuel
      suffixes fuel (.invoke object name arguments selfLine line)
    | .symbol "(" => applied fuel expr
    | .symbol "\x7b" => applied fuel expr
    | .string _ => applied fuel expr
    | _ => return expr

/-- A call of an expression, with what follows it. -/
def applied (fuel : Nat) (expr : Expr) : Action Expr :=
  match fuel with
  | 0 => failTooDeep
  | fuel + 1 => do
    let callee ← settled expr
    let (arguments, line) ← callArguments fuel
    suffixes fuel (.call callee arguments line)

/-- A key in brackets. -/
def bracketKey (fuel : Nat) : Action Expr :=
  match fuel with
  | 0 => failTooDeep
  | fuel + 1 => do
    expectSymbol "["
    let key ← settled (← expression fuel 0)
    expectSymbol "]"
    return key

/-- The arguments of a call, and the line on which they start. -/
def callArguments (fuel : Nat) : Action (List Expr × Nat) :=
  match fuel with
  | 0 => failTooDeep
  | fuel + 1 => do
    let lexeme ← current
    match lexeme.token with
    | .symbol "(" =>
      advance
      if ← skipSymbol ")" then return ([], lexeme.line)
      let arguments ← expressions fuel
      closeSymbol ")" "(" lexeme.line
      let line ← previousLine
      let last := arguments.getLast?.map (settle line)
      return (arguments.dropLast ++ last.toList, lexeme.line)
    | .symbol "\x7b" => return ([← tableConstructor fuel], lexeme.line)
    | .string s =>
      advance
      return ([.string s], lexeme.line)
    | _ => failNear "function arguments expected"

/-- A table constructor. -/
def tableConstructor (fuel : Nat) : Action Expr :=
  match fuel with
  | 0 => failTooDeep
  | fuel + 1 => do
    let line := (← current).line
    expectSymbol "\x7b"
    let fields ← tableFields fuel
    closeSymbol "\x7d" "\x7b" line
    return .table fields (← previousLine)

/-- The fields of a table constructor, up to its brace. -/
def tableFields (fuel : Nat) : Action (List Field) :=
  match fuel with
  | 0 => failTooDeep
  | fuel + 1 => do
    if ← atSymbol "\x7d" then return []
    let field ← tableField fuel
    if (← skipSymbol ",") || (← skipSymbol ";") then return field :: (← tableFields fuel)
    else return [field]

/-- A field of a table constructor. -/
def tableField (fuel : Nat) : Action Field :=
  match fuel with
  | 0 => failTooDeep
  | fuel + 1 => do
    match (← get).lexemes with
    | ⟨.name name, _, _⟩ :: ⟨.symbol "=", _, _⟩ :: _ =>
      advance
      advance
      return .named name (← settled (← expression fuel 0))
    | ⟨.symbol "[", _, _⟩ :: _ =>
      let key ← bracketKey fuel
      expectSymbol "="
      return .keyed key (← settled (← expression fuel 0))
    | _ => return .item (← settled (← expression fuel 0))

end

/-- The body of a script, up to the end of the text. -/
def chunk (fuel : Nat) : Action Function := do
  checkReadable
  let body ← block fuel
  match (← current).token with
  | .endOfText => checkJumps
  | _ => failNear "<eof> expected"
  return .mk 0 true body 0 true

/-- The script with a given text, or the text of the first syntax error in it. -/
def parse (source code : String) : Except String Function :=
  let lexemes := Lexer.lexemes code
  let start : State :=
    { source, lexemes, previousLine := 1, bindings := [], level := 0, variadic := true,
      jumps := [] }
  ((chunk (20 * lexemes.length + 20)).run start).map Prod.fst

end LuaHost.Lua.Parser
