import LuaHost.Lua.Machine
import Mathlib.Data.List.Basic

/-!
# Quiet steps

Most of what a machine does causes no events and leaves alone which functions there are, how many
messages have been logged, and that a table is there once it was made (`Transition.Quiet`). There is
one lemma for each part of a step. Two steps are not quiet (`Machine.step_quiet`): a function
expression makes a closure, and a call may be one of a native function.
-/

namespace LuaHost.Lua

/-! ### Heaps -/

/-- From one heap to another the functions and the count of messages stay as they are, and no table
is lost. -/
structure Heap.Keeps (before after : Heap) : Prop where
  functions : after.functions = before.functions
  logged : after.logged = before.logged
  tables : before.tables.size ≤ after.tables.size

namespace Heap

/-- A heap keeps what it has. -/
@[simp] lemma Keeps.refl (heap : Heap) : heap.Keeps heap :=
  ⟨rfl, rfl, Nat.le_refl _⟩

/-- What is kept twice is kept. -/
lemma Keeps.trans {before after last : Heap} (first : before.Keeps after)
    (second : after.Keeps last) : before.Keeps last where
  functions := second.functions.trans first.functions
  logged := second.logged.trans first.logged
  tables := Nat.le_trans first.tables second.tables

variable (heap : Heap)

/-- Setting a key of a table makes no table. -/
@[simp] lemma set_tables_size (address : Nat) (key : Key) (value : Value) :
    (heap.set address key value).tables.size = heap.tables.size :=
  Array.size_modify

/-- Setting a key of a table keeps functions and count. -/
lemma set_keeps (address : Nat) (key : Key) (value : Value) :
    heap.Keeps (heap.set address key value) :=
  ⟨rfl, rfl, Nat.le_of_eq (heap.set_tables_size address key value).symm⟩

/-- Setting a global variable keeps functions and count. -/
lemma setGlobal_keeps (name : String) (value : Value) : heap.Keeps (heap.setGlobal name value) :=
  heap.set_keeps _ _ _

/-- A new table is one more. -/
lemma newTable_keeps (table : Table) : heap.Keeps (heap.newTable table).2 := by
  refine ⟨rfl, rfl, ?_⟩
  rw [newTable, Array.size_push]
  exact Nat.le_succ _

/-- New variables keep functions and count. -/
lemma declare_keeps (cells : List Nat) (count : Nat) (values : List Value) :
    heap.Keeps (heap.declare cells count values).2 := by
  induction count generalizing heap cells values with
  | zero => exact .refl heap
  | succ count ih =>
    have one : heap.Keeps (heap.newCell (values.headD .nil)).2 := ⟨rfl, rfl, Nat.le_refl _⟩
    exact one.trans (ih _ _ _)

end Heap

/-! ### Operations -/

section

variable (heap : Heap)

/-- Storing a value keeps functions and count. -/
lemma Value.store_keeps (object key value naming) :
    heap.Keeps (store heap object key value naming).1 := by
  unfold store
  dsimp only
  split
  case h_1 =>
    split
    case h_1 => exact heap.set_keeps _ _ _
    all_goals exact .refl heap
  case h_2 => exact .refl heap

/-- So does storing several values, whether all of them can be stored or not. -/
lemma Value.storeAll_keeps (table : Value) (pairs : List (Value × Value)) :
    heap.Keeps (storeAll heap table pairs).1 := by
  induction pairs generalizing heap with
  | nil => exact .refl heap
  | cons pair pairs ih =>
    have first := store_keeps heap table pair.1 pair.2 none
    unfold storeAll
    cases stored : store heap table pair.1 pair.2 none with
    | mk after fault =>
      rw [stored] at first
      cases fault with
      | none => exact first.trans (ih after)
      | some fault => exact first

/-- A table constructor makes a table and stores in it. -/
lemma Value.construct_keeps (fields values) : heap.Keeps (construct heap fields values).1 := by
  unfold construct
  dsimp only
  generalize pairs : (Field.split fields values).1 ++ _ = all
  have stored := (heap.newTable_keeps {}).trans
    (storeAll_keeps (heap.newTable {}).2 (.table (heap.newTable {}).1) all)
  split
  case h_1 e => rw [e] at stored; exact stored
  case h_2 e => rw [e] at stored; exact stored

/-- An assignment to one place keeps functions and count. -/
lemma Expr.Place.put_keeps (place : Place) (value) : heap.Keeps (place.put heap value).1 := by
  cases place with
  | cell address => exact ⟨rfl, rfl, Nat.le_refl _⟩
  | global name => exact heap.setGlobal_keeps name value
  | field object key naming => exact Value.store_keeps heap object key value naming

/-- So does an assignment to several places. -/
lemma Expr.putAll_keeps (places values) : heap.Keeps (putAll heap places values).1 := by
  induction places generalizing values with
  | nil => exact .refl heap
  | cons place places ih =>
    have others := ih values.tail
    unfold putAll
    split
    case h_1 e =>
      rw [e] at others
      exact others.trans (place.put_keeps _ _)
    case h_2 e => rw [e] at others; exact others

/-- An operation keeps functions and count; only a table constructor changes the heap. -/
lemma Expr.combine_keeps (env expr values) : heap.Keeps (combine heap env expr values).1 := by
  unfold combine
  split
  case h_8 => exact Value.construct_keeps heap _ _
  all_goals exact .refl heap

end

/-! ### Transitions -/

namespace Transition

/-- The events of a transition. -/
def events : Transition → List Event
  | .next _ events => events
  | .halt .. => []

/-- The heap after a transition. -/
def heap : Transition → Heap
  | .next machine _ => machine.heap
  | .halt heap _ => heap

/-- A transition from a heap that causes no events and keeps functions and count. -/
structure Quiet (transition : Transition) (heap : Heap) : Prop where
  silent : transition.events = []
  keeps : heap.Keeps transition.heap

/-- A quiet transition may begin later. -/
lemma Quiet.after {transition : Transition} {before after : Heap} (keeps : before.Keeps after)
    (quiet : transition.Quiet after) : transition.Quiet before :=
  ⟨quiet.silent, keeps.trans quiet.keeps⟩

end Transition

namespace Machine

variable (heap : Heap) (env : Env) (stack : List Pending)

/-- To go on is quiet. -/
@[simp] lemma continueWith_quiet (control : Control) :
    (continueWith heap control stack).Quiet heap :=
  ⟨rfl, .refl heap⟩

/-- To end is quiet. -/
@[simp] lemma halt_quiet (outcome : Outcome) : (Transition.halt heap outcome).Quiet heap :=
  ⟨rfl, .refl heap⟩

/-- The call of a closure declares its parameters. -/
@[simp] lemma enter_quiet (function code source outer arguments naming isTail callLine depth) :
    (enter heap function code source outer arguments naming isTail callLine depth stack).Quiet
      heap := by
  cases code
  exact ⟨rfl, heap.declare_keeps _ _ _⟩

/-- A call in place of the current function is one of a closure, or is put off. -/
@[simp] lemma applyLast_quiet (callee arguments site) :
    (applyLast heap callee arguments site env stack).Quiet heap := by
  unfold applyLast
  split
  case h_1 =>
    dsimp only
    split <;> simp
  case h_2 => exact continueWith_quiet heap _ _

/-- A turn of a loop declares its variables. -/
@[simp] lemma turn_quiet (body count values) : (turn heap body count values env stack).Quiet heap :=
  ⟨rfl, heap.declare_keeps _ _ _⟩

/-- To ask an iterator is to go on with a call. -/
@[simp] lemma iterate_quiet (iterator state control line) :
    (iterate heap iterator state control line stack).Quiet heap :=
  continueWith_quiet heap _ _

/-- The look-up of a method changes nothing. -/
@[simp] lemma invoke_quiet (object method arguments selfLine line isLast self) :
    (invoke heap object method arguments selfLine line isLast self env stack).Quiet heap := by
  unfold invoke
  split
  case h_1 => exact continueWith_quiet heap _ _
  case h_2 =>
    split
    case h_1 => split <;> simp
    case h_2 => exact continueWith_quiet heap _ _

/-! ### Values of operands -/

/-- To give an expression the values of its operands is quiet. -/
@[simp] lemma finishExpression_quiet (expr values) :
    (finishExpression heap expr values env stack).Quiet heap := by
  unfold finishExpression
  split
  case h_3 => exact invoke_quiet heap env stack _ _ _ _ _ _ _
  case h_4 =>
    have combined := Expr.combine_keeps heap env expr values
    split
    case h_1 e =>
      rw [e] at combined
      exact .after combined (continueWith_quiet _ _ _)
    case h_2 e =>
      rw [e] at combined
      exact .after combined (continueWith_quiet _ _ _)
  all_goals
    dsimp only
    split <;> simp

/-- To give a statement the values of its operands is quiet. -/
@[simp] lemma finishStatement_quiet (statement values) :
    (finishStatement heap statement values env stack).Quiet heap := by
  cases statement with
  | assign targets _ line =>
    have put :=
      Expr.putAll_keeps heap (Expr.places env targets values).1 (Expr.places env targets values).2
    unfold finishStatement
    dsimp only
    split
    case h_1 e =>
      rw [e] at put
      exact .after put (continueWith_quiet _ _ _)
    case h_2 e =>
      rw [e] at put
      exact .after put (continueWith_quiet _ _ _)
  | declare count _ =>
    unfold finishStatement
    dsimp only
    split
    case h_1 => exact .after (heap.declare_keeps _ _ _) (continueWith_quiet _ _ _)
    case h_2 => exact continueWith_quiet heap _ _
  | whileLoop condition body =>
    unfold finishStatement
    dsimp only
    split <;> simp
  | countLoop _ _ _ body line =>
    unfold finishStatement
    dsimp only
    split <;> simp
  | iterate count _ body line => exact iterate_quiet heap _ _ _ _ _
  | leaveInvoking object method arguments selfLine line =>
    exact invoke_quiet heap env stack _ _ _ _ _ _ _
  | _ => exact continueWith_quiet heap _ _

/-- Whatever needs the values of operands, to give them to it is quiet. -/
@[simp] lemma finish_quiet (purpose values) :
    (finish heap purpose values env stack).Quiet heap := by
  unfold finish
  split
  case h_5 =>
    split
    case h_1 => split <;> simp
    case h_2 => exact continueWith_quiet heap _ _
  all_goals simp

/-- So it is where operands may be left. -/
lemma gathered_quiet (done rest purpose) :
    (match gather heap done rest purpose env stack with
      | .ok transition => transition
      | .error values => finish heap purpose values env stack).Quiet heap := by
  cases rest with
  | nil => exact finish_quiet heap env stack purpose _
  | cons _ _ => exact continueWith_quiet heap _ _

/-- To start on operands is quiet. -/
@[simp] lemma start_quiet (operands purpose) : (start heap operands purpose env stack).Quiet heap :=
  gathered_quiet heap env stack [] operands purpose

/-! ### Steps -/

/-- To evaluate an expression is quiet, unless it is a function. -/
lemma evaluate_quiet {expr : Expr} (other : ∀ code, expr ≠ .lambda code) :
    (evaluate heap expr env stack).Quiet heap := by
  cases expr with
  | lambda code => exact absurd rfl (other code)
  | _ => simp [evaluate]

/-- To begin a statement is quiet. -/
@[simp] lemma execute_quiet (rest whole) : (execute heap rest whole env stack).Quiet heap := by
  unfold execute
  split
  case h_1 => exact continueWith_quiet heap _ _
  case h_2 =>
    dsimp only
    exact .after (heap.declare_keeps _ _ _) (continueWith_quiet _ _ _)
  case h_3 => split <;> simp

/-- To give values to a frame is quiet. -/
@[simp] lemma deliver_quiet (values) : (deliver heap values stack).Quiet heap := by
  unfold deliver
  split
  case h_2 done rest purpose env stack => exact gathered_quiet heap env stack _ rest purpose
  all_goals simp

/-- To go on after a statement is quiet. -/
@[simp] lemma proceed_quiet : (proceed heap stack).Quiet heap := by
  unfold proceed
  split
  case h_4 => split <;> simp
  case h_5 => split <;> simp
  all_goals simp

/-- To end a function is quiet. -/
@[simp] lemma leave_quiet (values) : (leave heap values stack).Quiet heap := by
  unfold leave
  split <;> simp

/-- To end a loop is quiet. -/
@[simp] lemma breakLoop_quiet : (breakLoop heap stack).Quiet heap := by
  unfold breakLoop
  split <;> simp

/-- To go to a label is quiet. -/
@[simp] lemma jump_quiet (label) : (jump heap label stack).Quiet heap := by
  unfold jump
  split
  case h_2 => split <;> simp
  all_goals simp

/-- The value of an error is at most a new error of the host. -/
lemma errorValue_keeps (cause levels) : heap.Keeps (errorValue heap cause levels).2 := by
  cases cause with
  | host error => exact ⟨rfl, rfl, Nat.le_refl _⟩
  | _ => exact .refl heap

/-- To raise an error is quiet, whether it is caught or not. -/
@[simp] lemma raise_quiet (fault line) : (raise heap fault line stack).Quiet heap := by
  unfold raise
  dsimp only
  split
  case h_1 => exact .after (errorValue_keeps heap _ _) (continueWith_quiet _ _ _)
  case h_2 => exact .after (errorValue_keeps heap _ _) (halt_quiet _ _)

/-- Whether what is done next is neither a call nor the making of a closure. -/
def isQuiet (machine : Machine) : Bool :=
  match machine.control with
  | .apply .. => false
  | .evaluate (.lambda _) _ => false
  | _ => true

/-- All other steps are quiet. -/
lemma step_quiet {machine : Machine} (calm : machine.isQuiet = true) :
    machine.step.Quiet machine.heap := by
  obtain ⟨heap, control, stack⟩ := machine
  cases control with
  | apply callee arguments site => cases calm
  | evaluate expr env =>
    refine evaluate_quiet heap env stack fun code => ?_
    rintro rfl
    cases calm
  | _ => simp [step]

end Machine

end LuaHost.Lua
