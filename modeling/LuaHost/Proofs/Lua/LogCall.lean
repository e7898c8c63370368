import LuaHost.Proofs.Lua.Natives
import LuaHost.Proofs.Lua.Speech

/-!
# Calls of functions that log

A machine that is about to call a function of the host that logs is in a `LogCall`. How it ends is
told by its arguments (`LogCall.step_of_entry`, `LogCall.step_of_none`): a level by its name and a
message are logged, and the message is counted; anything else is raised as an error and changes
nothing. What a run logs and counts are the calls that it comes by (`runFrom_logs`).
-/

namespace LuaHost

/-- A level goes by one name. -/
lemma Level.ofName?_eq_some_iff {name : String} {level : Level} :
    Level.ofName? name = some level ↔ name = level.name := by
  constructor
  · intro found
    have named := List.find?_some found
    exact (eq_of_beq named).symm
  · rintro rfl
    cases level <;> rfl

namespace Lua

/-! ### Calls -/

/-- A call of a function that logs is about to happen. -/
structure LogCall where
  heap : Heap
  address : Nat
  target : String
  arguments : List Value
  site : Site
  stack : List Pending
  bound : heap.callable? address = some (.native (.log target))

namespace LogCall

/-- The machine that is about to do the call. -/
def machine (call : LogCall) : Machine :=
  { heap := call.heap, control := .apply (.function call.address) call.arguments call.site,
    stack := call.stack }

/-- The text that an argument is taken for. -/
def text? (call : LogCall) (index : Nat) : Option String :=
  (call.arguments.getD index .nil).toText?

/-- What is logged: a message at a level, in the name of the target. -/
def logged? (call : LogCall) : Option LogEntry := do
  let level ← Level.ofName? (← call.text? 0)
  let message ← call.text? 1
  return { level, message, fields := [("source", call.target)] }

/-- The next step ends the call without an error. -/
def returned (call : LogCall) : Bool :=
  match call.machine.step with
  | .next { control := .deliver _, .. } _ => true
  | _ => false

variable (call : LogCall)

/-- What is logged needs the name of a level and a message. -/
lemma logged?_eq_some_iff {entry : LogEntry} :
    call.logged? = some entry ↔
      ∃ level message, call.text? 0 = some (Level.name level) ∧ call.text? 1 = some message ∧
        entry = { level, message, fields := [("source", call.target)] } := by
  simp only [logged?, Option.bind_eq_bind, Option.bind_eq_some_iff, Level.ofName?_eq_some_iff,
    Option.pure_def, Option.some.injEq]
  constructor
  · rintro ⟨_, name, level, rfl, message, text, rfl⟩
    exact ⟨level, message, name, text, rfl⟩
  · rintro ⟨level, message, name, text, rfl⟩
    exact ⟨_, name, level, rfl, message, text, rfl⟩

/-- The call as the native function sees it. -/
def native : Native.Call :=
  { heap := call.heap, level := Machine.callLevel call.address call.site,
    arguments := call.arguments }

/-- The next step is the native function: it counts and returns, or raises its error. -/
lemma step_eq :
    call.machine.step =
      match Native.logMessage call.target call.native with
      | .ok event =>
        let counted := { call.heap with logged := call.heap.logged + 1 }
        .next { heap := counted, control := .deliver [], stack := call.stack } [event]
      | .error cause =>
        let fault := { cause, above := [Machine.callLevel call.address call.site] }
        .next { call.machine with control := .raise fault call.site.line } [] := by
  cases logged : Native.logMessage call.target call.native with
  | ok event =>
    rw [native] at logged
    simp only [machine, Machine.step, Machine.apply, call.bound, Native.run, logged]
  | error cause =>
    rw [native] at logged
    simp only [machine, Machine.step, Machine.apply, call.bound, Native.run, logged]

/-- The native function takes its arguments for the same texts. -/
lemma hostText_eq_ok_iff {index : Nat} {text : String} :
    call.native.hostText index = .ok text ↔ call.text? index = some text := by
  have same : (call.native.argument index).toText? = call.text? index := rfl
  unfold Native.Call.hostText
  rw [same]
  cases call.text? index with
  | none => exact ⟨nofun, nofun⟩
  | some other => rw [Except.ok.injEq, Option.some.injEq]

/-- What is logged is what the arguments tell. -/
lemma logMessage_eq_ok_iff {event : Event} :
    Native.logMessage call.target call.native = .ok event ↔
      ∃ entry, call.logged? = some entry ∧ event = .logged entry := by
  unfold Native.logMessage
  constructor
  · intro done
    cases first : call.native.hostText 0 with
    | error _ =>
      rw [first] at done
      cases done
    | ok name =>
      cases second : call.native.hostText 1 with
      | error _ =>
        rw [first, second] at done
        cases done
      | ok message =>
        rw [first, second] at done
        rw [hostText_eq_ok_iff] at first second
        dsimp only [bind, Except.bind] at done
        split at done
        case h_1 level found =>
          cases done
          rw [Level.ofName?_eq_some_iff.mp found] at first
          exact ⟨_, call.logged?_eq_some_iff.mpr ⟨level, message, first, second, rfl⟩, rfl⟩
        case h_2 => cases done
  · rintro ⟨entry, found, rfl⟩
    obtain ⟨level, message, first, second, rfl⟩ := call.logged?_eq_some_iff.mp found
    rw [call.hostText_eq_ok_iff.mpr first, call.hostText_eq_ok_iff.mpr second]
    dsimp only [bind, Except.bind]
    rw [Level.ofName?_eq_some_iff.mpr rfl]
    rfl

/-- A call that logs is counted and returns. -/
lemma step_of_entry {entry : LogEntry} (found : call.logged? = some entry) :
    call.machine.step = .next
      { heap := { call.heap with logged := call.heap.logged + 1 }
        control := .deliver []
        stack := call.stack }
      [.logged entry] := by
  rw [step_eq, call.logMessage_eq_ok_iff.mpr ⟨entry, found, rfl⟩]

/-- A call that does not log raises an error, and that is all. -/
lemma step_of_none (refused : call.logged? = none) :
    ∃ fault line,
      call.machine.step = .next { call.machine with control := .raise fault line } [] := by
  rw [step_eq]
  cases logged : Native.logMessage call.target call.native with
  | ok event =>
    obtain ⟨entry, found, -⟩ := call.logMessage_eq_ok_iff.mp logged
    rw [refused] at found
    cases found
  | error cause => exact ⟨_, _, rfl⟩

/-- A call returns if and only if it logs. -/
lemma returned_eq : call.returned = call.logged?.isSome := by
  unfold returned
  cases found : call.logged? with
  | none =>
    obtain ⟨fault, line, stepped⟩ := call.step_of_none found
    rw [stepped]
    rfl
  | some entry =>
    rw [call.step_of_entry found]
    rfl

/-- So it returns if it names a level and has a message, and only then. -/
lemma returned_iff :
    call.returned = true ↔
      ∃ level message, call.text? 0 = some (Level.name level) ∧ call.text? 1 = some message := by
  rw [call.returned_eq, Option.isSome_iff_exists]
  constructor
  · rintro ⟨entry, found⟩
    obtain ⟨level, message, name, text, -⟩ := call.logged?_eq_some_iff.mp found
    exact ⟨level, message, name, text⟩
  · rintro ⟨level, message, name, text⟩
    exact ⟨_, call.logged?_eq_some_iff.mpr ⟨level, message, name, text, rfl⟩⟩

/-- A call that does not return raises an error, and nothing else happens. -/
lemma step_of_not_returned (refused : call.returned = false) :
    ∃ fault line,
      call.machine.step = .next { call.machine with control := .raise fault line } [] := by
  rw [call.returned_eq, Option.isSome_eq_false_iff, Option.isNone_iff_eq_none] at refused
  exact call.step_of_none refused

end LogCall

/-! ### Steps -/

/-- From one heap to another some calls were done: each one that returned has been counted and has
logged its entry, and nothing else has been logged. No native functions were made. -/
structure Logs (calls : List LogCall) (before after : Heap) (events : List Event) : Prop where
  grows : before.Grows [] after
  counted : after.logged = before.logged + (calls.filter LogCall.returned).length
  entries : events.filterMap Event.logEntry? = calls.filterMap LogCall.logged?

namespace Logs

variable {calls more : List LogCall} {before after last : Heap} {events others : List Event}

/-- Where functions and count are kept and nothing is logged, no such call was done. -/
lemma of_keeps (keeps : before.Keeps after) : Logs [] before after [] :=
  ⟨.of_keeps keeps, keeps.logged, rfl⟩

/-- A quiet step does no such call. -/
lemma of_quiet {transition : Transition} (quiet : transition.Quiet before) :
    Logs [] before transition.heap transition.events := by
  rw [quiet.silent]
  exact .of_keeps quiet.keeps

/-- Some calls are done, and then others. -/
lemma trans (first : Logs calls before after events) (second : Logs more after last others) :
    Logs (calls ++ more) before last (events ++ others) where
  grows := first.grows.trans second.grows
  counted := by
    rw [second.counted, first.counted, List.filter_append, List.length_append, Nat.add_assoc]
  entries := by
    rw [List.filterMap_append, List.filterMap_append, first.entries, second.entries]

end Logs

/-- A call is counted and logged if it returns. -/
lemma LogCall.step_logs (call : LogCall) :
    Logs [call] call.heap call.machine.step.heap call.machine.step.events := by
  cases found : call.logged? with
  | none =>
    obtain ⟨fault, line, stepped⟩ := call.step_of_none found
    have counted : [call].filter returned = [] := by simp [call.returned_eq, found]
    have entries : [call].filterMap logged? = [] := by simp [found]
    rw [stepped]
    exact ⟨.of_functions rfl (Nat.le_refl _), by rw [counted]; rfl, by rw [entries]; rfl⟩
  | some entry =>
    have counted : [call].filter returned = [call] := by simp [call.returned_eq, found]
    have entries : [call].filterMap logged? = [entry] := by simp [found]
    rw [call.step_of_entry found]
    exact ⟨.of_functions rfl (Nat.le_refl _), by rw [counted]; rfl, by rw [entries]; rfl⟩

namespace Machine

/-- The call that a machine is about to do, if it is one of a function that logs. -/
def logCall? (machine : Machine) : Option LogCall :=
  match machine with
  | { heap, control := .apply (.function address) arguments site, stack } =>
    match bound : heap.callable? address with
    | some (.native (.log target)) => some { heap, address, target, arguments, site, stack, bound }
    | _ => none
  | _ => none

/-- The machine is the one of the call that it is about to do. -/
lemma eq_of_logCall? {machine : Machine} {call : LogCall} (found : machine.logCall? = some call) :
    machine = call.machine := by
  unfold logCall? at found
  split at found
  case h_1 =>
    split at found
    case h_1 =>
      cases found
      rfl
    case h_2 => cases found
  case h_2 => cases found

/-- That machine is about to do the call. -/
lemma logCall?_machine (call : LogCall) : call.machine.logCall? = some call := by
  obtain ⟨heap, address, target, arguments, site, stack, bound⟩ := call
  unfold logCall?
  split
  case h_1 e =>
    cases e
    split
    case h_1 target' bound' =>
      cases bound.symm.trans bound'
      rfl
    case h_2 other => exact absurd bound (other target)
  case h_2 other => exact absurd rfl (other heap address arguments site stack)

/-- Native functions that do not log leave the heap alone. -/
lemma run_of_ne {native : Native} (other : ∀ target, native ≠ .log target) (call : Native.Call) :
    call.heap.Keeps (native.run call).1 ∧ (native.run call).2.1.filterMap Event.logEntry? = [] := by
  cases native with
  | log target => exact absurd rfl (other target)
  | _ => exact ⟨.refl call.heap, rfl⟩

/-- A call of something else logs nothing. -/
lemma apply_logs {heap : Heap} {callee : Value} {arguments : List Value} {site : Site}
    {stack : List Pending}
    (other : logCall? { heap, control := .apply callee arguments site, stack } = none) :
    Logs [] heap (apply heap callee arguments site stack).heap
      (apply heap callee arguments site stack).events := by
  unfold apply
  split
  case h_1 address =>
    split
    case h_1 =>
      dsimp only
      split
      case isTrue => exact .of_quiet (continueWith_quiet heap _ _)
      case isFalse => exact .of_quiet (enter_quiet heap _ _ _ _ _ _ _ _ _ _)
    case h_2 native bound =>
      have unlogged : ∀ target, native ≠ .log target := by
        rintro target rfl
        have call := logCall?_machine { heap, address, target, arguments, site, stack, bound }
        rw [LogCall.machine, other] at call
        cases call
      split
      case h_1 => exact .of_quiet (continueWith_quiet heap _ _)
      case h_2 =>
        obtain ⟨keeps, silent⟩ := run_of_ne unlogged
          { heap, level := callLevel address site, arguments }
        dsimp only
        split
        all_goals exact ⟨.of_keeps keeps, keeps.logged, silent⟩
    case h_3 => exact .of_quiet (continueWith_quiet heap _ _)
  case h_2 => exact .of_quiet (continueWith_quiet heap _ _)

/-- A step does at most one call of a function that logs. -/
lemma step_logs (machine : Machine) :
    Logs machine.logCall?.toList machine.heap machine.step.heap machine.step.events := by
  cases found : machine.logCall? with
  | some call =>
    obtain rfl := eq_of_logCall? found
    exact call.step_logs
  | none =>
    obtain ⟨heap, control, stack⟩ := machine
    cases control with
    | apply callee arguments site => exact apply_logs found
    | evaluate expr env =>
      cases expr with
      | lambda code => exact ⟨.newClosure heap code _ _, rfl, rfl⟩
      | _ => exact .of_quiet (step_quiet rfl)
    | _ => exact .of_quiet (step_quiet rfl)

/-! ### Runs -/

/-- The calls of functions that log which a run of at most `fuel` steps comes by, in their order. -/
def logCalls (machine : Machine) : Nat → List LogCall
  | 0 => []
  | fuel + 1 =>
    machine.logCall?.toList ++
      match machine.step with
      | .next after _ => logCalls after fuel
      | .halt .. => []

/-- There are not more of them than steps. -/
lemma length_logCalls_le (machine : Machine) (fuel : Nat) :
    (machine.logCalls fuel).length ≤ fuel := by
  induction fuel generalizing machine with
  | zero => exact Nat.le_refl _
  | succ fuel ih =>
    have now : machine.logCall?.toList.length ≤ 1 := Option.length_toList_le
    have later : (match machine.step with
        | .next after _ => logCalls after fuel
        | .halt .. => []).length ≤ fuel := by
      split
      case h_1 after _ _ => exact ih after
      case h_2 => exact Nat.zero_le _
    rw [logCalls, List.length_append]
    omega

/-- A run logs and counts the calls that it comes by. -/
lemma runFrom_logs (machine : Machine) (past : List Event) (fuel : Nat) :
    ∃ events, (runFrom machine past fuel).events = past.reverse ++ events ∧
      Logs (machine.logCalls fuel) machine.heap (runFrom machine past fuel).heap events := by
  induction fuel generalizing machine past with
  | zero => exact ⟨[], (List.append_nil _).symm, .of_keeps (.refl _)⟩
  | succ fuel ih =>
    have now := machine.step_logs
    unfold runFrom logCalls
    cases stepped : machine.step with
    | next after events =>
      rw [stepped] at now
      obtain ⟨more, e, rest⟩ := ih after (events.reverse ++ past)
      refine ⟨events ++ more, ?_, now.trans rest⟩
      rw [e, List.reverse_append, List.reverse_reverse, List.append_assoc]
    | halt heap outcome =>
      rw [stepped] at now
      refine ⟨[], (List.append_nil _).symm, ?_⟩
      rw [List.append_nil]
      exact now

/-- What a call finds among the native functions was there when the run began. -/
lemma grows_of_mem_logCalls {machine : Machine} {fuel : Nat} {call : LogCall}
    (mem : call ∈ machine.logCalls fuel) :
    machine.heap.Grows [] call.heap := by
  induction fuel generalizing machine with
  | zero => cases mem
  | succ fuel ih =>
    have now := machine.step_logs
    unfold logCalls at mem
    obtain mem | mem := List.mem_append.mp mem
    · rw [eq_of_logCall? (Option.mem_toList.mp mem)]
      exact .of_keeps (.refl _)
    · cases stepped : machine.step with
      | next after events =>
        rw [stepped] at now mem
        exact now.grows.trans (ih mem)
      | halt heap outcome =>
        rw [stepped] at mem
        cases mem

end Machine

end Lua

end LuaHost
