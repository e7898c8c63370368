import LuaHost.Proofs.Lua.Quiet

/-!
# What scripts say

Running a script causes no events but its own: the lines that it prints and the entries that it
logs. Only a call of a native function causes any (`apply_spoken`, `Native.run_spoken`), so all that
one step causes is spoken by the script (`step_spoken`), and all that a run causes (`call_spoken`).
-/

namespace LuaHost

/-- What a script says: it prints a line, or logs an entry in the name of a source. -/
inductive Event.Spoken : Event → Prop where
  | printed line : Spoken (.printed line)
  | logged level message target : Spoken (log level message [("source", target)])

namespace Lua

/-- A script says what it logs. -/
lemma Native.logMessage_spoken {target : String} {call : Call} {event : Event}
    (logged : logMessage target call = .ok event) : event.Spoken := by
  unfold logMessage at logged
  cases level : call.hostText 0 with
  | error _ =>
    rw [level] at logged
    cases logged
  | ok level' =>
    cases message : call.hostText 1 with
    | error _ =>
      rw [level, message] at logged
      cases logged
    | ok message' =>
      rw [level, message] at logged
      dsimp only [bind, Except.bind] at logged
      split at logged
      case h_1 =>
        cases logged
        exact .logged _ _ _
      case h_2 => cases logged

/-- A native function causes no other events. -/
lemma Native.run_spoken (native : Native) (call : Call) :
    ∀ event ∈ (native.run call).2.1, event.Spoken := by
  cases native with
  | print =>
    intro event mem
    rw [List.mem_singleton.mp mem]
    exact .printed _
  | log target =>
    cases logged : logMessage target call with
    | ok event =>
      simp only [run, logged, List.mem_singleton, forall_eq]
      exact logMessage_spoken logged
    | error cause =>
      simp only [run, logged]
      exact nofun
  | _ => exact nofun

/-- A quiet transition says nothing. -/
lemma Transition.Quiet.spoken {transition : Transition} {heap : Heap}
    (quiet : transition.Quiet heap) : ∀ event ∈ transition.events, event.Spoken := by
  rw [quiet.silent]
  exact nofun

namespace Machine

/-- A call causes the events of the native function that is called, if it is one. -/
lemma apply_spoken (heap : Heap) (stack : List Pending) (callee arguments site) :
    ∀ event ∈ (apply heap callee arguments site stack).events, event.Spoken := by
  unfold apply
  split
  case h_1 address =>
    split
    case h_1 =>
      dsimp only
      split
      case isTrue => exact (continueWith_quiet heap _ _).spoken
      case isFalse => exact (enter_quiet heap _ _ _ _ _ _ _ _ _ _).spoken
    case h_2 native _ =>
      split
      case h_1 => exact nofun
      case h_2 =>
        have spoken := native.run_spoken { heap, level := callLevel address site, arguments }
        dsimp only
        split <;> exact spoken
    case h_3 => exact nofun
  case h_2 => exact nofun

/-- A step says something only if it is a call. -/
lemma step_spoken (machine : Machine) : ∀ event ∈ machine.step.events, event.Spoken := by
  obtain ⟨heap, control, stack⟩ := machine
  cases control with
  | apply callee arguments site => exact apply_spoken heap stack callee arguments site
  | evaluate expr env =>
    cases expr with
    | lambda code => exact nofun
    | _ => exact (step_quiet rfl).spoken
  | _ => exact (step_quiet rfl).spoken

/-- A run says what its steps say. -/
lemma runFrom_spoken (machine : Machine) {past : List Event} (fuel : Nat)
    (before : ∀ event ∈ past, event.Spoken) :
    ∀ event ∈ (runFrom machine past fuel).events, event.Spoken := by
  induction fuel generalizing machine past with
  | zero =>
    intro event mem
    exact before event (List.mem_reverse.mp mem)
  | succ fuel ih =>
    have now := step_spoken machine
    unfold runFrom
    cases stepped : machine.step with
    | next after events =>
      rw [stepped] at now
      refine ih after fun event mem => ?_
      obtain new | old := List.mem_append.mp mem
      · exact now event (List.mem_reverse.mp new)
      · exact before event old
    | halt _ _ =>
      intro event mem
      exact before event (List.mem_reverse.mp mem)

/-- Whatever is called, only scripts say something. -/
lemma call_spoken (heap : Heap) (callee : Value) (arguments : List Value) :
    ∀ event ∈ (call heap callee arguments).events, event.Spoken :=
  runFrom_spoken _ stepLimit nofun

end Machine

end Lua

end LuaHost
