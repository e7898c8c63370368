import LuaHost.Proofs.Failure.Position
import LuaHost.Report.Diagnostics

/-!
# The line of a call

A host function that fails with a plain message is reported with the line of the script that called
it. The main statement is `diagnose_ofError`: from an error that went through callbacks, over the
choice of its stack and the decoration of its message, to the line and the message of the report.
-/

namespace LuaHost

open LuaHost.Text

namespace Diagnostics

variable (diagnostics : Diagnostics) (files : FileTree) (failure : Failure) (context : String)

/-- The line of a report is that of the message. -/
lemma diagnose_line :
    (diagnostics.diagnose files failure context).1.line = messageLine? failure.message := rfl

/-- Its message is that of the failure. -/
lemma diagnose_message :
    (diagnostics.diagnose files failure context).1.message = failure.message := rfl

end Diagnostics

namespace Failure

/-- An error that went through callbacks, and whose own message has no position, is reported at the
first location in a script that its stack names, if the source there has no colon. If no location is
in a script, its message is left alone and the report has no line. -/
theorem diagnose_ofError (error : Lua.Error) (called : error.tracebacks ≠ [])
    (unpositioned : ∀ line, ¬ Positioned (ofError error.leaf).message line) :
    let failure := ofError error
    let message := (ofError error.leaf).message
    (∀ source line, (Location.mk source (some line)).FirstIn failure.frames → ':' ∉ source.toList →
      messageLine? failure.message = some line ∧
      ∀ (diagnostics : Diagnostics) files context,
        let report := (diagnostics.diagnose files failure context).1
        report.line = some line ∧
          report.message = source ++ ":" ++ String.ofList (digits line.toNat) ++ ": " ++ message) ∧
    ((∀ location ∈ failure.frames.filterMap Frame.location, ¬ location.Scripted) →
      failure.message = message ∧
      ∀ (diagnostics : Diagnostics) files context,
        (diagnostics.diagnose files failure context).1.line = none) := by
  intro failure message
  constructor
  · intro source line first free
    have e : failure.message = (Location.mk source (some line)).text ++ ": " ++ message :=
      ofError_message_of_caller called (callerLocation?_eq_some_iff.mpr first) unpositioned free
    have found : messageLine? failure.message = some line := by
      rw [messageLine?_eq_some_iff, e]
      exact positioned_text free line message
    refine ⟨found, fun diagnostics files context => ⟨found, ?_⟩⟩
    have text : (Location.mk source (some line)).text =
        source ++ ":" ++ String.ofList (digits line.toNat) := by
      rw [← String.toList_inj]
      simp [Location.text]
    rw [Diagnostics.diagnose_message, e, text]
  · intro unscripted
    have e : failure.message = message :=
      ofError_message_of_none (callerLocation?_eq_none unscripted)
    refine ⟨e, fun diagnostics files context => ?_⟩
    rw [Diagnostics.diagnose_line, e, Option.eq_none_iff_forall_ne_some]
    exact fun line found => unpositioned line (messageLine?_eq_some_iff.mp found)

/-- A callback fails without a stack of its own, and another one, which knows its caller, fails with
it. -/
def shortage : Lua.Error :=
  .context "while reloading"
    (.callback "stack traceback:\n\t[C]: in function 'pcall'\n\tmain.lua:9: in main chunk"
      (.context "while buying" (.callback "stack traceback:" (.external "out of gold: 3"))))

/-- It is reported at the line of the outer call. -/
theorem diagnose_ofError_shortage :
    shortage.tracebacks ≠ [] ∧ (∀ line, ¬ Positioned (ofError shortage.leaf).message line) ∧
    (Location.mk "main.lua" (some 9)).FirstIn (ofError shortage).frames ∧ ':' ∉ "main.lua".toList ∧
    messageLine? (ofError shortage).message = some 9 ∧
    ∀ (diagnostics : Diagnostics) files context,
      let report := (diagnostics.diagnose files (ofError shortage) context).1
      report.line = some 9 ∧ report.message = "main.lua:9: out of gold: 3" := by
  have called : shortage.tracebacks ≠ [] := nofun
  have unpositioned : ∀ line, ¬ Positioned (ofError shortage.leaf).message line := by
    rw [← not_exists, ← isDecorated_iff]
    decide
  have first : (Location.mk "main.lua" (some 9)).FirstIn (ofError shortage).frames :=
    callerLocation?_eq_some_iff.mp (by decide)
  have free : ':' ∉ "main.lua".toList := by decide
  obtain ⟨found, reported⟩ :=
    (diagnose_ofError shortage called unpositioned).1 "main.lua" 9 first free
  exact ⟨called, unpositioned, first, free, found, reported⟩

end Failure

end LuaHost
