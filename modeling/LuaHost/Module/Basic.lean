import LuaHost.Event
import LuaHost.Script

/-!
# Modules

A module exposes functionality of the host to scripts. Its hooks are called in the stages of its
lifecycle; each of them may change the module and what the modules share, and may fail.
-/

namespace LuaHost

/-- Why a hook of a module fails. -/
inductive ModuleError where
  | failed (reason : String)
  | panicked (reason : String)
  | engine (error : EngineError)
  | lua (error : Lua.Error)
  deriving DecidableEq, Repr

/-- The text of a module error. -/
def ModuleError.text : ModuleError → String
  | .failed reason => reason
  | .panicked reason => "panicked: " ++ reason
  | .engine error => "Runtime error: " ++ error.text
  | .lua error => "Lua error: " ++ error.text

/-- How a hook ends. A hook that panics may leave a message behind. -/
inductive HookOutcome where
  | succeeded
  | failed (error : ModuleError)
  | panicked (message : Option String)
  deriving DecidableEq, Repr

namespace HookOutcome

/-- What a panic without a message is reported as. -/
def unknownPanic : String := "unknown panic"

/-- The error of a hook that does not succeed. -/
def error? : HookOutcome → Option ModuleError
  | .succeeded => none
  | .failed error => some error
  | .panicked message => some (.panicked (message.getD unknownPanic))

end HookOutcome

/-- What a hook leads to: the module and what the modules share as they are afterwards, with the
events of the hook. -/
structure HookResult (M E : Type) where
  outcome : HookOutcome
  module : M
  shared : E
  events : List Event := []

/-- The type `M` is one of modules that share a value of type `E`. -/
class HostModule (M E : Type) where
  name : M → String
  /-- Modules with a lower priority come up first and are shut down last. -/
  priority : M → Int
  deprecated : M → Bool
  /-- The hook of the stage `initialization`. -/
  prepare : M → E → HookResult M E
  /-- The hook of the stage `binding`. -/
  bindApi : M → E → HookResult M E
  /-- The hook of the stage `shutdown`. -/
  shutDown : M → E → HookResult M E

namespace HostModule

/-- The priority of modules that do not choose one. -/
def defaultPriority : Int := 100

/-- Calls the hook of a stage. -/
def runHook {M E : Type} [HostModule M E] : Stage → M → E → HookResult M E
  | .initialization => prepare
  | .binding => bindApi
  | .shutdown => shutDown

end HostModule

/-- Where a module is in its lifecycle. -/
inductive ModuleState where
  | unregistered
  | registered
  | initialized
  | shutDown
  /-- The hook of a stage failed; no hook is called any more. -/
  | failed (stage : Stage)
  deriving DecidableEq, Repr

/-- Whether a module waits to come up. -/
def ModuleState.isPending : ModuleState → Bool
  | .registered => true
  | .shutDown => true
  | _ => false

end LuaHost
