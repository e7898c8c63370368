import LuaHost.Failure.Basic
import LuaHost.Report.Basic
import LuaHost.Report.Source
import LuaHost.Script

/-!
# Diagnostics

Making a report from a failure of one script. The script's name and path are given up front; its
text is read again for the code around the failing line.
-/

namespace LuaHost

/-- What is needed to report failures of a script. -/
structure Diagnostics where
  script : String
  path : String
  window : ContextWindow := {}
  provider : SourceProvider := .files
  deriving DecidableEq, Repr

namespace Diagnostics

/-- Diagnostics for a script that was read from a file. -/
def forScript (script : Script) : Diagnostics :=
  { script := script.name, path := script.path }

/-- The code around a line of the script. -/
def codeContext (diagnostics : Diagnostics) (files : FileTree) (line : Option UInt32) :
    Option CodeContext × List Event :=
  match line with
  | none => (none, [])
  | some line =>
    let (text, events) := diagnostics.provider.read files diagnostics.path
    (text.bind fun text => CodeContext.cut? text line diagnostics.window, events)

/-- The report on a failure. -/
def diagnose (diagnostics : Diagnostics) (files : FileTree) (failure : Failure) (context : String) :
    Report × List Event :=
  let line := messageLine? failure.message
  let (codeContext, events) := diagnostics.codeContext files line
  let hints := HintBlock.forMessage failure.message
  let report : Report :=
    { script := diagnostics.script
      path := diagnostics.path
      context
      message := failure.message
      line
      codeContext
      stack := .reconstruct failure.frames line diagnostics.script
      hints }
  (report, events ++ hints.filterMap HintBlock.event?)

/-- A line number in a log field. -/
def lineField : Option UInt32 → String
  | some line => "Some(" ++ String.ofList (Text.digits line.toNat) ++ ")"
  | none => "None"

/-- The error entry that logs a report. -/
def reportEvent (report : Report) : Event :=
  log .error report.text
    [("script", report.script), ("context", report.context), ("line", lineField report.line)]

/-- The report on a failure, logged. -/
def report (diagnostics : Diagnostics) (files : FileTree) (failure : Failure) (context : String) :
    Report × List Event :=
  let (report, events) := diagnostics.diagnose files failure context
  (report, events ++ [reportEvent report])

end Diagnostics

end LuaHost
