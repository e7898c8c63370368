import LuaHost.Proofs.Host.Reports
import LuaHost.Proofs.Host.Sequence
import LuaHost.Proofs.Report.ShownLines

/-!
# The size of reports

The code of a report has no more lines than the window of the diagnostics that made it
(`diagnose_fits`). All diagnostics of a host have the window of its configuration, those of the
loaded script as well as those of a script that cannot be read, so this holds of every report that a
host ever returns (`reports_fit`).
-/

namespace LuaHost

/-- The code of a report has no more lines than a window: those before the failing one, itself and
those after it. -/
def Report.Fits (report : Report) (window : ContextWindow) : Prop :=
  ∀ shown, report.codeContext = some shown →
    shown.lines.length ≤ window.before.toNat + window.after.toNat + 1

namespace Diagnostics

variable (diagnostics : Diagnostics) (files : FileTree) (failure : Failure) (context : String)

/-- A diagnosis shows no more code than the window allows. -/
lemma diagnose_fits : (diagnostics.diagnose files failure context).1.Fits diagnostics.window := by
  intro shown here
  change (diagnostics.codeContext files (messageLine? failure.message)).1 = some shown at here
  unfold codeContext at here
  split at here
  case h_1 => cases here
  case h_2 =>
    obtain ⟨_, _, cut⟩ := Option.bind_eq_some_iff.mp here
    exact CodeContext.length_of_cut? cut

/-- Neither does the report that is made of it. -/
lemma report_fits : (diagnostics.report files failure context).1.Fits diagnostics.window :=
  diagnostics.diagnose_fits files failure context

end Diagnostics

namespace Host

variable {M : Type} {host : Host M} {report : Report}

/-- The report about a script that does not load fits the window of the configuration. -/
lemma loadScript_fits {files : FileTree} {path : String}
    (failed : (host.loadScript files path).1 = .error report) :
    report.Fits host.config.contextWindow := by
  obtain ⟨diagnostics, failure, _, window, rfl, _⟩ := host.loadScript_error files failed
  rw [← window]
  exact diagnostics.report_fits files failure loadContext

/-- So does the report about a hook, made by the diagnostics of the loaded script. -/
lemma Framed.callHook_fits (framed : host.Framed) {files : FileTree} {name : String}
    {arguments : List Lua.Value} (failed : (host.callHook files name arguments).1 = .error report) :
    report.Fits host.config.contextWindow := by
  obtain ⟨loaded, failure, here, rfl, _⟩ := host.callHook_error files failed
  rw [← framed loaded here]
  exact loaded.diagnostics.report_fits files failure name

variable [HostModule M Engine]

/-- So does whatever an operation reports. -/
lemma Framed.perform_fits (framed : host.Framed) {operation : HostOperation M}
    (failed : (host.perform operation).report? = some report) :
    report.Fits host.config.contextWindow := by
  cases operation with
  | loadScript files path => exact loadScript_fits (report?_eq_some.mp failed)
  | tick files seconds =>
    have ticked : Framed { host with ticks := host.ticks + 1 } := framed
    exact ticked.callHook_fits (report?_eq_some.mp failed)
  | callHook files name arguments => exact framed.callHook_fits (report?_eq_some.mp failed)
  | stop files => exact framed.callHook_fits (report?_eq_some.mp failed)
  | _ => cases failed

/-- Every report of a host fits the window of its configuration. -/
lemma Framed.reports_fit (framed : host.Framed) {operations : List (HostOperation M)}
    (mem : report ∈ host.reports operations) : report.Fits host.config.contextWindow := by
  induction operations generalizing host with
  | nil => cases mem
  | cons operation rest ih =>
    obtain now | later := List.mem_append.mp mem
    · exact framed.perform_fits (Option.mem_toList.mp now)
    · have follows := host.perform_follows operation
      have fits := ih (follows.framed framed) later
      rw [follows.config_eq] at fits
      exact fits

end Host

end LuaHost
