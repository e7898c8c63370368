import LuaHost.Proofs.Program.Session

/-!
# What a run of the program writes

If the configuration asks for it, every report is written as it is made, with one exception: what
the script's shutdown hook reports is written only if the script has loaded (`written_of_run`). A
script that fails halfway may have defined such a hook before.
-/

namespace LuaHost.CommandLine

/-- Up to any time before the host is stopped, and so at any time if that never happens, the reports
that the host has made are those that are written if the configuration asks for it. The report of
the stop comes after them. It is not written if the script has not loaded, so all are written if and
only if the script has loaded or there is none. The calls of hooks are supposed to return;
`Lua.Machine.runFrom` ends one that does not as a failure. -/
theorem written_of_run (M : Type) [HostModule M Engine] (files : FileTree)
    (configHome : Option String) (arguments : List String) (engine : Engine) (seconds : Nat → Float)
    (count : Nat) (read : String → Option HostConfig) :
    let config := (configure files configHome read).1
    let files' := (configure files configHome read).2
    let path := scriptPath config arguments
    let host : Host M := .create config engine
    let operations := playing M files' config engine path seconds count
    let past := played M files' config engine path seconds count
    let last := ((host.after operations).perform (.stop files')).report?
    let loads := (loadFailure? M files' config engine path).isNone
    let run := run M files configHome arguments engine seconds count read
    past.reports = host.reports operations ∧
      written past.output = (if config.diagnostics.json then past.reports else []) ∧
      run.reports = past.reports ++ last.toList ∧
      written run.output =
        (if config.diagnostics.json then past.reports ++ (if loads then last.toList else [])
        else []) ∧
      (config.diagnostics.json = true →
        (written run.output = run.reports ↔ loads = true ∨ last = none)) := by
  intro config files' path host operations past last loads run
  have plays : past.Plays host operations := played_plays M files' config engine path seconds count
  have configured : configure files configHome read = (config, files') := rfl
  obtain ⟨reports_eq, output_eq⟩ := run_eq M engine seconds count configured
  obtain ⟨stopped, written_eq⟩ := plays.stop files' loads
  have reports : run.reports = past.reports ++ last.toList := reports_eq.trans stopped
  have output : written run.output =
      if config.diagnostics.json then past.reports ++ (if loads then last.toList else []) else [] :=
    (congrArg written output_eq).trans written_eq
  refine ⟨plays.reports_eq, plays.written_eq, reports, output, ?_⟩
  intro json
  rw [output, reports, if_pos json, List.append_cancel_left_eq]
  cases loads with
  | false =>
    rw [if_neg Bool.false_ne_true, eq_comm, Option.toList_eq_nil_iff]
    exact (or_iff_right Bool.false_ne_true).symm
  | true => exact iff_of_true rfl (.inl rfl)

/-- A script that fails after it has defined a shutdown hook, which fails too. -/
def failingTwice : String :=
  "function on_shutdown()\n  error('late')\nend\nerror('early')\n"

/-- A tree with that script, and with a configuration that asks for reports. -/
def failingTwiceFiles : FileTree :=
  let settings := "[host]\nmax_ticks = 1\ntick_interval_ms = 1\n[diagnostics]\njson = true\n"
  let configured := ({} : FileTree).place (HostConfig.defaultPath "conf") (.file settings.toUTF8)
  configured.place "main.lua" (.file failingTwice.toUTF8)

set_option maxRecDepth 100000 in
/-- The failure of that hook is reported, but not written. -/
theorem written_of_run_unloaded :
    let run := run Empty failingTwiceFiles "conf" ["main.lua"] (.create 0) (fun _ => 0) 0
    (configure failingTwiceFiles "conf").1.diagnostics.json = true ∧
      run.reports.map Report.context = ["load", "on_shutdown"] ∧
      (written run.output).map Report.context = ["load"] := by
  decide +kernel

end LuaHost.CommandLine
