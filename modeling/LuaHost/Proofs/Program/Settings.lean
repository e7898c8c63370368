import LuaHost.Proofs.Config.File
import LuaHost.Proofs.Host.Window
import LuaHost.Proofs.Program.Session

/-!
# What a run may rely on

Whatever the configuration file holds, the program goes on with settings that passed their checks,
and so all that the checks promise is true of the whole run: time passes between two ticks, and
reports are short (`settings_of_run`).
-/

namespace LuaHost

namespace CommandLine

/-- The configuration of a run is the one of the file if there is one that passes the checks, and
the default one otherwise. So it passes them in any case. A file that was there before is left as it
was, and it is the one that counts. Whatever is done to the host, its interval of ticks is not zero,
and its reports, those of the run among them, show at most as much code as the configuration
allows. -/
theorem settings_of_run (M : Type) [HostModule M Engine] (files : FileTree)
    (configHome : Option String) (arguments : List String) (engine : Engine) (seconds : Nat → Float)
    (count : Nat) (read : String → Option HostConfig) :
    let loaded := HostConfig.loadDefault files configHome read
    let config := (configure files configHome read).1
    let window := config.contextWindow
    let host : Host M := .create config engine
    let run := run M files configHome arguments engine seconds count read
    (∀ found, loaded.1 = .ok found ↔
        ∃ home text, configHome = some home ∧
          loaded.2.1.readText (HostConfig.defaultPath home) = .ok text ∧
          read text = some found ∧ found.fault? = none) ∧
      (∀ home, configHome = some home → files.pathExists (HostConfig.defaultPath home) = true →
        loaded.2.1 = files) ∧
      (∀ home text found, configHome = some home →
        files.readText (HostConfig.defaultPath home) = .ok text → read text = some found →
        found.fault? = none → loaded.1 = .ok found) ∧
      (∀ found, loaded.1 = .ok found → config = found) ∧
      (∀ error, loaded.1 = .error error → config = {}) ∧
      config.fault? = none ∧
      window.before.toNat + window.after.toNat + 1 ≤ 101 ∧
      (∀ operations, (Host.run config engine operations : Host M).config.host.tickIntervalMs ≠ 0 ∧
        ∀ report ∈ host.reports operations, report.Fits window) ∧
      ∀ report ∈ run.reports, report.Fits window := by
  have ranged : (configure files configHome read).1.InRange := HostConfig.configure_inRange
  have framed : (Host.create (configure files configHome read).1 engine : Host M).Framed := nofun
  refine ⟨?_, ?_, ?_, ?_, ?_, HostConfig.fault?_eq_none_iff.mpr ranged, ranged.window_le, ?_, ?_⟩
  · intro found
    rw [HostConfig.fault?_eq_none_iff]
    exact HostConfig.loadDefault_eq_ok
  · rintro home rfl there
    rw [HostConfig.loadDefault_of_exists there]
  · rintro home text found rfl there e passed
    exact HostConfig.loadDefault_of_readText there e (HostConfig.fault?_eq_none_iff.mp passed)
  · intro found e
    rw [HostConfig.configure_of_ok e]
  · intro error e
    rw [HostConfig.configure_of_error e]
  · intro operations
    rw [Host.run_eq_after, Host.after_config]
    exact ⟨ranged.interval, fun _ => framed.reports_fit⟩
  · intro report mem
    rw [run_reports M engine seconds count rfl] at mem
    exact framed.reports_fit mem

end CommandLine

end LuaHost
