import LuaHost.Proofs.Host.Run
import LuaHost.Proofs.Report.Log

/-!
# Reports of a host

Every failure of a script comes back as a report, and each report is logged once
(`perform_loggedOnce`), though the script may have logged anything before it failed. A report from a
hook is about the loaded script (`perform_report`). The main statement is `scripts_of_run`: what a
host knows of its script after any run, and what it then tells of failures.
-/

namespace LuaHost

namespace Engine

variable (engine : Engine)

/-- Loading a script logs no errors but those of the script. -/
lemma load_said (script : Script) :
    ∀ event ∈ (engine.load script).events, ∀ text, event.Tells text → event.Spoken := by
  have start : ∀ text, ¬ (log .debug "Loading script" [("script", script.name)]).Tells text :=
    fun text => not_tells_log (by decide) text _ _
  unfold load
  dsimp only
  split
  case h_1 =>
    intro event mem text tells
    rw [List.mem_singleton.mp mem] at tells
    exact absurd tells (start text)
  case h_2 function heap _ =>
    intro event mem text tells
    obtain rfl | ran := List.mem_cons.mp mem
    · exact absurd tells (start text)
    · exact Lua.Machine.call_spoken heap _ _ event ran

/-- Calling a hook logs nothing but what the script does. -/
lemma callHook_said (name : String) (arguments : List Lua.Value) :
    ∀ event ∈ (engine.callHook name arguments).events, event.Spoken := by
  unfold callHook
  split
  case isTrue => exact Lua.Machine.call_spoken engine.heap _ _
  case isFalse => exact nofun

end Engine

namespace Host

variable {M : Type} (host : Host M) (files : FileTree)

/-- A script that fails to load is reported with the window of the configuration, after what it
said. -/
lemma loadScript_error {path : String} {report : Report}
    (failed : (host.loadScript files path).1 = .error report) :
    ∃ diagnostics failure spoken, diagnostics.window = host.config.contextWindow ∧
      (Diagnostics.report diagnostics files failure loadContext).1 = report ∧
      (host.loadScript files path).2.2 =
        spoken ++ (diagnostics.report files failure loadContext).2 ∧
      ∀ event ∈ spoken, ∀ text, event.Tells text → event.Spoken := by
  cases read : Script.read files path with
  | error reason =>
    simp only [loadScript, read] at failed ⊢
    cases failed
    exact ⟨_, _, [], rfl, rfl, rfl, List.forall_mem_nil _⟩
  | ok source =>
    cases ran : (host.engine.load source).result with
    | ok _ =>
      simp only [loadScript, read, ran] at failed
      cases failed
    | error failure =>
      simp only [loadScript, read, ran] at failed ⊢
      cases failed
      exact ⟨_, failure, _, rfl, rfl, rfl, host.engine.load_said source⟩

/-- A hook that fails is reported by the diagnostics of the loaded script, after what it said. -/
lemma callHook_error {name : String} {arguments : List Lua.Value} {report : Report}
    (failed : (host.callHook files name arguments).1 = .error report) :
    ∃ loaded failure, host.script = some loaded ∧
      (loaded.diagnostics.report files failure name).1 = report ∧
      (host.callHook files name arguments).2.2 =
        (host.engine.callHook name arguments).events ++
          (loaded.diagnostics.report files failure name).2 := by
  cases here : host.script with
  | none =>
    rw [callHook_of_none here] at failed
    cases failed
  | some loaded =>
    cases ran : (host.engine.callHook name arguments).result with
    | ok _ =>
      simp only [callHook, here, ran] at failed
      cases failed
    | error failure =>
      simp only [callHook, here, ran] at failed ⊢
      cases failed
      exact ⟨loaded, failure, rfl, rfl, rfl⟩

/-- The report on a script that fails to load is logged once. -/
lemma loadScript_loggedOnce {path : String} {report : Report}
    (failed : (host.loadScript files path).1 = .error report) :
    report.LoggedOnce [] (host.loadScript files path).2.2 := by
  obtain ⟨diagnostics, failure, spoken, _, rfl, events, said⟩ := host.loadScript_error files failed
  rw [events]
  exact diagnostics.report_loggedOnce files failure loadContext said

/-- The report on a hook that fails is about the loaded script, and logged once. -/
lemma callHook_report {name : String} {arguments : List Lua.Value} {report : Report}
    (failed : (host.callHook files name arguments).1 = .error report) :
    (∃ loaded, host.script = some loaded ∧ report.script = loaded.diagnostics.script ∧
      report.path = loaded.diagnostics.path ∧ report.context = name) ∧
    report.LoggedOnce [] (host.callHook files name arguments).2.2 := by
  obtain ⟨loaded, failure, here, rfl, events⟩ := host.callHook_error files failed
  refine ⟨⟨loaded, here, rfl, rfl, rfl⟩, ?_⟩
  rw [events]
  apply Diagnostics.report_loggedOnce
  exact fun event mem _ _ => host.engine.callHook_said name arguments event mem

/-- A result has a report if and only if it is one. -/
lemma report?_eq_some {α : Type} {result : Except Report α} {report : Report} :
    report? result = some report ↔ result = .error report := by
  cases result with
  | ok _ => exact ⟨nofun, nofun⟩
  | error _ => simp [report?]

variable [HostModule M Engine]

/-- What the registry does when the host stops. -/
def shutdownTrace : HostOperation M → List RegistryEvent
  | .stop files => (host.callHook files shutdownHook []).2.1.registry.shutdownAll.2
  | _ => []

/-- Stopping is the hook of the script, then the shutdown of the modules. -/
lemma stop_events :
    (host.stop files).2.2 = (host.callHook files shutdownHook []).2.2 ++
      ((host.shutdownTrace (.stop files)).flatMap RegistryEvent.events ++
        [log .debug
          ("Host stopped after " ++ toString (host.callHook files shutdownHook []).2.1.ticks ++
            " tick(s)")]) := by
  rw [← List.append_assoc]
  rfl

/-- The report on the hook of the script is not logged again while the modules are shut down. -/
lemma stop_loggedOnce {report : Report} (failed : (host.stop files).1 = some report) :
    report.LoggedOnce (host.shutdownTrace (.stop files)) (host.stop files).2.2 := by
  obtain ⟨_, once⟩ := host.callHook_report files (report?_eq_some.mp failed)
  obtain ⟨_, _, reported⟩ :=
    (host.callHook files shutdownHook []).2.1.registry.perform_reported .shutdownAll
  rw [stop_events]
  refine once.append fun event mem tells => ?_
  obtain shut | last := List.mem_append.mp mem
  · exact .inr (reported.causedIn shut tells)
  · rw [List.mem_singleton.mp last] at tells
    exact absurd tells (not_tells_log (by decide) _ _ _)

/-- Every report that an operation returns is logged once. -/
lemma perform_loggedOnce (operation : HostOperation M) {report : Report}
    (failed : (host.perform operation).report? = some report) :
    report.LoggedOnce (host.shutdownTrace operation) (host.perform operation).events := by
  cases operation with
  | loadScript files path => exact host.loadScript_loggedOnce files (report?_eq_some.mp failed)
  | tick files seconds =>
    exact (callHook_report { host with ticks := host.ticks + 1 } files
      (report?_eq_some.mp failed)).2
  | callHook files name arguments =>
    exact (host.callHook_report files (report?_eq_some.mp failed)).2
  | stop files => exact host.stop_loggedOnce files failed
  | _ => cases failed

/-- A report that an operation returns from a hook is about the loaded script. -/
lemma perform_report {operation : HostOperation M} {hook : String}
    (calls : operation.hook? = some hook) {report : Report}
    (failed : (host.perform operation).report? = some report) :
    ∃ loaded, host.script = some loaded ∧ report.script = loaded.diagnostics.script ∧
      report.path = loaded.diagnostics.path ∧ report.context = hook := by
  cases operation with
  | tick files seconds =>
    cases calls
    exact (callHook_report { host with ticks := host.ticks + 1 } files
      (report?_eq_some.mp failed)).1
  | callHook files name arguments =>
    cases calls
    exact (host.callHook_report files (report?_eq_some.mp failed)).1
  | stop files =>
    cases calls
    exact (host.callHook_report files (report?_eq_some.mp failed)).1
  | _ => cases calls

namespace Sound

variable {host : Host M} {path : String}

omit [HostModule M Engine] in
/-- Where a script could be read, one is loaded, and it was read there. -/
lemma script_of_some (sound : host.Sound (some path)) :
    ∃ loaded, host.script = some loaded ∧ loaded.ReadAt path := by
  obtain ⟨_, loaded⟩ := sound
  generalize host.script = script at loaded
  cases loaded with
  | some read => exact ⟨_, rfl, read⟩

omit [HostModule M Engine] in
/-- Where none could be read, none is loaded. -/
lemma script_of_none (sound : host.Sound none) : host.script = none := by
  obtain ⟨_, loaded⟩ := sound
  generalize host.script = script at loaded
  cases loaded
  rfl

omit [HostModule M Engine] in
/-- A script that was read has the name of its file. -/
lemma named (sound : host.Sound (some path)) :
    ∃ name, Path.fileName? path = some name ∧ host.scriptName? = some name := by
  obtain ⟨loaded, here, read⟩ := sound.script_of_some
  refine ⟨loaded.source.name, read.name_eq, ?_⟩
  rw [scriptName?, here, Option.map_some]

/-- A report from a hook names the loaded script, its path and the hook. -/
lemma reported {last : Option String} (sound : host.Sound last) {operation : HostOperation M}
    {hook : String} {report : Report} (calls : operation.hook? = some hook)
    (failed : (host.perform operation).report? = some report) :
    host.scriptName? = some report.script ∧ last = some report.path ∧ report.context = hook := by
  obtain ⟨loaded, here, script, path, context⟩ := host.perform_report calls failed
  cases last with
  | none =>
    rw [sound.script_of_none] at here
    cases here
  | some known =>
    obtain ⟨loaded', here', read⟩ := sound.script_of_some
    obtain rfl := Option.some.inj (here.symm.trans here')
    refine ⟨?_, ?_, context⟩
    · rw [scriptName?, here, script, read.reported_name, Option.map_some]
    · rw [path, read.reported_path, read.path_eq]

/-- After a host has stopped, its registry is not initialized, and no module of it is. -/
lemma stopped {last : Option String} (sound : host.Sound last) (files : FileTree) :
    let registry := (host.stop files).2.1.registry
    registry.initialized = false ∧ ∀ entry ∈ registry.entries, entry.state ≠ .initialized := by
  intro registry
  have consistent : registry.Consistent :=
    (sound.callHook files shutdownHook []).consistent.shutdownAll
  have flag : registry.initialized = false := by
    change (Registry.shutdownAll _).1.initialized = false
    rw [(Registry.shutdownAll_eq _).1]
  refine ⟨flag, fun entry mem => ?_⟩
  have allowed := consistent entry mem
  rw [flag] at allowed
  exact allowed.not_up

end Sound

/-- Without a script no hook is called: to stop is to shut the modules down. -/
lemma stop_of_none {host : Host M} (unloaded : host.script = none) :
    host.stop files = (none, { host with registry := host.registry.shutdownAll.1 },
      host.registry.shutdownAll.2.flatMap RegistryEvent.events ++
        [log .debug ("Host stopped after " ++ toString host.ticks ++ " tick(s)")]) := by
  rw [stop, callHook_of_none unloaded]
  rfl

/-- What holds of the scripts of a host after every run. The loaded script is the last one whose
file could be read as text, whether it failed or not, and has the name of that file; loading one
that cannot be read returns a report and changes nothing. Reports from hooks name the loaded script,
its path and the hook. Without a script there are no reports, and nothing is run. Stopping leaves no
module initialized. Each report is logged once. -/
theorem scripts_of_run (config : HostConfig) (engine : Engine)
    (operations : List (HostOperation M)) :
    let host := run config engine operations
    let last := HostOperation.lastRead? operations
    (∀ path, last = some path →
      ∃ name, Path.fileName? path = some name ∧ host.scriptName? = some name) ∧
    (last = none → host.scriptName? = none) ∧
    (∀ files path error, files.readText path = .error error →
      ∃ report events, host.loadScript files path = (.error report, host, events)) ∧
    (∀ operation hook report, operation.hook? = some hook →
      (host.perform operation).report? = some report →
      host.scriptName? = some report.script ∧ last = some report.path ∧ report.context = hook) ∧
    (last = none → ∀ files,
      (∀ seconds, host.tick files seconds = (none, { host with ticks := host.ticks + 1 }, [])) ∧
      (∀ name arguments, host.callHook files name arguments = (.ok false, host, [])) ∧
      host.stop files = (none, { host with registry := host.registry.shutdownAll.1 },
        host.registry.shutdownAll.2.flatMap RegistryEvent.events ++
          [log .debug ("Host stopped after " ++ toString host.ticks ++ " tick(s)")])) ∧
    (∀ files,
      let registry := (host.stop files).2.1.registry
      registry.initialized = false ∧ ∀ entry ∈ registry.entries, entry.state ≠ .initialized) ∧
    (∀ operation report, (host.perform operation).report? = some report →
      report.LoggedOnce (host.shutdownTrace operation) (host.perform operation).events) := by
  intro host last
  have sound : host.Sound last := run_sound config engine operations
  clear_value host last
  refine ⟨?named, ?unnamed, ?unreadable, ?reported, ?unloaded, sound.stopped, ?logged⟩
  case named =>
    rintro path rfl
    exact sound.named
  case unnamed =>
    rintro rfl
    rw [scriptName?, sound.script_of_none, Option.map_none]
  case unreadable => exact fun files path error => host.loadScript_of_error
  case reported => exact fun operation hook report => sound.reported
  case unloaded =>
    rintro rfl files
    have unloaded := sound.script_of_none
    refine ⟨fun seconds => ?_, callHook_of_none unloaded files, stop_of_none files unloaded⟩
    have ticked : { host with ticks := host.ticks + 1 }.script = none := unloaded
    rw [tick, callHook_of_none ticked]
    rfl
  case logged => exact fun operation report => host.perform_loggedOnce operation

end Host

end LuaHost
