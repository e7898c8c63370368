import LuaHost.Proofs.Program.Session

/-!
# The number of ticks

How often a run of the program ticks the script. The limit is tested after each tick, so there are
as many ticks as it says, but at least one, whatever becomes of them (`ticks_of_run`): with a limit
of zero there is one tick (`run_ticks_once`).
-/

namespace LuaHost.CommandLine

variable {M : Type} [HostModule M Engine]

/-- The end of a run of a script that has loaded: the host is stopped, and what that reports is
shown. -/
def closing (files : FileTree) (past : Progress M) : Run :=
  let progress := past.after (stop past.host files true)
  { exitCode := 0, reports := progress.reports, output := progress.output, errors := [], files }

/-- Several ticks are counted, whichever of them fail. -/
lemma tickTimes_ticks (host : Host M) (files : FileTree) (seconds : Nat → Float) (count : Nat) :
    (tickTimes files seconds count host).host.ticks = host.ticks + count := by
  induction count generalizing host with
  | zero => rfl
  | succ count ih =>
    change (tickTimes files seconds count (tick host files _).host).host.ticks = _
    rw [ih, tick_ticks, Nat.add_assoc, Nat.add_comm 1]

section Runs

variable (M) {files files' : FileTree} {configHome : Option String} {arguments : List String}
  {config : HostConfig} {read : String → Option HostConfig} (engine : Engine)
  (seconds : Nat → Float) (count : Nat)

/-- A run of a script that loads ticks it until it is done. -/
lemma run_of_loads (configured : configure files configHome read = (config, files'))
    (loads : loadFailure? M files' config engine (scriptPath config arguments) = none) :
    let opened := opened M files' config engine (scriptPath config arguments)
    run M files configHome arguments engine seconds count read =
      closing files' (opened.after (ticks files' seconds count opened.host)) := by
  have loaded :
      (loadScript (launch config engine : Progress M).host files' (scriptPath config arguments)).1 =
        none := loads
  unfold run
  dsimp only
  rw [configured]
  dsimp only
  rw [loaded]
  rfl

/-- The host that has loaded the script has the configuration of the run. -/
lemma opened_host_config (files : FileTree) (path : String) :
    (opened M files config engine path).host.config = config := by
  rw [(opened_plays M files config engine path).host_eq, Host.after_config]
  rfl

/-- It has not been ticked. -/
lemma opened_host_ticks (files : FileTree) (path : String) :
    (opened M files config engine path).host.ticks = 0 := by
  rw [(opened_plays M files config engine path).host_eq, Host.after_ticks]
  rfl

end Runs

/-- A script that loads is ticked one time after the other until the host is stopped. If no
interrupt comes before, that is as often as the limit says, but at least once, whichever ticks fail.
So it is exactly as often if and only if the limit is not zero. The calls of hooks are supposed to
return; `Lua.Machine.runFrom` ends one that does not as a failure. -/
theorem ticks_of_run (M : Type) [HostModule M Engine] (files : FileTree)
    (configHome : Option String) (arguments : List String) (engine : Engine) (seconds : Nat → Float)
    (read : String → Option HostConfig) {limit : UInt64}
    (limited : (configure files configHome read).1.host.maxTicks = some limit)
    (loads : loadFailure? M (configure files configHome read).2 (configure files configHome read).1
      engine (scriptPath (configure files configHome read).1 arguments) = none) :
    let config := (configure files configHome read).1
    let files' := (configure files configHome read).2
    let opened := opened M files' config engine (scriptPath config arguments)
    let ticked count := opened.after (tickTimes files' seconds count opened.host)
    let calls := max limit.toNat 1
    (∀ count, run M files configHome arguments engine seconds count read =
      closing files' (ticked (min count calls))) ∧
    (∀ count, calls ≤ count → run M files configHome arguments engine seconds count read =
      closing files' (ticked calls)) ∧
    (∀ count, (ticked count).host.ticks = count) ∧
    (calls = limit.toNat ↔ limit ≠ 0) := by
  intro config files' opened ticked calls
  have configured : configure files configHome read = (config, files') := rfl
  have untouched : opened.host.ticks = 0 := opened_host_ticks M engine files' _
  have same : opened.host.config = config := opened_host_config M engine files' _
  have runs : ∀ count, run M files configHome arguments engine seconds count read =
      closing files' (ticked (min count calls)) := by
    intro count
    have lasts : tickCount opened.host.config.host.maxTicks opened.host.ticks count =
        min count calls := by
      rw [same, untouched, limited]
      rfl
    rw [run_of_loads M engine seconds count configured loads, ticks_eq, lasts]
  refine ⟨runs, ?_, ?_, ?_⟩
  · intro count enough
    rw [runs count, Nat.min_eq_right enough]
  · intro count
    have counted := tickTimes_ticks opened.host files' seconds count
    rw [untouched, Nat.zero_add] at counted
    exact counted
  · have positive : limit ≠ 0 ↔ 1 ≤ limit.toNat := by
      rw [Ne, ← UInt64.toNat_inj]
      exact Nat.pos_iff_ne_zero.symm
    rw [positive]
    change max limit.toNat 1 = limit.toNat ↔ 1 ≤ limit.toNat
    omega

/-- A tree with a script, and with a configuration of a limit. -/
def limitedFiles (settings script : String) : FileTree :=
  let configured := ({} : FileTree).place (HostConfig.defaultPath "conf") (.file settings.toUTF8)
  configured.place "main.lua" (.file script.toUTF8)

/-- Two ticks, which both fail. -/
def failingFiles : FileTree :=
  limitedFiles "[host]\nmax_ticks = 2\n" "function on_tick()\n  error('no')\nend\n"

/-- A limit of two is reached after two ticks, though both fail. -/
theorem ticks_of_run_failing :
    let config := (configure failingFiles "conf").1
    let files := (configure failingFiles "conf").2
    let opened := opened Empty files config (.create 0) "main.lua"
    config.host.maxTicks = some 2 ∧ loadFailure? Empty files config (.create 0) "main.lua" = none ∧
      ∀ count, 2 ≤ count →
        run Empty failingFiles "conf" ["main.lua"] (.create 0) (fun _ => 0) count =
          closing files (opened.after (tickTimes files (fun _ => 0) 2 opened.host)) := by
  have limited : (configure failingFiles "conf").1.host.maxTicks = some 2 := by decide +kernel
  have loads : loadFailure? Empty (configure failingFiles "conf").2
      (configure failingFiles "conf").1 (.create 0)
      (scriptPath (configure failingFiles "conf").1 ["main.lua"]) = none := by decide +kernel
  obtain ⟨_, runs, _, _⟩ := ticks_of_run Empty failingFiles "conf" ["main.lua"] (.create 0)
    (fun _ => 0) HostConfig.ofToml? limited loads
  exact ⟨limited, loads, runs⟩

/-- A script that says when it is ticked, and a limit of zero. -/
def tickedFiles : FileTree :=
  limitedFiles "[host]\nmax_ticks = 0\n" "function on_tick()\n  print('tick')\nend\n"

/-- A limit of zero lets one tick pass, though no interrupt comes. -/
theorem run_ticks_once :
    let run := run Empty tickedFiles "conf" ["main.lua"] (.create 0) (fun _ => 0) 5
    (configure tickedFiles "conf").1.host.maxTicks = some 0 ∧ run.exitCode = 0 ∧
      run.output = [.line "tick"] := by
  decide +kernel

end LuaHost.CommandLine
