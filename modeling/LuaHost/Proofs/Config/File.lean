import LuaHost.CommandLine
import LuaHost.Proofs.Script

/-!
# The configuration that is used

What the checks of a configuration say is a structure of its own (`InRange`). A file is loaded if
and only if it can be read as a configuration that passes them (`load_eq_ok`), also where it had to
be made first (`loadDefault_eq_ok`), in whatever way its text is read. A file that is there already
is left as it is (`loadDefault_of_exists`). So what is used passes the checks in any case, as the
defaults do (`configure_inRange`).
-/

namespace LuaHost

open LuaHost.Text

/-- A file that can be read is there. -/
lemma FileTree.pathExists_of_readText {tree : FileTree} {path text : String}
    (read : tree.readText path = .ok text) : tree.pathExists path = true := by
  obtain ⟨content, found⟩ := lookup_of_readText read
  rw [pathExists, found]

namespace HostConfig

/-- All settings are in their ranges. -/
structure InRange (config : HostConfig) : Prop where
  level : config.host.logLevel ∈ logLevels
  interval : config.host.tickIntervalMs ≠ 0
  entry : trim config.scripts.entry.toList ≠ []
  before : config.diagnostics.contextBefore ≤ maxContextLines
  after : config.diagnostics.contextAfter ≤ maxContextLines

/-- A check finds no fault if it passes and those after it find none. -/
lemma check_eq_none {failed : Prop} [Decidable failed] {fault : ConfigFault}
    {rest : Option ConfigFault} :
    (if failed then some fault else rest) = none ↔ ¬failed ∧ rest = none := by
  by_cases failed : failed
  · rw [if_pos failed]
    exact ⟨nofun, fun passed => absurd failed passed.1⟩
  · rw [if_neg failed]
    exact (and_iff_right failed).symm

/-- There is no fault if and only if everything is in its range. -/
lemma fault?_eq_none_iff {config : HostConfig} : config.fault? = none ↔ config.InRange := by
  rw [fault?, check_eq_none, check_eq_none, check_eq_none, check_eq_none, Bool.or_eq_true, not_or,
    decide_eq_true_eq, decide_eq_true_eq, UInt32.not_lt, UInt32.not_lt, beq_iff_eq,
    List.isEmpty_iff, Bool.not_eq_true', Bool.not_eq_false, List.contains_iff_mem]
  constructor
  · rintro ⟨level, interval, entry, ⟨before, after⟩, _⟩
    exact ⟨level, interval, entry, before, after⟩
  · rintro ⟨level, interval, entry, before, after⟩
    exact ⟨level, interval, entry, ⟨before, after⟩, rfl⟩

/-- A report shows at most fifty lines before its own and fifty after it. -/
lemma InRange.window_le {config : HostConfig} (ranged : config.InRange) :
    config.contextWindow.before.toNat + config.contextWindow.after.toNat + 1 ≤ 101 := by
  have before : config.contextWindow.before.toNat ≤ 50 := UInt32.le_iff_toNat_le.mp ranged.before
  have after : config.contextWindow.after.toNat ≤ 50 := UInt32.le_iff_toNat_le.mp ranged.after
  omega

/-- The defaults are in range. -/
lemma default_inRange : InRange {} :=
  fault?_eq_none_iff.mp (by decide)

variable {files : FileTree} {path home : String} {configHome : Option String}
  {read : String → Option HostConfig} {config : HostConfig}

/-- A file is loaded if and only if it can be read and what is in it is in range. -/
lemma load_eq_ok :
    load files path read = .ok config ↔
      ∃ text, files.readText path = .ok text ∧ read text = some config ∧ config.InRange := by
  unfold load
  cases files.readText path with
  | error _ => exact ⟨nofun, nofun⟩
  | ok text =>
    dsimp only
    constructor
    · intro loaded
      split at loaded
      case h_1 => cases loaded
      case h_2 found e =>
        split at loaded
        case h_1 => cases loaded
        case h_2 passed =>
          cases loaded
          exact ⟨text, rfl, e, fault?_eq_none_iff.mp passed⟩
    · rintro ⟨_, ⟨⟩, e, ranged⟩
      rw [e]
      dsimp only
      rw [fault?_eq_none_iff.mpr ranged]

/-- A file that is there is loaded, and no other is made. -/
lemma loadDefault_of_exists (there : files.pathExists (defaultPath home) = true) :
    loadDefault files (some home) read = (load files (defaultPath home) read, files, []) :=
  if_pos there

/-- The tree after a load from the default path has the file that was loaded, be it an old or a new
one. -/
lemma loadDefault_eq_ok :
    (loadDefault files configHome read).1 = .ok config ↔
      ∃ home text, configHome = some home ∧
        (loadDefault files configHome read).2.1.readText (defaultPath home) = .ok text ∧
        read text = some config ∧ config.InRange := by
  cases configHome with
  | none => exact ⟨nofun, nofun⟩
  | some home =>
    suffices loaded : (loadDefault files (some home) read).1 = .ok config ↔
        ∃ text, (loadDefault files (some home) read).2.1.readText (defaultPath home) = .ok text ∧
          read text = some config ∧ config.InRange by
      rw [loaded]
      constructor
      · rintro ⟨text, there, found⟩
        exact ⟨home, text, rfl, there, found⟩
      · rintro ⟨_, text, ⟨⟩, there, found⟩
        exact ⟨text, there, found⟩
    unfold loadDefault
    dsimp only
    split
    case isTrue => exact load_eq_ok
    case isFalse missing =>
      split
      case h_1 =>
        -- Nothing was made, so there still is no file.
        constructor
        · exact nofun
        · rintro ⟨text, there, _⟩
          exact absurd (FileTree.pathExists_of_readText there) missing
      case h_2 => exact load_eq_ok

/-- A file that is there and is in range is the one that is loaded. -/
lemma loadDefault_of_readText {text : String} (there : files.readText (defaultPath home) = .ok text)
    (found : read text = some config) (ranged : config.InRange) :
    (loadDefault files (some home) read).1 = .ok config := by
  rw [loadDefault_of_exists (FileTree.pathExists_of_readText there)]
  exact load_eq_ok.mpr ⟨text, there, found, ranged⟩

/-- What is loaded is used. -/
lemma configure_of_ok (loaded : (loadDefault files configHome read).1 = .ok config) :
    CommandLine.configure files configHome read =
      (config, (loadDefault files configHome read).2.1) := by
  unfold CommandLine.configure
  split
  case h_1 e => cases e ▸ loaded; rw [e]
  case h_2 e => cases e ▸ loaded

/-- Where nothing is loaded, the defaults are used. -/
lemma configure_of_error {error : ConfigError}
    (failed : (loadDefault files configHome read).1 = .error error) :
    CommandLine.configure files configHome read =
      ({}, (loadDefault files configHome read).2.1) := by
  unfold CommandLine.configure
  split
  case h_1 e => cases e ▸ failed
  case h_2 e => rw [e]

/-- The configuration that is used is in range. -/
lemma configure_inRange : InRange (CommandLine.configure files configHome read).1 := by
  cases e : (loadDefault files configHome read).1 with
  | error _ =>
    rw [configure_of_error e]
    exact default_inRange
  | ok config =>
    rw [configure_of_ok e]
    obtain ⟨_, _, _, _, _, ranged⟩ := loadDefault_eq_ok.mp e
    exact ranged

end HostConfig

end LuaHost
