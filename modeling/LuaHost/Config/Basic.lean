import LuaHost.Report.Context
import LuaHost.Text.Basic
import LuaHost.Text.Path

/-!
# Host configuration

The settings of a host in four sections, with their defaults and the checks they have to pass.
-/

namespace LuaHost

open LuaHost.Text

/-- Settings of the tick loop. -/
structure LoopSettings where
  logLevel : String := "info"
  tickIntervalMs : UInt64 := 100
  /-- Stop after this many ticks; without it the host runs until it is interrupted. -/
  maxTicks : Option UInt64 := none
  deriving DecidableEq, Repr

/-- Where scripts are. -/
structure ScriptSettings where
  dir : String := "scripts"
  entry : String := "main.lua"
  deriving DecidableEq, Repr

/-- Settings of error reports. -/
structure ReportSettings where
  contextBefore : UInt32 := ({} : ContextWindow).before
  contextAfter : UInt32 := ({} : ContextWindow).after
  /-- Also print every report as JSON. -/
  json : Bool := false
  deriving DecidableEq, Repr

/-- Settings of one module. -/
structure ModuleSettings where
  enabled : Bool := true
  deriving DecidableEq, Repr

/-- The list with a setting under a name, in the place of the one it replaces. -/
def setNamed {α : Type} (name : String) (value : α) : List (String × α) → List (String × α)
  | [] => [(name, value)]
  | (known, old) :: rest =>
    if known = name then (name, value) :: rest else (known, old) :: setNamed name value rest

/-- The names are the one that is set and those before. -/
theorem mem_map_fst_setNamed {α : Type} {name other : String} {value : α} {xs : List (String × α)} :
    other ∈ (setNamed name value xs).map Prod.fst ↔ other = name ∨ other ∈ xs.map Prod.fst := by
  induction xs with
  | nil => simp [setNamed]
  | cons x xs ih =>
    obtain ⟨known, old⟩ := x
    by_cases h : known = name
    · simp [setNamed, h]
    · simp only [setNamed, h, if_false, List.map_cons, List.mem_cons, ih]
      constructor
      · rintro (h | h | h) <;> simp [h]
      · rintro (h | h | h) <;> simp [h]

/-- Each name is still there once. -/
theorem nodup_map_fst_setNamed {α : Type} {name : String} {value : α} {xs : List (String × α)}
    (distinct : (xs.map Prod.fst).Nodup) : ((setNamed name value xs).map Prod.fst).Nodup := by
  induction xs with
  | nil => simp [setNamed]
  | cons x xs ih =>
    obtain ⟨known, old⟩ := x
    simp only [List.map_cons, List.nodup_cons] at distinct
    by_cases h : known = name
    · subst h
      simpa [setNamed] using distinct
    · simp only [setNamed, h, if_false, List.map_cons, List.nodup_cons, mem_map_fst_setNamed]
      exact ⟨fun hk => hk.elim id distinct.1, ih distinct.2⟩

/-- Settings of modules under their names, each name once. -/
structure ModuleTable where
  entries : List (String × ModuleSettings)
  distinct : (entries.map Prod.fst).Nodup
  deriving DecidableEq, Repr

namespace ModuleTable

/-- No settings. -/
def empty : ModuleTable :=
  ⟨[], List.nodup_nil⟩

/-- The settings of a module, if the table has some. -/
def find? (table : ModuleTable) (name : String) : Option ModuleSettings :=
  (table.entries.find? fun (known, _) => known == name).map Prod.snd

/-- The table with settings for a module. -/
def insert (table : ModuleTable) (name : String) (settings : ModuleSettings) : ModuleTable :=
  { entries := setNamed name settings table.entries
    distinct := nodup_map_fst_setNamed table.distinct }

end ModuleTable

/-- The configuration of a host. -/
structure HostConfig where
  host : LoopSettings := {}
  scripts : ScriptSettings := {}
  diagnostics : ReportSettings := {}
  modules : ModuleTable := .empty
  deriving DecidableEq, Repr

/-- A setting that is out of its range. -/
inductive ConfigFault where
  | logLevel (level : String)
  | tickInterval
  | entry
  | contextWindow
  deriving DecidableEq, Repr

namespace HostConfig

/-- The log levels a configuration may name. -/
def logLevels : List String := ["trace", "debug", "info", "warn", "error"]

/-- The most lines that a report shows on either side of the failing one. -/
def maxContextLines : UInt32 := 50

/-- The first setting that is out of its range, if there is one. -/
def fault? (config : HostConfig) : Option ConfigFault :=
  if !logLevels.contains config.host.logLevel then some (.logLevel config.host.logLevel)
  else if config.host.tickIntervalMs == 0 then some .tickInterval
  else if (trim config.scripts.entry.toList).isEmpty then some .entry
  else if maxContextLines < config.diagnostics.contextBefore ||
      maxContextLines < config.diagnostics.contextAfter then some .contextWindow
  else none

/-- The path of the entry script. -/
def entryPath (config : HostConfig) : String :=
  Path.join config.scripts.dir config.scripts.entry

/-- How much code reports show. -/
def contextWindow (config : HostConfig) : ContextWindow :=
  ⟨config.diagnostics.contextBefore, config.diagnostics.contextAfter⟩

/-- Whether a module is to be registered; modules without settings are. -/
def moduleEnabled (config : HostConfig) (name : String) : Bool :=
  match config.modules.find? name with
  | some settings => settings.enabled
  | none => true

end HostConfig

/-- The text of a fault. -/
def ConfigFault.text : ConfigFault → String
  | .logLevel level =>
    "Invalid log_level: " ++ level ++ ". Must be one of: " ++ ", ".intercalate HostConfig.logLevels
  | .tickInterval => "host.tick_interval_ms must be greater than 0"
  | .entry => "scripts.entry cannot be empty"
  | .contextWindow =>
    "diagnostics context window cannot exceed " ++ toString HostConfig.maxContextLines.toNat ++
      " lines per side"

end LuaHost
