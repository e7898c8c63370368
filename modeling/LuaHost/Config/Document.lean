import LuaHost.Config.Basic
import LuaHost.Data.Basic

/-!
# Configurations as documents

A section is an object of its fields, or an array of them in order. What is missing takes its
default, and fields that are not known are ignored.
-/

namespace LuaHost

/-- Reads one kind of value; none if the document does not hold one. -/
abbrev Data.Reader (α : Type) := Data → Option α

namespace Data.Reader

/-- A truth value. -/
def boolean : Data.Reader Bool
  | .boolean b => some b
  | _ => none

/-- A text. -/
def text : Data.Reader String
  | .string s => some s
  | _ => none

/-- A 32-bit number. -/
def word32 : Data.Reader UInt32
  | .integer n => if 0 ≤ n && n < UInt32.size then some (UInt32.ofNat n.toNat) else none
  | _ => none

/-- A 64-bit number. -/
def word64 : Data.Reader UInt64
  | .integer n => if 0 ≤ n && n < UInt64.size then some (UInt64.ofNat n.toNat) else none
  | _ => none

/-- A value that may be `null`. -/
def optional {α : Type} (read : Data.Reader α) : Data.Reader (Option α)
  | .null => some none
  | data => (read data).map some

end Data.Reader

/-- The parts of a section: its fields by name, or by their position in an array. -/
inductive Data.Section where
  | named (fields : List (String × Data))
  | positional (items : List Data)

/-- What becomes of an array with more items than the section has fields. -/
inductive Data.Surplus where
  | refused
  | ignored
  deriving DecidableEq, Repr

/-- The section of `arity` fields that a document holds. -/
def Data.section? (surplus : Data.Surplus) (arity : Nat) : Data → Option Data.Section
  | .object fields => some (.named fields)
  | .array items =>
    if surplus = .refused ∧ arity < items.length then none else some (.positional items)
  | _ => none

/-- A field of a section by name and position; `missing` if it is not there. -/
def Data.Section.field {α : Type} (parts : Data.Section) (name : String) (position : Nat)
    (missing : α) (read : Data.Reader α) : Option α :=
  let found := match parts with
    | .named fields => Data.lookup? name fields
    | .positional items => items[position]?
  match found with
  | some data => read data
  | none => some missing

/-- The loop settings in a document. -/
def LoopSettings.ofData? (surplus : Data.Surplus) (data : Data) : Option LoopSettings := do
  let parts ← data.section? surplus 3
  let missing : LoopSettings := {}
  let logLevel ← parts.field "log_level" 0 missing.logLevel .text
  let tickIntervalMs ← parts.field "tick_interval_ms" 1 missing.tickIntervalMs .word64
  let maxTicks ← parts.field "max_ticks" 2 missing.maxTicks (.optional .word64)
  some { logLevel, tickIntervalMs, maxTicks }

/-- The script settings in a document. -/
def ScriptSettings.ofData? (surplus : Data.Surplus) (data : Data) : Option ScriptSettings := do
  let parts ← data.section? surplus 2
  let missing : ScriptSettings := {}
  let dir ← parts.field "dir" 0 missing.dir .text
  let entry ← parts.field "entry" 1 missing.entry .text
  some { dir, entry }

/-- The report settings in a document. -/
def ReportSettings.ofData? (surplus : Data.Surplus) (data : Data) : Option ReportSettings := do
  let parts ← data.section? surplus 3
  let missing : ReportSettings := {}
  let contextBefore ← parts.field "context_before" 0 missing.contextBefore .word32
  let contextAfter ← parts.field "context_after" 1 missing.contextAfter .word32
  let json ← parts.field "json" 2 missing.json .boolean
  some { contextBefore, contextAfter, json }

/-- The settings of a module in a document. -/
def ModuleSettings.ofData? (surplus : Data.Surplus) (data : Data) : Option ModuleSettings := do
  let parts ← data.section? surplus 1
  let missing : ModuleSettings := {}
  let enabled ← parts.field "enabled" 0 missing.enabled .boolean
  some { enabled }

/-- The module settings in a document; of two under one name the later counts. -/
def ModuleTable.ofData? (surplus : Data.Surplus) : Data → Option ModuleTable
  | .object fields =>
    fields.foldlM
      (fun table (name, data) => (ModuleSettings.ofData? surplus data).map (table.insert name))
        .empty
  | _ => none

namespace HostConfig

/-- The configuration in a document. -/
def ofData? (surplus : Data.Surplus) (data : Data) : Option HostConfig := do
  let parts ← data.section? surplus 4
  let host ← parts.field "host" 0 {} (LoopSettings.ofData? surplus)
  let scripts ← parts.field "scripts" 1 {} (ScriptSettings.ofData? surplus)
  let diagnostics ← parts.field "diagnostics" 2 {} (ReportSettings.ofData? surplus)
  let modules ← parts.field "modules" 3 .empty (ModuleTable.ofData? surplus)
  some { host, scripts, diagnostics, modules }

end HostConfig

/-- Loop settings as a document; without a tick limit its field is left out. -/
def LoopSettings.toData (settings : LoopSettings) : Data :=
  .object <|
    [("log_level", .string settings.logLevel),
      ("tick_interval_ms", .integer settings.tickIntervalMs.toNat)] ++
    match settings.maxTicks with
    | some ticks => [("max_ticks", .integer ticks.toNat)]
    | none => []

/-- Script settings as a document. -/
def ScriptSettings.toData (settings : ScriptSettings) : Data :=
  .object [("dir", .string settings.dir), ("entry", .string settings.entry)]

/-- Report settings as a document. -/
def ReportSettings.toData (settings : ReportSettings) : Data :=
  .object [("context_before", .integer settings.contextBefore.toNat),
    ("context_after", .integer settings.contextAfter.toNat), ("json", .boolean settings.json)]

/-- The settings of a module as a document. -/
def ModuleSettings.toData (settings : ModuleSettings) : Data :=
  .object [("enabled", .boolean settings.enabled)]

/-- Module settings as a document. -/
def ModuleTable.toData (table : ModuleTable) : Data :=
  .object (table.entries.map fun (name, settings) => (name, settings.toData))

/-- A configuration as a document. -/
def HostConfig.toData (config : HostConfig) : Data :=
  .object [("host", config.host.toData), ("scripts", config.scripts.toData),
    ("diagnostics", config.diagnostics.toData), ("modules", config.modules.toData)]

end LuaHost
