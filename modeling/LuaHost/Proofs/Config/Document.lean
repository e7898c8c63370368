import LuaHost.Config.Document
import LuaHost.Proofs.Data.Edited
import Mathlib.Data.List.Forall2

/-!
# Configurations read back from edited documents

A configuration is written as a document, and the document is edited: sections and fields are
deleted, fields that no configuration has are added, and the order is changed. It is still a
configuration, in which what was deleted has its default and all else is as it was
(`HostConfig.config_of_edited`). Reading a section is reading its fields (`ofData?_of_fields`), so
each section comes down to what an edit does to one field (`Data.Edited.field_leaf`).
-/

namespace LuaHost

open Data

/-! ### Fields -/

namespace Data.Section

variable {α : Type} {fields : List (String × Data)} {name : String} {read : Data.Reader α}

/-- A field that is missing is read as its default. -/
lemma field_of_none (none : lookup? name fields = none) (position : Nat) (missing : α) :
    (named fields).field name position missing read = some missing := by
  rw [field, none]

/-- A field that is there is read as what it holds. -/
lemma field_of_some {data : Data} {value : α} (found : lookup? name fields = some data)
    (reads : read data = some value) (position : Nat) (missing : α) :
    (named fields).field name position missing read = some value := by
  rw [field, found]
  exact reads

end Data.Section

namespace Data.Edited

variable {known deleted : Data.Place → Bool} {place : Place} {fields edited : List (String × Data)}
  {name : String} {data : Data} {α : Type} {read : Data.Reader α}

/-- A field is read as its default if it is deleted, and otherwise as what it has become. -/
lemma exists_field (h : Edited known deleted place (.object fields) (.object edited))
    (is_known : known (place ++ [name]) = true) (found : lookup? name fields = some data)
    {becomes : α → Prop}
    (reads : ∀ data', Edited known deleted (place ++ [name]) data data' →
      ∃ a, read data' = some a ∧ becomes a)
    (position : Nat) (missing : α) :
    ∃ a, (Section.named edited).field name position missing read = some a ∧
      if deleted (place ++ [name]) then a = missing else becomes a := by
  cases gone : deleted (place ++ [name]) with
  | true => exact ⟨missing, Section.field_of_none (h.lookup?_eq_none is_known (.inl gone)) _ _, rfl⟩
  | false =>
    obtain ⟨data', found', edited'⟩ := h.lookup?_eq_some is_known gone found
    obtain ⟨a, e, becomes⟩ := reads data' edited'
    exact ⟨a, Section.field_of_some found' e _ _, becomes⟩

/-- If there is one thing that it can be read as, it is read as that. -/
lemma field_eq (h : Edited known deleted place (.object fields) (.object edited))
    (is_known : known (place ++ [name]) = true) (found : lookup? name fields = some data)
    {value : α}
    (reads : ∀ data', Edited known deleted (place ++ [name]) data data' → read data' = some value)
    (position : Nat) (missing : α) :
    (Section.named edited).field name position missing read =
      some (if deleted (place ++ [name]) then missing else value) := by
  have same : ∀ data', Edited known deleted (place ++ [name]) data data' →
      ∃ a, read data' = some a ∧ a = value := by
    intro data' edited'
    exact ⟨value, reads data' edited', rfl⟩
  obtain ⟨a, e, becomes⟩ := h.exists_field is_known found same position missing
  rw [e]
  split at becomes
  case isTrue gone => rw [if_pos gone, becomes]
  case isFalse kept => rw [if_neg kept, becomes]

/-- A field that holds no object is read as it was, unless it is deleted. -/
lemma field_leaf (h : Edited known deleted place (.object fields) (.object edited))
    (is_known : known (place ++ [name]) = true) (found : lookup? name fields = some data)
    {value : α} (reads : read data = some value) (leaf : ∀ fields, data ≠ .object fields)
    (position : Nat) (missing : α) :
    (Section.named edited).field name position missing read =
      some (if deleted (place ++ [name]) then missing else value) := by
  apply h.field_eq is_known found
  intro data' edited'
  rw [edited'.eq_of_leaf leaf, reads]

end Data.Edited

namespace Data.Reader

/-- A text is read from a string. -/
lemma text_string (s : String) : text (.string s) = some s := rfl

/-- A truth value is read as it is. -/
lemma boolean_boolean (b : Bool) : boolean (.boolean b) = some b := rfl

/-- A natural number below a size passes the test for that size. -/
lemma fits_of_lt {n size : Nat} (below : n < size) :
    (0 ≤ (n : Int) && (n : Int) < size) = true := by
  rw [Bool.and_eq_true, decide_eq_true_eq, decide_eq_true_eq]
  omega

/-- A 32-bit number is read back from its value. -/
lemma word32_toNat (n : UInt32) : word32 (.integer n.toNat) = some n := by
  rw [word32, if_pos (fits_of_lt n.toNat_lt), Int.toNat_natCast, UInt32.ofNat_toNat]

/-- A 64-bit number is read back from its value. -/
lemma word64_toNat (n : UInt64) : word64 (.integer n.toNat) = some n := by
  rw [word64, if_pos (fits_of_lt n.toNat_lt), Int.toNat_natCast, UInt64.ofNat_toNat]

/-- So it is if it might be missing. -/
lemma optional_word64_toNat (n : UInt64) : optional .word64 (.integer n.toNat) = some (some n) := by
  rw [optional, word64_toNat, Option.map_some]
  exact nofun

end Data.Reader

/-! ### Defaults for what is deleted -/

/-- The places of a configuration: its sections and their fields, where every name is that of a
module. -/
def HostConfig.knows : Data.Place → Bool
  | [name] => ["host", "scripts", "diagnostics", "modules"].contains name
  | ["host", name] => ["log_level", "tick_interval_ms", "max_ticks"].contains name
  | ["scripts", name] => ["dir", "entry"].contains name
  | ["diagnostics", name] => ["context_before", "context_after", "json"].contains name
  | ["modules", _] => true
  | ["modules", _, name] => name == "enabled"
  | _ => false

section

variable (deleted : Data.Place → Bool)

/-- Loop settings with the defaults of the fields that are deleted. -/
def LoopSettings.reset (settings : LoopSettings) : LoopSettings where
  logLevel :=
    if deleted ["host", "log_level"] then ({} : LoopSettings).logLevel else settings.logLevel
  tickIntervalMs :=
    if deleted ["host", "tick_interval_ms"] then ({} : LoopSettings).tickIntervalMs
    else settings.tickIntervalMs
  maxTicks :=
    if deleted ["host", "max_ticks"] then ({} : LoopSettings).maxTicks else settings.maxTicks

/-- Script settings with the defaults of the fields that are deleted. -/
def ScriptSettings.reset (settings : ScriptSettings) : ScriptSettings where
  dir := if deleted ["scripts", "dir"] then ({} : ScriptSettings).dir else settings.dir
  entry := if deleted ["scripts", "entry"] then ({} : ScriptSettings).entry else settings.entry

/-- Report settings with the defaults of the fields that are deleted. -/
def ReportSettings.reset (settings : ReportSettings) : ReportSettings where
  contextBefore :=
    if deleted ["diagnostics", "context_before"] then ({} : ReportSettings).contextBefore
    else settings.contextBefore
  contextAfter :=
    if deleted ["diagnostics", "context_after"] then ({} : ReportSettings).contextAfter
    else settings.contextAfter
  json := if deleted ["diagnostics", "json"] then ({} : ReportSettings).json else settings.json

/-- The settings of a module with the defaults of the fields that are deleted. -/
def ModuleSettings.reset (name : String) (settings : ModuleSettings) : ModuleSettings where
  enabled :=
    if deleted ["modules", name, "enabled"] then ({} : ModuleSettings).enabled else settings.enabled

/-- The settings of the modules that are not deleted, with the defaults of the fields that are. -/
def ModuleTable.reset (table : ModuleTable) : ModuleTable where
  entries := (table.entries.filter fun (name, _) => !deleted ["modules", name]).map
    fun (name, settings) => (name, settings.reset deleted name)
  distinct := by
    have names : Prod.fst ∘ (fun (name, settings) => (name, settings.reset deleted name)) =
        (Prod.fst : String × ModuleSettings → String) := rfl
    rw [List.map_map, names]
    exact (List.filter_sublist.map Prod.fst).nodup table.distinct

/-- A configuration with the defaults of the sections and fields that are deleted. -/
def HostConfig.reset (config : HostConfig) : HostConfig where
  host := if deleted ["host"] then {} else config.host.reset deleted
  scripts := if deleted ["scripts"] then {} else config.scripts.reset deleted
  diagnostics := if deleted ["diagnostics"] then {} else config.diagnostics.reset deleted
  modules := if deleted ["modules"] then .empty else config.modules.reset deleted

end

/-! ### Sections -/

variable {deleted : Data.Place → Bool} {data : Data} {fields : List (String × Data)}

namespace LoopSettings

variable {settings : LoopSettings}

/-- Loop settings are read field by field. -/
lemma ofData?_of_fields
    (level : (Section.named fields).field "log_level" 0 ({} : LoopSettings).logLevel .text =
      some settings.logLevel)
    (interval :
      (Section.named fields).field "tick_interval_ms" 1 ({} : LoopSettings).tickIntervalMs .word64 =
        some settings.tickIntervalMs)
    (limit :
      (Section.named fields).field "max_ticks" 2 ({} : LoopSettings).maxTicks (.optional .word64) =
        some settings.maxTicks)
    (surplus : Surplus) :
    ofData? surplus (.object fields) = some settings := by
  simp only [ofData?, section?, Option.bind_eq_bind, Option.bind_some]
  rw [level, interval, limit]
  rfl

/-- Edited loop settings have the defaults of what is deleted. -/
lemma ofData?_edited (edited : Edited HostConfig.knows deleted ["host"] settings.toData data)
    (surplus : Surplus) :
    ofData? surplus data = some (settings.reset deleted) := by
  obtain ⟨fields, rfl⟩ := edited.exists_object
  apply ofData?_of_fields
  · exact edited.field_leaf rfl rfl (Data.Reader.text_string _) nofun _ _
  · exact edited.field_leaf rfl rfl (Data.Reader.word64_toNat _) nofun _ _
  · cases limit : settings.maxTicks with
    | none =>
      -- Without a limit there was no field for it, and the default is none too.
      rw [toData, limit] at edited
      rw [reset, limit, ite_self]
      exact Section.field_of_none (edited.lookup?_eq_none rfl (.inr rfl)) _ _
    | some n =>
      rw [toData, limit] at edited
      rw [reset, limit]
      exact edited.field_leaf rfl rfl (Data.Reader.optional_word64_toNat n) nofun _ _

/-- Where nothing is edited, they are read as they were. -/
lemma ofData?_toData (settings : LoopSettings) (surplus : Surplus) :
    ofData? surplus settings.toData = some settings := by
  have unedited : Edited HostConfig.knows (fun _ => false) ["host"] settings.toData
      settings.toData := by
    unfold toData
    cases settings.maxTicks with
    | none =>
      exact .of_leaves ["log_level", "tick_interval_ms"] rfl (by decide) (by decide) (by simp)
    | some n =>
      exact .of_leaves ["log_level", "tick_interval_ms", "max_ticks"] rfl (by decide) (by decide)
        (by simp)
  exact ofData?_edited unedited surplus

end LoopSettings

namespace ScriptSettings

variable {settings : ScriptSettings}

/-- Script settings are read field by field. -/
lemma ofData?_of_fields
    (dir : (Section.named fields).field "dir" 0 ({} : ScriptSettings).dir .text = some settings.dir)
    (entry : (Section.named fields).field "entry" 1 ({} : ScriptSettings).entry .text =
      some settings.entry)
    (surplus : Surplus) : ofData? surplus (.object fields) = some settings := by
  simp only [ofData?, section?, Option.bind_eq_bind, Option.bind_some]
  rw [dir, entry]
  rfl

/-- Edited script settings have the defaults of what is deleted. -/
lemma ofData?_edited (edited : Edited HostConfig.knows deleted ["scripts"] settings.toData data)
    (surplus : Surplus) :
    ofData? surplus data = some (settings.reset deleted) := by
  obtain ⟨fields, rfl⟩ := edited.exists_object
  apply ofData?_of_fields
  · exact edited.field_leaf rfl rfl (Data.Reader.text_string _) nofun _ _
  · exact edited.field_leaf rfl rfl (Data.Reader.text_string _) nofun _ _

/-- Where nothing is edited, they are read as they were. -/
lemma ofData?_toData (settings : ScriptSettings) (surplus : Surplus) :
    ofData? surplus settings.toData = some settings := by
  have unedited : Edited HostConfig.knows (fun _ => false) ["scripts"] settings.toData
      settings.toData :=
    .of_leaves ["dir", "entry"] rfl (by decide) (by decide) (by simp)
  exact ofData?_edited unedited surplus

end ScriptSettings

namespace ReportSettings

variable {settings : ReportSettings}

/-- Report settings are read field by field. -/
lemma ofData?_of_fields
    (before : (Section.named fields).field "context_before" 0 ({} : ReportSettings).contextBefore
      .word32 = some settings.contextBefore)
    (after :
      (Section.named fields).field "context_after" 1 ({} : ReportSettings).contextAfter .word32 =
        some settings.contextAfter)
    (json : (Section.named fields).field "json" 2 ({} : ReportSettings).json .boolean =
      some settings.json)
    (surplus : Surplus) : ofData? surplus (.object fields) = some settings := by
  simp only [ofData?, section?, Option.bind_eq_bind, Option.bind_some]
  rw [before, after, json]
  rfl

/-- Edited report settings have the defaults of what is deleted. -/
lemma ofData?_edited (edited : Edited HostConfig.knows deleted ["diagnostics"] settings.toData data)
    (surplus : Surplus) :
    ofData? surplus data = some (settings.reset deleted) := by
  obtain ⟨fields, rfl⟩ := edited.exists_object
  apply ofData?_of_fields
  · exact edited.field_leaf rfl rfl (Data.Reader.word32_toNat _) nofun _ _
  · exact edited.field_leaf rfl rfl (Data.Reader.word32_toNat _) nofun _ _
  · exact edited.field_leaf rfl rfl (Data.Reader.boolean_boolean _) nofun _ _

/-- Where nothing is edited, they are read as they were. -/
lemma ofData?_toData (settings : ReportSettings) (surplus : Surplus) :
    ofData? surplus settings.toData = some settings := by
  have unedited : Edited HostConfig.knows (fun _ => false) ["diagnostics"] settings.toData
      settings.toData :=
    .of_leaves ["context_before", "context_after", "json"] rfl (by decide) (by decide) (by simp)
  exact ofData?_edited unedited surplus

end ReportSettings

namespace ModuleSettings

variable {settings : ModuleSettings} {name : String}

/-- The settings of a module are read field by field. -/
lemma ofData?_of_fields
    (enabled : (Section.named fields).field "enabled" 0 ({} : ModuleSettings).enabled .boolean =
      some settings.enabled)
    (surplus : Surplus) : ofData? surplus (.object fields) = some settings := by
  simp only [ofData?, section?, Option.bind_eq_bind, Option.bind_some]
  rw [enabled]
  rfl

/-- Edited settings of a module have the defaults of what is deleted. -/
lemma ofData?_edited
    (edited : Edited HostConfig.knows deleted ["modules", name] settings.toData data)
    (surplus : Surplus) : ofData? surplus data = some (settings.reset deleted name) := by
  obtain ⟨fields, rfl⟩ := edited.exists_object
  apply ofData?_of_fields
  exact edited.field_leaf rfl rfl (Data.Reader.boolean_boolean _) nofun _ _

/-- Where nothing is edited, they are read as they were. -/
lemma ofData?_toData (settings : ModuleSettings) (surplus : Surplus) :
    ofData? surplus settings.toData = some settings := by
  have unedited : Edited HostConfig.knows (fun _ => false) ["modules", ""] settings.toData
      settings.toData :=
    .of_leaves ["enabled"] rfl (by decide) (by decide) (by simp)
  exact ofData?_edited unedited surplus

end ModuleSettings

/-! ### Modules -/

/-- A setting under a new name comes last. -/
lemma setNamed_of_not_mem {α : Type} {name : String} {value : α} {xs : List (String × α)}
    (absent : name ∉ xs.map Prod.fst) : setNamed name value xs = xs ++ [(name, value)] := by
  induction xs with
  | nil => rfl
  | cons x xs ih =>
    obtain ⟨known, old⟩ := x
    rw [List.map_cons, List.mem_cons, not_or] at absent
    rw [setNamed, if_neg (Ne.symm absent.1), ih absent.2, List.cons_append]

namespace ModuleTable

variable {table : ModuleTable} {surplus : Surplus}

/-- A table is determined by its entries. -/
lemma eq_of_entries {other : ModuleTable} (same : table.entries = other.entries) :
    table = other := by
  cases table
  cases other
  cases same
  rfl

/-- The settings of a module are found under its name, for no other has it. -/
lemma find?_of_mem {name : String} {settings : ModuleSettings}
    (mem : (name, settings) ∈ table.entries) :
    table.find? name = some settings := by
  obtain ⟨entries, distinct⟩ := table
  change (name, settings) ∈ entries at mem
  have found : (entries.find? fun (known, _) => known == name) = some (name, settings) := by
    induction entries with
    | nil => cases mem
    | cons entry entries ih =>
      obtain ⟨known, old⟩ := entry
      rw [List.map_cons, List.nodup_cons] at distinct
      rw [List.find?_cons]
      dsimp only
      obtain same | mem := List.mem_cons.mp mem
      · cases same
        rw [beq_self_eq_true name]
      · have other : known ≠ name := by
          rintro rfl
          exact distinct.1 (List.mem_map.mpr ⟨_, mem, rfl⟩)
        rw [beq_eq_false_iff_ne.mpr other]
        exact ih distinct.2 mem
  rw [find?, found, Option.map_some]

/-- A field holds the settings of a module under its name. -/
def Holds (surplus : Surplus) (field : String × Data) (entry : String × ModuleSettings) : Prop :=
  field.1 = entry.1 ∧ ModuleSettings.ofData? surplus field.2 = some entry.2

/-- Settings that are read one after the other make up the table that holds them in this order. -/
lemma foldlM_insert {entries : List (String × ModuleSettings)}
    (holds : List.Forall₂ (Holds surplus) fields entries) (before : ModuleTable)
    (e : table.entries = before.entries ++ entries) :
    fields.foldlM
      (fun table (name, data) => (ModuleSettings.ofData? surplus data).map (table.insert name))
      before = some table := by
  induction holds generalizing before with
  | nil =>
    rw [List.append_nil] at e
    exact congrArg some (eq_of_entries e.symm)
  | @cons field entry fields entries own _ ih =>
    obtain ⟨name, data⟩ := field
    obtain ⟨_, settings⟩ := entry
    obtain ⟨rfl, reads⟩ := own
    have distinct := table.distinct
    rw [e, List.map_append] at distinct
    -- The names of the whole table are distinct, so this one is new and its settings come last.
    have absent : name ∉ before.entries.map Prod.fst := by
      intro mem
      exact (List.nodup_append.mp distinct).2.2 name mem name List.mem_cons_self rfl
    have next : (before.insert name settings).entries = before.entries ++ [(name, settings)] :=
      setNamed_of_not_mem absent
    rw [List.foldlM_cons]
    dsimp only at reads ⊢
    rw [reads]
    apply ih (before.insert name settings)
    rw [e, next, List.append_assoc]
    rfl

/-- A table is read from an object that holds its entries in order. -/
lemma ofData?_object (holds : List.Forall₂ (Holds surplus) fields table.entries) :
    ofData? surplus (.object fields) = some table :=
  foldlM_insert holds .empty rfl

/-- What is written of a table is read as that table. -/
lemma ofData?_toData (table : ModuleTable) (surplus : Surplus) :
    ofData? surplus table.toData = some table := by
  apply ofData?_object
  rw [List.forall₂_map_left_iff, List.forall₂_same]
  rintro ⟨name, settings⟩ _
  exact ⟨rfl, ModuleSettings.ofData?_toData settings surplus⟩

/-- The settings of modules are read in the order in which the modules are found. -/
lemma ofData?_edited (edited : Edited HostConfig.knows deleted ["modules"] table.toData data)
    (surplus : Surplus) :
    ∃ decoded, ofData? surplus data = some decoded ∧
      decoded.entries.Perm (table.reset deleted).entries := by
  obtain ⟨fields, rfl⟩ := edited.exists_object
  -- The order is that of the document, so what a name is mapped to is told by the name alone.
  let value (name : String) : String × ModuleSettings :=
    (name, ((table.find? name).getD {}).reset deleted name)
  have value_eq {name settings} (mem : (name, settings) ∈ table.entries) :
      value name = (name, settings.reset deleted name) := by
    change (name, ((table.find? name).getD {}).reset deleted name) = _
    rw [find?_of_mem mem, Option.getD_some]
  have names : (fields.map Prod.fst).Perm
      ((table.entries.map Prod.fst).filter fun name => !deleted ["modules", name]) := by
    have perm := edited.names_perm fun _ => rfl
    rw [List.map_map] at perm
    exact perm
  have wanted :
      ((table.entries.map Prod.fst).filter fun name => !deleted ["modules", name]).map value =
        (table.reset deleted).entries := by
    rw [List.filter_map, List.map_map]
    apply List.map_congr_left
    rintro ⟨name, settings⟩ mem
    exact value_eq (List.mem_of_mem_filter mem)
  have perm : ((fields.map Prod.fst).map value).Perm (table.reset deleted).entries := by
    rw [← wanted]
    exact names.map value
  let decoded : ModuleTable :=
    { entries := (fields.map Prod.fst).map value
      distinct := (perm.map Prod.fst).nodup_iff.mpr (table.reset deleted).distinct }
  refine ⟨decoded, ofData?_object ?_, perm⟩
  change List.Forall₂ (Holds surplus) fields ((fields.map Prod.fst).map value)
  rw [List.map_map, List.forall₂_map_right_iff, List.forall₂_same]
  rintro ⟨name, data⟩ mem
  have kept := names.mem_iff.mp (List.mem_map_of_mem mem)
  obtain ⟨⟨name, settings⟩, mem', rfl⟩ := List.mem_map.mp (List.mem_of_mem_filter kept)
  have before : (name, settings.toData) ∈
      table.entries.map fun (name, settings) => (name, settings.toData) :=
    List.mem_map_of_mem mem'
  refine ⟨rfl, ?_⟩
  change ModuleSettings.ofData? surplus data = some (value name).2
  rw [value_eq mem']
  exact ModuleSettings.ofData?_edited (edited.value before mem) surplus

/-- A table of which nothing is deleted stays as it is. -/
lemma reset_nothing (table : ModuleTable) : table.reset (fun _ => false) = table := by
  apply eq_of_entries
  have all : (table.entries.filter fun _ => !false) = table.entries :=
    List.filter_eq_self.mpr fun _ _ => rfl
  rw [reset]
  dsimp only
  rw [all]
  exact List.map_id table.entries

end ModuleTable

/-! ### Configurations -/

namespace HostConfig

/-- Configurations that differ in the order of their modules at most. -/
structure Alike (config other : HostConfig) : Prop where
  host : config.host = other.host
  scripts : config.scripts = other.scripts
  diagnostics : config.diagnostics = other.diagnostics
  modules : config.modules.entries.Perm other.modules.entries

/-- A configuration is read section by section. -/
lemma ofData?_of_fields {config : HostConfig} {surplus : Surplus}
    (host : (Section.named fields).field "host" 0 {} (LoopSettings.ofData? surplus) =
      some config.host)
    (scripts : (Section.named fields).field "scripts" 1 {} (ScriptSettings.ofData? surplus) =
      some config.scripts)
    (diagnostics : (Section.named fields).field "diagnostics" 2 {}
      (ReportSettings.ofData? surplus) = some config.diagnostics)
    (modules : (Section.named fields).field "modules" 3 .empty (ModuleTable.ofData? surplus) =
      some config.modules) :
    ofData? surplus (.object fields) = some config := by
  simp only [ofData?, section?, Option.bind_eq_bind, Option.bind_some]
  rw [host, scripts, diagnostics, modules]
  rfl

/-- Every document that a configuration may become by deleting sections and fields, by adding fields
that are not known and by bringing the fields into another order is read as the configuration with
defaults for what is deleted. -/
theorem config_of_edited (config : HostConfig) (surplus : Surplus) :
    (∀ deleted data, Edited knows deleted [] config.toData data →
      ∃ decoded, ofData? surplus data = some decoded ∧ decoded.Alike (config.reset deleted)) ∧
    config.reset (fun _ => false) = config ∧ ofData? surplus config.toData = some config := by
  refine ⟨?_, ?_, ?_⟩
  · intro deleted data edited
    obtain ⟨fields, rfl⟩ := edited.exists_object
    have modules : ∃ table,
        (Section.named fields).field "modules" 3 .empty (ModuleTable.ofData? surplus) =
          some table ∧
        if deleted ["modules"] then table = .empty
        else table.entries.Perm (config.modules.reset deleted).entries :=
      edited.exists_field rfl rfl (fun _ edited => ModuleTable.ofData?_edited edited surplus) _ _
    obtain ⟨table, found, becomes⟩ := modules
    refine ⟨{ config.reset deleted with modules := table },
      ofData?_of_fields ?_ ?_ ?_ found, rfl, rfl, rfl, ?_⟩
    · apply edited.field_eq rfl rfl
      exact fun _ edited => LoopSettings.ofData?_edited edited surplus
    · apply edited.field_eq rfl rfl
      exact fun _ edited => ScriptSettings.ofData?_edited edited surplus
    · apply edited.field_eq rfl rfl
      exact fun _ edited => ReportSettings.ofData?_edited edited surplus
    · rw [reset]
      dsimp only
      split at becomes
      case isTrue gone => rw [becomes, if_pos gone]
      case isFalse kept => rwa [if_neg kept]
  · exact congrArg (HostConfig.mk config.host config.scripts config.diagnostics)
      config.modules.reset_nothing
  · apply ofData?_of_fields
    · exact Section.field_of_some rfl (LoopSettings.ofData?_toData config.host surplus) _ _
    · exact Section.field_of_some rfl (ScriptSettings.ofData?_toData config.scripts surplus) _ _
    · exact Section.field_of_some rfl (ReportSettings.ofData?_toData config.diagnostics surplus) _ _
    · exact Section.field_of_some rfl (ModuleTable.ofData?_toData config.modules surplus) _ _

/-- A configuration with a tick limit and two modules. -/
def arena : HostConfig where
  host := { logLevel := "debug", tickIntervalMs := 16, maxTicks := some 3 }
  modules := ⟨[("core", { enabled := false }), ("economy", {})], by decide⟩

/-- Two sections, a field of another one, a module and the field of another one. -/
def arenaDeleted : Data.Place → Bool :=
  [["scripts"], ["diagnostics"], ["host", "tick_interval_ms"], ["modules", "economy"],
    ["modules", "core", "enabled"]].contains

/-- What is left of its loop settings, in another order and with a field that is not known. -/
def arenaHost : Data :=
  .object [("max_ticks", .integer 3), ("verbose", .boolean true), ("log_level", .string "debug")]

/-- What is left of its modules. -/
def arenaModules : Data :=
  .object [("core", .object [("colour", .string "red")])]

/-- That document is read as the configuration with the defaults of what is deleted. -/
theorem config_of_edited_arena :
    Edited knows arenaDeleted [] arena.toData
      (.object [("theme", .string "dark"), ("modules", arenaModules), ("host", arenaHost)]) ∧
    ∃ decoded, ofData? .refused
        (.object [("theme", .string "dark"), ("modules", arenaModules), ("host", arenaHost)]) =
          some decoded ∧
      decoded.Alike (arena.reset arenaDeleted) := by
  have host : Edited knows arenaDeleted ["host"] arena.host.toData arenaHost := by
    refine .object (by decide) ?_
    intro name data data' mem mem'
    simp only [List.mem_cons, List.not_mem_nil, or_false, Prod.mk.injEq] at mem'
    rcases mem' with ⟨rfl, rfl⟩ | ⟨rfl, rfl⟩ | ⟨rfl, rfl⟩
    · obtain rfl : data = .integer 3 := by simpa [arena] using mem
      exact .leaf nofun
    · exact absurd mem (by simp [arena])
    · obtain rfl : data = .string "debug" := by simpa [arena] using mem
      exact .leaf nofun
  have core : Edited knows arenaDeleted ["modules", "core"]
      (ModuleSettings.toData { enabled := false }) (.object [("colour", .string "red")]) := by
    refine .object (by decide) ?_
    intro name data data' mem mem'
    obtain ⟨rfl, rfl⟩ := Prod.mk.inj (List.mem_singleton.mp mem')
    exact absurd mem (by simp)
  have modules : Edited knows arenaDeleted ["modules"] arena.modules.toData arenaModules := by
    refine .object (by decide) ?_
    intro name data data' mem mem'
    obtain ⟨rfl, rfl⟩ := Prod.mk.inj (List.mem_singleton.mp mem')
    obtain rfl : data = ModuleSettings.toData { enabled := false } := by simpa [arena] using mem
    exact core
  have edited : Edited knows arenaDeleted [] arena.toData
      (.object [("theme", .string "dark"), ("modules", arenaModules), ("host", arenaHost)]) := by
    refine .object (by decide) ?_
    intro name data data' mem mem'
    simp only [List.mem_cons, List.not_mem_nil, or_false, Prod.mk.injEq] at mem'
    rcases mem' with ⟨rfl, rfl⟩ | ⟨rfl, rfl⟩ | ⟨rfl, rfl⟩
    · exact absurd mem (by simp)
    · obtain rfl : data = arena.modules.toData := by simpa using mem
      exact modules
    · obtain rfl : data = arena.host.toData := by simpa using mem
      exact host
  exact ⟨edited, (config_of_edited arena .refused).1 arenaDeleted _ edited⟩

end HostConfig

end LuaHost
