import LuaHost.Config.Document
import LuaHost.Data.Toml
import LuaHost.Event
import LuaHost.FileTree

/-!
# Configuration files

Loading the configuration from a TOML file, and making a file with the defaults where there is none.
-/

namespace LuaHost

/-- Why there is no configuration. -/
inductive ConfigError where
  /-- There is no directory for configurations. -/
  | noHome
  | unreadable (path : String)
  | unparsable (path : String)
  | noDirectory (path : String)
  | unwritable (path : String)
  | invalid (fault : ConfigFault)
  deriving DecidableEq, Repr

/-- The text of a configuration error. -/
def ConfigError.text : ConfigError → String
  | .noHome => "Failed to determine project directories"
  | .unreadable path => "Failed to read config file: " ++ path
  | .unparsable path => "Failed to parse config file: " ++ path
  | .noDirectory path => "Failed to create config directory: " ++ path
  | .unwritable path => "Failed to write default config file: " ++ path
  | .invalid fault => fault.text

namespace HostConfig

/-- The configuration in a TOML text. -/
def ofToml? (text : String) : Option HostConfig :=
  (Toml.parse? text).bind (ofData? .ignored)

/-- The configuration in the file at a path, whose text is read as TOML or in another way. -/
def load (files : FileTree) (path : String) (read : String → Option HostConfig := ofToml?) :
    Except ConfigError HostConfig :=
  match files.readText path with
  | .error _ => .error (.unreadable path)
  | .ok content =>
    match read content with
    | none => .error (.unparsable path)
    | some config =>
      match config.fault? with
      | some fault => .error (.invalid fault)
      | none => .ok config

/-- The path of the configuration file in a directory of configurations. -/
def defaultPath (configHome : String) : String :=
  Path.join configHome "scriptforge/config.toml"

/-- The lines of a configuration file that says what the defaults are. -/
def defaultLines : List String := [
  "# Scriptforge Host Configuration",
  "",
  "[host]",
  "# Log level: trace, debug, info, warn, error",
  "# RUST_LOG overrides this when set.",
  "# Default: \"info\"",
  "log_level = \"info\"",
  "",
  "# Milliseconds between on_tick(dt) calls",
  "# Default: 100",
  "tick_interval_ms = 100",
  "",
  "# Stop after this many ticks. Without it the host runs until Ctrl+C.",
  "# max_ticks = 600",
  "",
  "[scripts]",
  "# Directory holding scripts",
  "# Default: \"scripts\"",
  "dir = \"scripts\"",
  "",
  "# Entry script, relative to dir",
  "# Default: \"main.lua\"",
  "entry = \"main.lua\"",
  "",
  "[diagnostics]",
  "# Source lines shown around the failing line in error reports",
  "context_before = 3",
  "context_after = 1",
  "",
  "# Also print every error report as JSON on stdout",
  "json = false",
  "",
  "# Modules can be switched off by name:",
  "# [modules.core]",
  "# enabled = false"]

/-- The text of that file. -/
def defaultText : String :=
  String.join (defaultLines.map fun line => line ++ "\n")

/-- The tree with a directory for the file at a path. -/
def makeParent (files : FileTree) (path : String) : Except ConfigError FileTree :=
  match Path.parent? path with
  | none => .ok files
  | some parent =>
    match files.createDirectories parent with
    | .ok files => .ok files
    | .error _ => .error (.noDirectory parent)

/-- Makes a file with the defaults at a path. -/
def createDefault (files : FileTree) (path : String) : Except ConfigError (FileTree × List Event) :=
  match makeParent files path with
  | .error error => .error error
  | .ok files =>
    match files.writeText path defaultText with
    | .error _ => .error (.unwritable path)
    | .ok files => .ok (files, [log .info ("Created default configuration file at: " ++ path)])

/-- Loads the configuration from the default path, after making a file there if there is none.
Without a directory of configurations there is no such path. -/
def loadDefault (files : FileTree) (configHome : Option String)
    (read : String → Option HostConfig := ofToml?) :
    Except ConfigError HostConfig × FileTree × List Event :=
  match configHome with
  | none => (.error .noHome, files, [])
  | some configHome =>
    let path := defaultPath configHome
    if files.pathExists path then (load files path read, files, [])
    else
      match createDefault files path with
      | .error error => (.error error, files, [])
      | .ok (files, events) => (load files path read, files, events)

end HostConfig

end LuaHost
