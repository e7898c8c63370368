import LuaHost.Config.File
import LuaHost.Host
import LuaHost.Report.Json

/-!
# Command line

What the program does from its arguments to its exit: it loads the configuration, brings up the
modules, loads the script and ticks it until the configured number of ticks is reached or an
interrupt comes.
-/

namespace LuaHost

/-- Something written to standard output: a line of a script or a report. -/
inductive Output where
  | line (text : String)
  | report (report : Report)
  deriving DecidableEq, Repr

/-- The text that is written, without the end of its last line. -/
def Output.text : Output → String
  | .line text => text
  | .report r => r.toJson

namespace CommandLine

variable {M : Type} [HostModule M Engine]

/-- The configuration that is used: the one of the file, or the defaults if it cannot be loaded. -/
def configure (files : FileTree) (configHome : Option String)
    (read : String → Option HostConfig := HostConfig.ofToml?) : HostConfig × FileTree :=
  match HostConfig.loadDefault files configHome read with
  | (.ok config, files, _) => (config, files)
  | (.error _, files, _) => ({}, files)

/-- The path of the script: the first argument, or else the configured one. -/
def scriptPath (config : HostConfig) (arguments : List String) : String :=
  arguments.headD config.entryPath

/-- The line that a script printed, if an event is one. -/
def printed? : Event → Option Output
  | .printed text => some (.line text)
  | _ => none

/-- A host after a part of a run, the reports that it made meanwhile and what was written. -/
structure Progress (M : Type) where
  host : Host M
  reports : List Report
  output : List Output

namespace Progress

/-- A part of a run in which a host caused events and at most one report. Reports are written only
if they are `shown` and the configuration asks for it. -/
def ofEvents (host : Host M) (events : List Event) (report : Option Report) (shown : Bool) :
    Progress M :=
  { host
    reports := report.toList
    output := events.filterMap printed? ++
      if shown && host.config.diagnostics.json then report.toList.map Output.report else [] }

/-- A part of a run after another one. -/
def after (past next : Progress M) : Progress M :=
  { host := next.host, reports := past.reports ++ next.reports,
    output := past.output ++ next.output }

end Progress

/-- Brings up a host. -/
def launch (config : HostConfig) (engine : Engine) : Progress M :=
  let (host, built) := (Host.create config engine : Host M).registerBuiltin
  let (host, started) := host.start
  .ofEvents host (built ++ started) none true

/-- Loads the script at a path, and says whether that failed. -/
def loadScript (host : Host M) (files : FileTree) (path : String) : Option Report × Progress M :=
  let (result, host, events) := host.loadScript files path
  let report := Host.report? result
  (report, .ofEvents host events report true)

/-- Whether the configured number of ticks is reached. -/
def isDone (host : Host M) : Bool :=
  match host.config.host.maxTicks with
  | some limit => limit.toNat ≤ host.ticks
  | none => false

/-- One tick after some seconds. -/
def tick (host : Host M) (files : FileTree) (seconds : Float) : Progress M :=
  let (report, host, events) := host.tick files seconds
  .ofEvents host events report true

/-- Ticks a host until it is done, but at most a number of times. The seconds before each tick are
given by the number of ticks so far. -/
def ticks (files : FileTree) (seconds : Nat → Float) : Nat → Host M → Progress M
  | 0, host => { host, reports := [], output := [] }
  | count + 1, host =>
    let progress := tick host files (seconds host.ticks)
    if isDone progress.host then progress
    else progress.after (ticks files seconds count progress.host)

/-- Stops a host. -/
def stop (host : Host M) (files : FileTree) (shown : Bool) : Progress M :=
  let (report, host, events) := host.stop files
  .ofEvents host events report shown

/-- How a run of the program ends. -/
structure Run where
  exitCode : UInt8
  reports : List Report
  output : List Output
  /-- What is written to standard error. -/
  errors : List String
  files : FileTree

/-- The line on standard error about a script that does not load. -/
def failureLine (report : Report) : String :=
  "Error: " ++ report.header

/-- Runs the program; an interrupt comes after a number of ticks. If the script does not load, the
host is stopped at once, and a report of that is not written. -/
def run (M : Type) [HostModule M Engine] (files : FileTree) (configHome : Option String)
    (arguments : List String) (engine : Engine) (seconds : Nat → Float) (interruptAfter : Nat)
    (read : String → Option HostConfig := HostConfig.ofToml?) : Run :=
  let (config, files) := configure files configHome read
  let launched : Progress M := launch config engine
  let (failure, loaded) := loadScript launched.host files (scriptPath config arguments)
  let past := launched.after loaded
  match failure with
  | some report =>
    let progress := past.after (stop past.host files false)
    { exitCode := 1, reports := progress.reports, output := progress.output
      errors := [failureLine report], files }
  | none =>
    let past := past.after (ticks files seconds interruptAfter past.host)
    let progress := past.after (stop past.host files true)
    { exitCode := 0, reports := progress.reports, output := progress.output, errors := [], files }

end CommandLine

end LuaHost
