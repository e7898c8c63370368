import LuaHost.CommandLine
import Std.Time.DateTime.Timestamp

/-!
# Main

The program: runs one script against the modules of the host.
-/

namespace LuaHost.Program

/-- What is at a path of the file system, put into a tree of files. -/
def withFile (files : FileTree) (path : String) : IO FileTree := do
  try
    return files.place path (.file (← IO.FS.readBinFile path))
  catch
    | .permissionDenied .. => return files.place path .sealed
    | _ => return files

/-- The directory of configurations, if there is one. -/
def configHome : IO (Option String) := do
  match (← IO.getEnv "XDG_CONFIG_HOME"), (← IO.getEnv "HOME") with
  | some path, _ => return some path
  | none, some home => return some (Path.join home ".config")
  | none, none => return none

/-- Writes a file that was made in a tree, with the directory it is in. -/
def save (files : FileTree) (path : String) : IO Unit := do
  match files.readText path with
  | .ok text =>
    if let some parent := Path.parent? path then IO.FS.createDirAll parent
    IO.FS.writeFile path text
  | .error _ => return

/-- Writes lines to standard output. -/
def write (output : List Output) : IO Unit :=
  output.forM fun line => IO.println line.text

/-- The time in milliseconds since 1970. -/
def clock : IO Nat :=
  return (← Std.Time.Timestamp.now).toMillisecondsSinceUnixEpoch.val.toNat

/-- The host at the present time. -/
def atPresent (host : Host Empty) : IO (Host Empty) :=
  return host.withEngine (host.engine.atTime (← clock))

/-- Waits for a number of milliseconds, in parts that can be waited for at once. -/
partial def pause (milliseconds : Nat) : IO Unit := do
  if milliseconds < UInt32.size then IO.sleep (UInt32.ofNat milliseconds)
  else
    IO.sleep (UInt32.ofNat (UInt32.size - 1))
    pause (milliseconds - (UInt32.size - 1))

/-- Ticks a host until it is done; `last` is the time of the tick before. -/
partial def tickLoop (host : Host Empty) (path : String) (last : Nat) : IO (Host Empty) := do
  let now ← IO.monoMsNow
  let progress :=
    CommandLine.tick (← atPresent host) (← withFile {} path) (Float.ofNat (now - last) / 1000)
  write progress.output
  if CommandLine.isDone progress.host then return progress.host
  pause host.config.host.tickIntervalMs.toNat
  tickLoop progress.host path now

end LuaHost.Program

open LuaHost LuaHost.Program

/-- Runs the program. -/
def main (arguments : List String) : IO UInt32 := do
  let home ← configHome
  let configPath? := home.map HostConfig.defaultPath
  let before ← match configPath? with
    | some configPath => withFile {} configPath
    | none => pure {}
  let (config, after) := CommandLine.configure before home
  if let some configPath := configPath? then
    if !before.isFile configPath then save after configPath
  let path := CommandLine.scriptPath config arguments
  let files ← withFile {} path
  let launched : CommandLine.Progress Empty := CommandLine.launch config (Engine.create (← clock))
  write launched.output
  let (failure, loaded) := CommandLine.loadScript launched.host files path
  write loaded.output
  match failure with
  | some report =>
    write (CommandLine.stop loaded.host files false).output
    IO.eprintln (CommandLine.failureLine report)
    return 1
  | none =>
    let host ← tickLoop loaded.host path (← IO.monoMsNow)
    write (CommandLine.stop (← atPresent host) (← withFile {} path) true).output
    return 0
