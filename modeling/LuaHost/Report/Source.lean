import LuaHost.Event
import LuaHost.FileTree
import LuaHost.Text.Quoted

/-!
# Sources for diagnostics

Where the text of a failing script is read from: the files, or texts kept in memory under their
paths, where a later text replaces an earlier one under an equal path.
-/

namespace LuaHost

open LuaHost.Text

/-- Gives the text of scripts. -/
inductive SourceProvider where
  | files
  | memory (sources : List (String × String))
  deriving DecidableEq, Repr

namespace SourceProvider

/-- The text served for a path, if there is one. A file that cannot be read is logged. -/
def read (provider : SourceProvider) (files : FileTree) (path : String) :
    Option String × List Event :=
  match provider with
  | .files =>
    match files.readText path with
    | .ok text => (some text, [])
    | .error error =>
      (none, [log .debug ("Source unavailable for " ++ quoted path ++ ": " ++ error.text)])
  | .memory sources =>
    let found := sources.filter fun (known, _) => Path.components known == Path.components path
    (found.getLast?.map Prod.snd, [])

end SourceProvider

end LuaHost
