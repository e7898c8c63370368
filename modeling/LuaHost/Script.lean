import LuaHost.FileTree
import LuaHost.Lua.Error

/-!
# Scripts

A script has a display name, which messages show, the path it was read from, and its code.
-/

namespace LuaHost

/-- Setting up the engine or feeding it a script failed. -/
inductive EngineError where
  | scriptNotFound (path : String)
  | invalidScript (reason : String)
  | binding (reason : String)
  | lua (error : Lua.Error)
  | io (reason : String)
  deriving DecidableEq, Repr

/-- The text of an engine error. -/
def EngineError.text : EngineError → String
  | .scriptNotFound path => "Script not found: " ++ path
  | .invalidScript reason => "Invalid script: " ++ reason
  | .binding reason => "Binding error: " ++ reason
  | .lua error => "Lua error: " ++ error.text
  | .io reason => "IO error: " ++ reason

/-- A script that can be handed to the engine. -/
structure Script where
  name : String
  path : String
  code : String
  deriving DecidableEq, Repr

namespace Script

/-- The name under which the interpreter compiles the script; the mark makes it show the name as
is. -/
def chunkName (script : Script) : String :=
  "@" ++ script.name

/-- The script in the file at a path, named after the file. -/
def read (files : FileTree) (path : String) : Except EngineError Script :=
  if files.isFile path then
    match Path.fileName? path with
    | none => .error (.invalidScript (path ++ " has no file name"))
    | some name =>
      match files.readText path with
      | .ok code => .ok { name, path, code }
      | .error error => .error (.io error.text)
  else .error (.scriptNotFound path)

end Script

end LuaHost
