import LuaHost.Lua.Heap

/-!
# Library

The global variables of a new interpreter. Of most library functions only the names matter to a
host: they take global names, and calling them fails.
-/

namespace LuaHost.Lua.Library

/-- The version of the language, as scripts see it. -/
def version : String := "Lua 5.4"

/-- The global functions. -/
def functions : List (String × Native) :=
  [("print", .print), ("error", .error), ("pcall", .pcall), ("assert", .assert), ("type", .type),
    ("tostring", .tostring), ("tonumber", .tonumber)] ++
  (["collectgarbage", "dofile", "getmetatable", "ipairs", "load", "loadfile", "next", "pairs",
    "rawequal", "rawget", "rawlen", "rawset", "require", "select", "setmetatable", "warn",
    "xpcall"].map fun name => (name, .absent name))

/-- Library functions that cannot be called. -/
def absent (names : List String) : List (String × Native) :=
  names.map fun name => (name, .absent name)

/-- The name of the library that also answers for the methods of strings. -/
def stringName : String := "string"

/-- The libraries with their functions. -/
def libraries : List (String × List (String × Native)) :=
  [(stringName, ("rep", .rep) :: absent ["byte", "char", "dump", "find", "format", "gmatch", "gsub",
      "len", "lower", "match", "pack", "packsize", "reverse", "sub", "unpack", "upper"]),
    ("coroutine", absent ["close", "create", "isyieldable", "resume", "running", "status", "wrap",
      "yield"]),
    ("table", absent ["concat", "insert", "move", "pack", "remove", "sort", "unpack"]),
    ("io", absent ["close", "flush", "input", "lines", "open", "output", "popen", "read", "tmpfile",
      "type", "write"]),
    ("os", absent ["clock", "date", "difftime", "execute", "exit", "getenv", "remove", "rename",
      "setlocale", "time", "tmpname"]),
    ("math", absent ["abs", "acos", "asin", "atan", "ceil", "cos", "deg", "exp", "floor", "fmod",
      "log", "max", "min", "modf", "rad", "random", "randomseed", "sin", "sqrt", "tan", "tointeger",
      "type", "ult"]),
    ("utf8", absent ["char", "codepoint", "codes", "len", "offset"]),
    ("package", absent ["loadlib", "searchpath"])]

/-- The address of the table of the string library. -/
def stringTable : Nat := 1

/-- The addresses of the library tables, with their names. -/
def tables : List (String × Nat) :=
  libraries.mapIdx fun i library => (library.1, i + 1)

/-- Puts functions into a table. -/
def install (heap : Heap) (table : Nat) (natives : List (String × Native)) : Heap :=
  natives.foldl
    (fun heap (name, native) =>
      let (address, heap) := heap.newFunction (.native native)
      heap.set table (.string name) (.function address))
    heap

/-- The shared state of a new interpreter. -/
def start (clock : Nat) : Heap :=
  let empty : Heap :=
    { tables := #[{}], functions := #[], cells := #[], failures := #[], logged := 0, clock }
  let heap := install empty Heap.globals functions
  let heap := libraries.foldl
    (fun heap library =>
      let (address, heap) := heap.newTable {}
      install (heap.setGlobal library.1 (.table address)) address library.2)
    heap
  (heap.setGlobal "_G" (.table Heap.globals)).setGlobal "_VERSION" (.string version)

/-- The name under which a function is found in the global variables or in a library. -/
def nameOf? (heap : Heap) (function : Nat) : Option String :=
  match nameIn? Heap.globals with
  | some name => some name
  | none => tables.findSome? fun (library, address) => (nameIn? address).map (library ++ "." ++ ·)
where
  nameIn? (table : Nat) : Option String :=
    (heap.tables.getD table {}).entries.findSome? fun
      | (.string name, .function address) => if address = function then some name else none
      | _ => none

end LuaHost.Lua.Library
