import LuaHost.Text.Search

/-!
# Path texts

A path is a text cut at slashes. Empty segments and the segment `.` count for nothing, except that
an empty first segment makes the path absolute and a leading `.` of a relative path is kept.
-/

namespace LuaHost.Path

open LuaHost.Text

/-- One step of a path. -/
inductive Component where
  | root
  | current
  | parent
  | named (name : String)
  deriving DecidableEq, Repr

/-- The segments of a path text. -/
def segments (path : String) : List (List Char) :=
  splitAll '/' path.toList

/-- Whether the path starts at the root. -/
def isAbsolute (path : String) : Bool :=
  path.toList.head? == some '/'

/-- Whether a segment that is not the first counts for nothing. -/
def isIdle (segment : List Char) : Bool :=
  segment.isEmpty || segment == ['.']

/-- The component that a segment stands for. -/
def Component.ofSegment (segment : List Char) : Component :=
  if segment == ['.', '.'] then .parent else .named (String.ofList segment)

/-- The components of a path. Two paths are equal when their components are. -/
def components (path : String) : List Component :=
  let body (segments : List (List Char)) :=
    (segments.filter fun segment => !isIdle segment).map Component.ofSegment
  if isAbsolute path then .root :: body (segments path)
  else
    match segments path with
    | ['.'] :: rest => .current :: body rest
    | all => body all

/-- The name of the last component, when it is a name. -/
def fileName? (path : String) : Option String :=
  match (components path).getLast? with
  | some (.named name) => some name
  | _ => none

/-- The segments of a relative path up to the last one that counts, and that one. -/
def dropIdleEnd (segments : List (List Char)) : List (List Char) :=
  match segments with
  | [] => []
  | first :: rest =>
    let kept := (rest.reverse.dropWhile isIdle).reverse
    if kept.isEmpty && first.isEmpty then [] else first :: kept

/-- The text of a list of segments. -/
def joinSegments (segments : List (List Char)) : String :=
  String.ofList (List.intercalate ['/'] segments)

/-- The path without its last component, as text; none for the empty path and the root. -/
def parent? (path : String) : Option String :=
  match components path with
  | [] => none
  | [.root] => none
  | _ =>
    if isAbsolute path then
      match dropIdleEnd (segments path) with
      | [] => none
      | kept =>
        match dropIdleEnd kept.dropLast with
        | [] => some "/"
        | front => some (joinSegments front)
    else
      some (joinSegments (dropIdleEnd (dropIdleEnd (segments path)).dropLast))

/-- The path `entry` as seen from `dir`: an absolute entry replaces it. -/
def join (dir entry : String) : String :=
  if isAbsolute entry then entry
  else if dir.isEmpty || dir.toList.getLast? == some '/' then dir ++ entry
  else dir ++ "/" ++ entry

end LuaHost.Path
