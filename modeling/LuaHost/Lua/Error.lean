import LuaHost.Failure.Traceback

/-!
# Errors of the interpreter

The ways in which running a script or calling a host function can fail, and the text of each.
-/

namespace LuaHost.Lua

open LuaHost.Text

/-- An error as the interpreter hands it to the host. -/
inductive Error where
  | runtime (message : String)
  | malformed (message : String) (incomplete : Bool)
  | memory (message : String)
  | safety (message : String)
  | external (message : String)
  | stackExhausted
  | bindTooMany
  | recursiveCallback
  | destructed
  | unresumable
  | badArgument (callee : Option String) (position : Nat) (name : Option String) (cause : Error)
  | toLua (source target : String) (message : Option String)
  | fromLua (source target : String) (message : Option String)
  | context (description : String) (cause : Error)
  /-- A host function failed with `cause`; `traceback` is the stack at its call. -/
  | callback (traceback : String) (cause : Error)
  deriving DecidableEq, Repr, Inhabited

namespace Error

/-- The traceback of the innermost of directly nested callbacks. -/
def innermostTraceback? : Error → Option String
  | .callback traceback cause => (innermostTraceback? cause).or (some traceback)
  | _ => none

/-- The text without any traceback headers in front of it. -/
def stripHeaders (cs : List Char) : List Char :=
  match Traceback.header.toList.isPrefixOf? cs with
  | some rest => if rest.length < cs.length then stripHeaders rest else cs
  | none => cs
termination_by cs.length

/-- The traceback section of a failed callback. With a deeper traceback, that one is shown, with a
mark where the outer one begins in it. -/
def tracebackText (outer : String) : Option String → List Char
  | none => trimEnd outer.toList
  | some full =>
    match splitFirst? (trim (stripHeaders outer.toList)) full.toList with
    | some (before, _) => before ++ '>' :: trimEnd (full.toList.drop before.length)
    | none => trimEnd full.toList

/-- A message in parentheses, after a space. -/
def parenthesized : Option String → String
  | some message => " (" ++ message ++ ")"
  | none => ""

/-- The text of an error, and the text of what lies below the callbacks around it. -/
def describe : Error → String × String
  | .runtime message => both ("runtime error: " ++ message)
  | .malformed message _ => both ("syntax error: " ++ message)
  | .memory message => both ("memory error: " ++ message)
  | .safety message => both ("safety error: " ++ message)
  | .external message => both message
  | .stackExhausted =>
    both "out of Lua stack, too many arguments to a Lua function or too many return values from a callback"
  | .bindTooMany => both "too many arguments to Function::bind"
  | .recursiveCallback => both "mutable callback called recursively"
  | .destructed => both "a destructed callback or destructed userdata method was called"
  | .unresumable => both "coroutine is non-resumable"
  | .badArgument callee position name cause =>
    let argument := match name with
      | some name => "bad argument \x60" ++ name ++ "\x60"
      | none => "bad argument #" ++ toString position
    let target := match callee with
      | some callee => " to \x60" ++ callee ++ "\x60"
      | none => ""
    both (argument ++ target ++ ": " ++ (describe cause).1)
  | .toLua source target message =>
    both ("error converting " ++ source ++ " to Lua " ++ target ++ parenthesized message)
  | .fromLua source target message =>
    both ("error converting Lua " ++ source ++ " to " ++ target ++ parenthesized message)
  | .context outer cause => both (outer ++ "\n" ++ (describe cause).1)
  | .callback traceback cause =>
    let root := (describe cause).2
    let stack := String.ofList (tracebackText traceback (innermostTraceback? cause))
    (root ++ "\n" ++ stack ++ "\n", root)
where
  both (text : String) : String × String := (text, text)

/-- The text of an error. -/
def text (error : Error) : String :=
  (describe error).1

end Error

end LuaHost.Lua
