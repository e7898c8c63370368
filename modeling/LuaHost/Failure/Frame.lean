import LuaHost.Failure.Location

/-!
# Stack frames

A frame says which function was running and where. One line of a traceback describes one frame, as
in `main.lua:3: in local 'inner'`.
-/

namespace LuaHost

open LuaHost.Text

/-- One entry of a call stack. -/
structure Frame where
  name : Option String
  location : Option Location
  deriving DecidableEq, Repr

namespace Frame

/-- Whether the frame is in native code. -/
def isNative (frame : Frame) : Bool :=
  frame.location.any Location.isNative

/-- What separates the location of a frame from what was running there. -/
def separator : List Char := ": in ".toList

/-- How the body of a script is called. -/
def mainChunk : String := "main chunk"

/-- The text between the first and the last quote, if there is any. -/
def betweenQuotes? (cs : List Char) : Option (List Char) :=
  (splitAtFirst? '\'' cs).bind fun (_, rest) =>
    (splitAtLast? '\'' rest).bind fun (name, _) =>
      if name.isEmpty then none else some name

/-- The name in the description of a running function, if it has one. -/
def nameOf? (what : List Char) : Option String :=
  if what == mainChunk.toList then some mainChunk
  else if what == ['?'] || "function <".toList.isPrefixOf what then none
  else (betweenQuotes? what).map String.ofList

/-- The frame that one line of a traceback describes. -/
def parse? (line : List Char) : Option Frame :=
  (splitFirst? separator (trim line)).map fun (location, what) =>
    { name := nameOf? (trim what)
      location := some (Location.parse (String.ofList location)) }

end Frame

end LuaHost
