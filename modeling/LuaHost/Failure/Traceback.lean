import LuaHost.Failure.Frame
import LuaHost.Text.Basic

/-!
# Tracebacks

A traceback is a text with a header and one line per frame, the innermost first. Reading it gives
the frames back, less the native ones in front, which belong to the machinery that raised the error.
-/

namespace LuaHost

open LuaHost.Text

namespace Traceback

/-- The header of a traceback. -/
def header : String := "stack traceback:"

/-- The part of a text that holds frames: what follows the first header, or all of it. -/
def body (text : List Char) : List Char :=
  match splitFirst? header.toList text with
  | some (_, after) => after
  | none => text

/-- Frames without the native ones in front; all of them if there are no others. -/
def dropNative (frames : List Frame) : List Frame :=
  if frames.all Frame.isNative then frames else frames.dropWhile Frame.isNative

/-- The frames of a traceback, innermost first. Lines that describe no frame are skipped. -/
def parse (text : String) : List Frame :=
  dropNative ((lines (body text.toList)).filterMap Frame.parse?)

end Traceback

end LuaHost
