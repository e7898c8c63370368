import LuaHost.Text.Basic

/-!
# Code context

The lines of a source around a failing one. Line numbers and window sizes are 32-bit words; the
window is clamped to the source without wrap-around.
-/

namespace LuaHost

open LuaHost.Text

/-- How many lines are shown before and after the failing line. -/
structure ContextWindow where
  before : UInt32 := 3
  after : UInt32 := 1
  deriving DecidableEq, Repr

/-- One numbered source line. -/
structure ContextLine where
  number : UInt32
  text : String
  isError : Bool
  deriving DecidableEq, Repr

/-- Consecutive source lines around a failure. -/
structure CodeContext where
  lines : List ContextLine
  deriving DecidableEq, Repr

namespace CodeContext

/-- The difference of two words, zero if it would be negative. -/
def saturatingSub (a b : UInt32) : UInt32 :=
  if b ≤ a then a - b else 0

/-- The sum of two words, the largest word if it would be larger. -/
def saturatingAdd (a b : UInt32) : UInt32 :=
  if a.toNat + b.toNat < UInt32.size then a + b else UInt32.ofNat (UInt32.size - 1)

/-- The line that is marked as failing. -/
def errorLine? (context : CodeContext) : Option ContextLine :=
  context.lines.find? ContextLine.isError

/-- The first line of the window around `line`. -/
def firstLine (line : UInt32) (window : ContextWindow) : UInt32 :=
  max (saturatingSub line window.before) 1

/-- The last line of the window around `line` in a source of `total` lines. -/
def lastLine (line total : UInt32) (window : ContextWindow) : UInt32 :=
  min (saturatingAdd line window.after) total

/-- Lines with their numbers, counted from `number`. -/
def numbered (number : Nat) : List (List Char) → List (Nat × List Char)
  | [] => []
  | line :: rest => (number, line) :: numbered (number + 1) rest

/-- The window around `line`; none if that is no line of the source. -/
def cut? (source : String) (line : UInt32) (window : ContextWindow) : Option CodeContext :=
  let all := Text.lines source.toList
  let total := all.length
  if total < UInt32.size && line != 0 && line.toNat ≤ total then
    let first := firstLine line window
    let last := lastLine line (UInt32.ofNat total) window
    let shown := ((numbered 1 all).drop (first - 1).toNat).take (last - first + 1).toNat
    some
      { lines := shown.map fun (number, text) =>
          { number := UInt32.ofNat number
            text := String.ofList text
            isError := number == line.toNat } }
  else none

end CodeContext

end LuaHost
