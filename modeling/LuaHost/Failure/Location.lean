import LuaHost.Text.Basic
import LuaHost.Text.Search

/-!
# Source locations

A location is a source with an optional line, written `source` or `source:line`. Messages that start
with such a location, as in `main.lua:4: boom`, are *decorated*.
-/

namespace LuaHost

open LuaHost.Text

/-- A place in a script, or in native code. -/
structure Location where
  source : String
  line : Option UInt32
  deriving DecidableEq, Repr

namespace Location

/-- The source of native code. -/
def nativeSource : String := "[C]"

/-- Whether the location is in native code. -/
def isNative (location : Location) : Bool :=
  location.source == nativeSource

/-- The written form of a location. -/
def text (location : Location) : String :=
  match location.line with
  | some line => String.ofList (location.source.toList ++ ':' :: digits line.toNat)
  | none => location.source

/-- The location that a text denotes. Blanks around it are dropped; what follows the last colon is
the line if it is a numeral. -/
def parse (text : String) : Location :=
  let trimmed := trim text.toList
  let split := (splitAtLast? ':' trimmed).bind fun (source, line) =>
    (wordValue? line).map fun n => (source, n)
  match split with
  | some (source, line) => ⟨String.ofList source, some line⟩
  | none => ⟨String.ofList trimmed, none⟩

end Location

/-- The text between the first and the second colon of a message. -/
def betweenColons? (message : String) : Option (List Char) :=
  (splitAtFirst? ':' message.toList).bind fun (_, rest) =>
    (splitAtFirst? ':' rest).map Prod.fst

/-- The line that a decorated message names. -/
def messageLine? (message : String) : Option UInt32 :=
  (betweenColons? message).bind fun between => wordValue? (trim between)

/-- Whether cutting a message at its first two colons leaves a line number in the middle. -/
def isDecorated (message : String) : Bool :=
  match splitAll ':' message.toList with
  | _ :: line :: _ :: _ => (wordValue? (trim line)).isSome
  | _ => false

end LuaHost
