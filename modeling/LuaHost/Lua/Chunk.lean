import LuaHost.Lua.Machine
import LuaHost.Lua.Parser

/-!
# Chunks

Loading the text of a script: under a name, which messages show in a short form, it becomes a
function without parameters.
-/

namespace LuaHost.Lua.Chunk

/-- The most bytes of a name that messages show. -/
def shownBytes : Nat := 59

/-- What stands for the part of a name that is left out. -/
def ellipsis : String := "..."

/-- The last `limit` bytes of a text that is given backwards, forwards. Bytes of a character that is
cut are shown as replacement characters. -/
def lastBytes (limit : Nat) : List Char → List Char
  | [] => []
  | c :: cs =>
    if c.utf8Size ≤ limit then lastBytes (limit - c.utf8Size) cs ++ [c]
    else List.replicate limit '\uFFFD'

/-- The form of a name that messages show. -/
def shownName (name : String) : String :=
  if name.utf8ByteSize ≤ shownBytes then name
  else
    ellipsis ++ String.ofList (lastBytes (shownBytes - ellipsis.utf8ByteSize) name.toList.reverse)

/-- The mark in front of a name. -/
def mark : Char := '@'

/-- The number of bytes before the first NUL in a name, if there is one. -/
def nulPosition? : List Char → Option Nat
  | [] => none
  | c :: cs => if c == '\x00' then some 0 else (nulPosition? cs).map (c.utf8Size + ·)

/-- The byte that starts compiled code. -/
def compiledMark : Char := '\x1b'

/-- The version of compiled code. -/
def compiledVersion : UInt8 := 0x54

/-- What is wrong with code that is compiled, going by what follows its mark. No text is compiled
code: its header has bytes that no text has. -/
def compiledFault (bytes : List UInt8) : String :=
  let signature := "Lua".toUTF8.toList
  if bytes.length < signature.length then "truncated chunk"
  else if !signature.isPrefixOf bytes then "not a binary chunk"
  else
    match bytes.drop signature.length with
    | [] => "truncated chunk"
    | version :: rest =>
      if version != compiledVersion then "version mismatch"
      else
        match rest with
        | [] => "truncated chunk"
        | format :: check =>
          if format != 0 then "format mismatch"
          else if check.length < 6 then "truncated chunk"
          else "corrupted chunk"

/-- The function whose code a text is. -/
def compile (name code : String) : Except String Function :=
  match code.toList with
  | first :: rest =>
    if first == compiledMark then
      .error (name ++ ": bad binary format (" ++
        compiledFault (String.ofList rest).toUTF8.toList ++ ")")
    else Parser.parse (shownName name) code
  | [] => Parser.parse (shownName name) code

/-- The error of a script whose text is no chunk. -/
def malformed (message : String) : Error :=
  .malformed message ("<eof>".toList.isSuffixOf message.toList)

/-- The function that a script is. -/
def load (heap : Heap) (name code : String) : Except Error (Nat × Heap) :=
  match nulPosition? (mark :: name.toList) with
  | some position =>
    .error (.runtime
      ("invalid name: nul byte found in provided data at position: " ++ toString position))
  | none =>
    match compile name code with
    | .error message => .error (malformed message)
    | .ok function => .ok (heap.newFunction (.closure function (shownName name) []))

end LuaHost.Lua.Chunk
