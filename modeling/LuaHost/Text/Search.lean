/-!
# Searching in text

Text is cut at the first occurrence of a needle, or at the last occurrence of one character.
-/

namespace LuaHost.Text

/-- The text before and after the first occurrence of `needle`. -/
def splitFirst? (needle : List Char) : List Char → Option (List Char × List Char)
  | [] => if needle.isEmpty then some ([], []) else none
  | c :: cs =>
    match needle.isPrefixOf? (c :: cs) with
    | some rest => some ([], rest)
    | none => (splitFirst? needle cs).map fun (before, after) => (c :: before, after)

/-- Whether `needle` occurs in the text. -/
def occurs (needle cs : List Char) : Bool :=
  (splitFirst? needle cs).isSome

/-- The text before and after the first `sep`. -/
def splitAtFirst? (sep : Char) : List Char → Option (List Char × List Char)
  | [] => none
  | c :: cs =>
    if c = sep then some ([], cs)
    else (splitAtFirst? sep cs).map fun (before, after) => (c :: before, after)

/-- The text before and after the last `sep`. -/
def splitAtLast? (sep : Char) : List Char → Option (List Char × List Char)
  | [] => none
  | c :: cs =>
    match splitAtLast? sep cs with
    | some (before, after) => some (c :: before, after)
    | none => if c = sep then some ([], cs) else none

/-- The pieces between all occurrences of `sep`; never empty. -/
def splitAll (sep : Char) : List Char → List (List Char)
  | [] => [[]]
  | c :: cs =>
    if c = sep then [] :: splitAll sep cs
    else
      match splitAll sep cs with
      | [] => [[c]]
      | piece :: pieces => (c :: piece) :: pieces

end LuaHost.Text
