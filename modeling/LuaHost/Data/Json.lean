import LuaHost.Data.Basic
import LuaHost.Text.Basic

/-!
# JSON

Writing documents as JSON, in one line or indented by two spaces, and reading them back. In strings
the quote, the backslash and the characters below the space are escaped, nothing else.
-/

namespace LuaHost.Json

open LuaHost.Text

/-- A hexadecimal digit in lower case. -/
def hexDigit (n : Nat) : Char :=
  Nat.digitChar n

/-- A character as it stands in a JSON string. -/
def escape (c : Char) : List Char :=
  if c = '"' then ['\\', '"']
  else if c = '\\' then ['\\', '\\']
  else if c = '\n' then ['\\', 'n']
  else if c = '\r' then ['\\', 'r']
  else if c = '\t' then ['\\', 't']
  else if c = '\x08' then ['\\', 'b']
  else if c = '\x0c' then ['\\', 'f']
  else if c.toNat < 0x20 then
    ['\\', 'u', '0', '0', hexDigit (c.toNat / 16), hexDigit (c.toNat % 16)]
  else [c]

/-- A JSON string. -/
def writeString (s : String) : List Char :=
  '"' :: s.toList.flatMap escape ++ ['"']

/-- The digits of an integer. -/
def writeInteger (n : Int) : List Char :=
  if n < 0 then '-' :: digits n.natAbs else digits n.natAbs

/-- A value without parts; none for arrays and objects that have some. -/
def writeLeaf? : Data → Option (List Char)
  | .null => some ['n', 'u', 'l', 'l']
  | .boolean true => some ['t', 'r', 'u', 'e']
  | .boolean false => some ['f', 'a', 'l', 's', 'e']
  | .integer n => some (writeInteger n)
  | .real literal => some literal.toList
  | .string s => some (writeString s)
  | .array [] => some ['[', ']']
  | .object [] => some ['\x7b', '\x7d']
  | _ => none

/-- A line break and the indentation of a depth. -/
def newline (depth : Nat) : List Char :=
  '\n' :: List.replicate (2 * depth) ' '

mutual

/-- The indented form of a value at a depth. -/
def pretty (depth : Nat) : Data → List Char
  | .array (first :: rest) =>
    '[' :: newline (depth + 1) ++ pretty (depth + 1) first ++ prettyItems depth rest ++ [']']
  | .object ((key, first) :: rest) =>
    '\x7b' :: newline (depth + 1) ++ writeString key ++ ':' :: ' ' :: pretty (depth + 1) first ++
      prettyFields depth rest ++ ['\x7d']
  | leaf => (writeLeaf? leaf).getD []

/-- The items after the first one of an array at a depth, up to its bracket. -/
def prettyItems (depth : Nat) : List Data → List Char
  | [] => newline depth
  | item :: rest =>
    ',' :: newline (depth + 1) ++ pretty (depth + 1) item ++ prettyItems depth rest

/-- The fields after the first one of an object at a depth, up to its brace. -/
def prettyFields (depth : Nat) : List (String × Data) → List Char
  | [] => newline depth
  | (key, item) :: rest =>
    ',' :: newline (depth + 1) ++ writeString key ++ ':' :: ' ' :: pretty (depth + 1) item ++
      prettyFields depth rest

end

mutual

/-- The form of a value in one line. -/
def compact : Data → List Char
  | .array (first :: rest) => '[' :: compact first ++ compactItems rest
  | .object ((key, first) :: rest) =>
    '\x7b' :: writeString key ++ ':' :: compact first ++ compactFields rest
  | leaf => (writeLeaf? leaf).getD []

/-- The items after the first one of an array. -/
def compactItems : List Data → List Char
  | [] => [']']
  | item :: rest => ',' :: compact item ++ compactItems rest

/-- The fields after the first one of an object. -/
def compactFields : List (String × Data) → List Char
  | [] => ['\x7d']
  | (key, item) :: rest => ',' :: writeString key ++ ':' :: compact item ++ compactFields rest

end

/-- The indented text of a document. -/
def prettyText (data : Data) : String :=
  String.ofList (pretty 0 data)

/-- The text of a document in one line. -/
def compactText (data : Data) : String :=
  String.ofList (compact data)

/-! ### Reading -/

/-- A text without the blanks of the format in front of it. -/
def skipBlanks (cs : List Char) : List Char :=
  cs.dropWhile fun c => c == ' ' || c == '\n' || c == '\r' || c == '\t'

/-- The value of a hexadecimal digit. -/
def hexValue? (c : Char) : Option Nat :=
  if '0' ≤ c && c ≤ '9' then some (c.toNat - '0'.toNat)
  else if 'a' ≤ c && c ≤ 'f' then some (c.toNat - 'a'.toNat + 10)
  else if 'A' ≤ c && c ≤ 'F' then some (c.toNat - 'A'.toNat + 10)
  else none

/-- The 16-bit unit that four hexadecimal digits denote. -/
def unitValue? (a b c d : Char) : Option Nat := do
  let a ← hexValue? a
  let b ← hexValue? b
  let c ← hexValue? c
  let d ← hexValue? d
  some (((a * 16 + b) * 16 + c) * 16 + d)

/-- The character of a unit that is not half of a pair. -/
def unitChar? (n : Nat) : Option Char :=
  if 0xD800 ≤ n && n ≤ 0xDFFF then none else some (Char.ofNat n)

/-- The character of a pair of units. -/
def pairChar? (high low : Nat) : Option Char :=
  if 0xD800 ≤ high && high ≤ 0xDBFF && 0xDC00 ≤ low && low ≤ 0xDFFF then
    some (Char.ofNat (0x10000 + (high - 0xD800) * 0x400 + (low - 0xDC00)))
  else none

/-- The character that a one-letter escape denotes. -/
def shortEscape? : Char → Option Char
  | '"' => some '"'
  | '\\' => some '\\'
  | '/' => some '/'
  | 'b' => some '\x08'
  | 'f' => some '\x0c'
  | 'n' => some '\n'
  | 'r' => some '\r'
  | 't' => some '\t'
  | _ => none

/-- The content of a string up to its closing quote, and the text after that. -/
def readString : List Char → Option (List Char × List Char)
  | [] => none
  | '"' :: rest => some ([], rest)
  | '\\' :: 'u' :: a :: b :: c :: d :: rest =>
    match unitValue? a b c d with
    | none => none
    | some unit =>
      match unitChar? unit with
      | some char => (readString rest).map fun (s, after) => (char :: s, after)
      | none =>
        match rest with
        | '\\' :: 'u' :: e :: f :: g :: h :: rest =>
          match (unitValue? e f g h).bind (pairChar? unit) with
          | some char => (readString rest).map fun (s, after) => (char :: s, after)
          | none => none
        | _ => none
  | '\\' :: c :: rest =>
    match shortEscape? c with
    | some char => (readString rest).map fun (s, after) => (char :: s, after)
    | none => none
  | c :: rest =>
    if c.toNat < 0x20 || c = '\\' then none
    else (readString rest).map fun (s, after) => (c :: s, after)

/-- The integer part of a number: one zero, or digits that do not start with zero. -/
def readWhole : List Char → Option (List Char × List Char)
  | '0' :: rest => some (['0'], rest)
  | cs =>
    let whole := cs.takeWhile Char.isDigit
    if whole.isEmpty then none else some (whole, cs.dropWhile Char.isDigit)

/-- The fraction part of a number, with its point; empty if there is none. -/
def readFraction : List Char → Option (List Char × List Char)
  | '.' :: cs =>
    let fraction := cs.takeWhile Char.isDigit
    if fraction.isEmpty then none else some ('.' :: fraction, cs.dropWhile Char.isDigit)
  | cs => some ([], cs)

/-- The exponent part of a number, with its mark; empty if there is none. -/
def readExponent : List Char → Option (List Char × List Char)
  | [] => some ([], [])
  | mark :: cs =>
    if mark = 'e' || mark = 'E' then
      let (sign, rest) := match cs with
        | '+' :: rest => (['+'], rest)
        | '-' :: rest => (['-'], rest)
        | rest => ([], rest)
      let exponent := rest.takeWhile Char.isDigit
      if exponent.isEmpty then none
      else some (mark :: sign ++ exponent, rest.dropWhile Char.isDigit)
    else some ([], mark :: cs)

/-- A number. Negative zero is no integer. -/
def readNumber (cs : List Char) : Option (Data × List Char) := do
  let (negative, rest) := match cs with
    | '-' :: rest => (true, rest)
    | rest => (false, rest)
  let (whole, rest) ← readWhole rest
  let (fraction, rest) ← readFraction rest
  let (exponent, rest) ← readExponent rest
  let value : Int := Nat.ofDigitChars 10 whole 0
  if fraction.isEmpty && exponent.isEmpty && !(negative && value == 0) then
    some (.integer (if negative then -value else value), rest)
  else
    let literal := whole ++ fraction ++ exponent
    some (.real (String.ofList (if negative then '-' :: literal else literal)), rest)

mutual

/-- A value, and the text after it. -/
def readValue (fuel : Nat) (cs : List Char) : Option (Data × List Char) :=
  match fuel with
  | 0 => none
  | fuel + 1 =>
    match skipBlanks cs with
    | 'n' :: 'u' :: 'l' :: 'l' :: rest => some (.null, rest)
    | 't' :: 'r' :: 'u' :: 'e' :: rest => some (.boolean true, rest)
    | 'f' :: 'a' :: 'l' :: 's' :: 'e' :: rest => some (.boolean false, rest)
    | '"' :: rest => (readString rest).map fun (s, after) => (.string (String.ofList s), after)
    | '[' :: rest =>
      match skipBlanks rest with
      | ']' :: after => some (.array [], after)
      | _ => (readItems fuel rest).map fun (items, after) => (.array items, after)
    | '\x7b' :: rest =>
      match skipBlanks rest with
      | '\x7d' :: after => some (.object [], after)
      | _ => (readFields fuel rest).map fun (fields, after) => (.object fields, after)
    | other => readNumber other

/-- The items of an array up to its bracket, at least one. -/
def readItems (fuel : Nat) (cs : List Char) : Option (List Data × List Char) :=
  match fuel with
  | 0 => none
  | fuel + 1 =>
    match readValue fuel cs with
    | none => none
    | some (item, rest) =>
      match skipBlanks rest with
      | ']' :: after => some ([item], after)
      | ',' :: after => (readItems fuel after).map fun (items, after) => (item :: items, after)
      | _ => none

/-- The fields of an object up to its brace, at least one. -/
def readFields (fuel : Nat) (cs : List Char) : Option (List (String × Data) × List Char) :=
  match fuel with
  | 0 => none
  | fuel + 1 =>
    match skipBlanks cs with
    | '"' :: rest =>
      match readString rest with
      | none => none
      | some (key, rest) =>
        match skipBlanks rest with
        | ':' :: rest =>
          match readValue fuel rest with
          | none => none
          | some (item, rest) =>
            let field := (String.ofList key, item)
            match skipBlanks rest with
            | '\x7d' :: after => some ([field], after)
            | ',' :: after =>
              (readFields fuel after).map fun (fields, after) => (field :: fields, after)
            | _ => none
        | _ => none
    | _ => none

end

/-- The document that a JSON text denotes. Each value, item and field takes at least one character,
so the length of the text bounds the depth of the calls. -/
def parse? (text : String) : Option Data :=
  let cs := text.toList
  match readValue (2 * cs.length + 2) cs with
  | some (data, rest) => if (skipBlanks rest).isEmpty then some data else none
  | none => none

end LuaHost.Json
