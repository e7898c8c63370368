import LuaHost.Data.Json
import LuaHost.Decimal.Reading

/-!
# TOML

Reading TOML 1.0 documents. A document is a sequence of lines; headers open tables, key lines put
values into them. A table can be opened once, and what a key line or an inline table has closed
stays closed. A date or a time is kept as an object with one field that holds its text.
-/

namespace LuaHost.Toml

open LuaHost.Text

/-! ### Tables -/

/-- How a table came about: on the way to another header, by a dotted key, or by its own header. -/
inductive Origin where
  | passed
  | dotted
  | opened
  deriving DecidableEq, Repr

/-- What a key of a table holds: a closed value, a table, or an array of tables. -/
inductive Item where
  | value (data : Data)
  | table (origin : Origin) (entries : List (String × Item))
  | tables (all : List (List (String × Item)))
  deriving Inhabited

/-- The content of a table. -/
abbrev Entries := List (String × Item)

/-- The item under a key. -/
def lookup? (key : String) (entries : Entries) : Option Item :=
  (entries.find? fun (known, _) => known == key).map Prod.snd

/-- The table with an item under a key. -/
def assign (key : String) (item : Item) : Entries → Entries
  | [] => [(key, item)]
  | (known, old) :: rest =>
    if known == key then (known, item) :: rest else (known, old) :: assign key item rest

/-- Changes the table that a key leads to: a table, or the last of an array of tables. Where there
is nothing, a table of a given origin is made. -/
def descend (key : String) (made : Origin) (admits : Origin → Bool)
    (change : Entries → Option Entries) (entries : Entries) : Option Entries :=
  match lookup? key entries with
  | none => (change []).map fun inner => assign key (.table made inner) entries
  | some (.table origin inner) =>
    if admits origin then (change inner).map fun inner => assign key (.table origin inner) entries
    else none
  | some (.tables all) =>
    match all.getLast? with
    | some last =>
      (change last).map fun last => assign key (.tables (all.dropLast ++ [last])) entries
    | none => none
  | some (.value _) => none

/-- Puts a value under a key that is not taken. -/
def insertNew (key : String) (data : Data) (entries : Entries) : Option Entries :=
  match lookup? key entries with
  | none => some (entries ++ [(key, .value data)])
  | some _ => none

/-- Whether the key leads to a table that a dotted key may put values into. -/
def takesDotted (key : String) (entries : Entries) : Bool :=
  match lookup? key entries with
  | none => true
  | some (.table origin _) => origin == .dotted
  | some _ => false

/-- Puts a value under a dotted key. Tables on the way must not have been opened by a header, and
the last one must be of dotted keys alone. -/
def insertDotted (key : String) (data : Data) : List String → Entries → Option Entries
  | [], entries => insertNew key data entries
  | [last], entries =>
    if takesDotted last entries then descend last .dotted (· != .opened)
      (insertNew key data) entries
    else none
  | step :: path, entries =>
    descend step .dotted (· != .opened) (insertDotted key data path) entries

/-- Changes the table at the path of a header. -/
def changeAt (change : Entries → Option Entries) : List String → Entries → Option Entries
  | [], entries => change entries
  | step :: path, entries => descend step .passed (fun _ => true) (changeAt change path) entries

/-- Opens a table under a key: a new one, or one that other headers have passed. -/
def openTable (key : String) (entries : Entries) : Option Entries :=
  match lookup? key entries with
  | none => some (entries ++ [(key, .table .opened [])])
  | some (.table .passed inner) => some (assign key (.table .opened inner) entries)
  | some _ => none

/-- Adds a table to the array of tables under a key. -/
def openElement (key : String) (entries : Entries) : Option Entries :=
  match lookup? key entries with
  | none => some (entries ++ [(key, .tables [[]])])
  | some (.tables all) => some (assign key (.tables (all ++ [[]])) entries)
  | some _ => none

mutual

/-- An item as a document value. -/
def Item.toData : Item → Data
  | .value data => data
  | .table _ entries => .object (entriesToData entries)
  | .tables all => .array (tablesToData all)

/-- The content of a table as fields. -/
def entriesToData : List (String × Item) → List (String × Data)
  | [] => []
  | (key, item) :: rest => (key, item.toData) :: entriesToData rest

/-- The tables of an array as objects. -/
def tablesToData : List (List (String × Item)) → List Data
  | [] => []
  | entries :: rest => .object (entriesToData entries) :: tablesToData rest

end

/-! ### Text -/

/-- A blank within a line. -/
def isSpace (c : Char) : Bool := c == ' ' || c == '\t'

/-- A text without the blanks in front of it. -/
def skipSpaces (cs : List Char) : List Char := cs.dropWhile isSpace

/-- What follows a newline at the front of a text. -/
def newline? : List Char → Option (List Char)
  | '\n' :: rest => some rest
  | '\r' :: '\n' :: rest => some rest
  | _ => none

/-- A character that may stand in a comment. -/
def isCommentChar (c : Char) : Bool := c == '\t' || 0x20 ≤ c.toNat

/-- What follows an optional comment; it starts with the end of the line. -/
def skipComment : List Char → List Char
  | '#' :: rest => rest.dropWhile isCommentChar
  | cs => cs

/-- What follows the end of a line, after blanks and an optional comment. -/
def lineEnd? (cs : List Char) : Option (List Char) :=
  match skipComment (skipSpaces cs) with
  | [] => some []
  | rest => newline? rest

/-- What follows blanks, comments and newlines. -/
def skipLines (fuel : Nat) (cs : List Char) : List Char :=
  match fuel with
  | 0 => cs
  | fuel + 1 =>
    let rest := skipSpaces cs
    match rest with
    | '#' :: _ => skipLines fuel (skipComment rest)
    | _ =>
      match newline? rest with
      | some after => skipLines fuel after
      | none => rest

/-- A character that may stand unescaped in a string. -/
def isStringChar (c : Char) : Bool := c == '\t' || (0x20 ≤ c.toNat && c.toNat != 0x7F)

/-- The character with a code point, if there is one. -/
def scalar? (n : Nat) : Option Char :=
  if n < 0xD800 || (0xDFFF < n && n < 0x110000) then some (Char.ofNat n) else none

/-- The character that a one-letter escape denotes. -/
def shortEscape? : Char → Option Char
  | 'b' => some '\x08'
  | 't' => some '\t'
  | 'n' => some '\n'
  | 'f' => some '\x0c'
  | 'r' => some '\r'
  | '"' => some '"'
  | '\\' => some '\\'
  | _ => none

/-- The character that four or eight hexadecimal digits denote. -/
def hexEscape? (cs : List Char) : Option Char :=
  (cs.foldlM (fun n c => (Json.hexValue? c).map fun d => n * 16 + d) 0).bind scalar?

/-- Puts a character in front of what was read. -/
def withChar (c : Char) (read : Option (List Char × List Char)) : Option (List Char × List Char) :=
  read.map fun (s, after) => (c :: s, after)

/-- The rest of a string in double quotes. -/
def basicString : List Char → Option (List Char × List Char)
  | '"' :: rest => some ([], rest)
  | '\\' :: 'u' :: a :: b :: c :: d :: rest =>
    (hexEscape? [a, b, c, d]).bind fun char => withChar char (basicString rest)
  | '\\' :: 'U' :: a :: b :: c :: d :: e :: f :: g :: h :: rest =>
    (hexEscape? [a, b, c, d, e, f, g, h]).bind fun char => withChar char (basicString rest)
  | '\\' :: c :: rest => (shortEscape? c).bind fun char => withChar char (basicString rest)
  | c :: rest => if isStringChar c && c != '\\' then withChar c (basicString rest) else none
  | [] => none

/-- The rest of a string in single quotes. -/
def literalString : List Char → Option (List Char × List Char)
  | '\'' :: rest => some ([], rest)
  | c :: rest => if isStringChar c then withChar c (literalString rest) else none
  | [] => none

/-- Whether a line ends here, after blanks. -/
def endsLine (cs : List Char) : Bool := (newline? (skipSpaces cs)).isSome

/-- The rest of a string in three double quotes. While `skipping`, blanks and newlines are left out,
as after a backslash at the end of a line. Two quotes may stand in front of the closing ones. -/
def longBasic (skipping : Bool) : List Char → Option (List Char × List Char)
  | '"' :: '"' :: '"' :: '"' :: '"' :: rest => some (['"', '"'], rest)
  | '"' :: '"' :: '"' :: '"' :: rest => some (['"'], rest)
  | '"' :: '"' :: '"' :: rest => some ([], rest)
  | '\r' :: '\n' :: rest =>
    if skipping then longBasic true rest else withChar '\n' (longBasic false rest)
  | '\\' :: 'u' :: a :: b :: c :: d :: rest =>
    (hexEscape? [a, b, c, d]).bind fun char => withChar char (longBasic false rest)
  | '\\' :: 'U' :: a :: b :: c :: d :: e :: f :: g :: h :: rest =>
    (hexEscape? [a, b, c, d, e, f, g, h]).bind fun char => withChar char (longBasic false rest)
  | '\\' :: c :: rest =>
    if endsLine (c :: rest) then longBasic true (c :: rest)
    else (shortEscape? c).bind fun char => withChar char (longBasic false rest)
  | c :: rest =>
    if skipping && (isSpace c || c == '\n') then longBasic true rest
    else if c == '\n' || (isStringChar c && c != '\\') then withChar c (longBasic false rest)
    else none
  | [] => none

/-- The rest of a string in three single quotes. -/
def longLiteral : List Char → Option (List Char × List Char)
  | '\'' :: '\'' :: '\'' :: '\'' :: '\'' :: rest => some (['\'', '\''], rest)
  | '\'' :: '\'' :: '\'' :: '\'' :: rest => some (['\''], rest)
  | '\'' :: '\'' :: '\'' :: rest => some ([], rest)
  | '\r' :: '\n' :: rest => withChar '\n' (longLiteral rest)
  | c :: rest =>
    if c == '\n' || isStringChar c then withChar c (longLiteral rest) else none
  | [] => none

/-- What follows a newline right after the opening quotes of a long string. -/
def skipFirstNewline (cs : List Char) : List Char := (newline? cs).getD cs

/-- A string of any kind. -/
def readString : List Char → Option (List Char × List Char)
  | '"' :: '"' :: '"' :: rest => longBasic false (skipFirstNewline rest)
  | '\'' :: '\'' :: '\'' :: rest => longLiteral (skipFirstNewline rest)
  | '"' :: rest => basicString rest
  | '\'' :: rest => literalString rest
  | _ => none

/-! ### Keys -/

/-- A character of a bare key. -/
def isBareChar (c : Char) : Bool := c.isAlphanum || c == '-' || c == '_'

/-- One part of a key: bare, or in quotes on one line. -/
def readKeyPart : List Char → Option (String × List Char)
  | '"' :: rest => (basicString rest).map fun (s, after) => (String.ofList s, after)
  | '\'' :: rest => (literalString rest).map fun (s, after) => (String.ofList s, after)
  | cs =>
    let bare := cs.takeWhile isBareChar
    if bare.isEmpty then none else some (String.ofList bare, cs.dropWhile isBareChar)

/-- A key: its path and its last part. Blanks may stand around the dots. -/
def readKey (fuel : Nat) (cs : List Char) : Option ((List String × String) × List Char) :=
  match fuel with
  | 0 => none
  | fuel + 1 =>
    match readKeyPart (skipSpaces cs) with
    | none => none
    | some (part, rest) =>
      match skipSpaces rest with
      | '.' :: after =>
        (readKey fuel after).map fun ((path, last), rest) => ((part :: path, last), rest)
      | after => some (([], part), after)

/-! ### Numbers and dates -/

/-- Digits with single underscores between them, and the text after them. -/
def digitRun (isDigit : Char → Bool) : List Char → List Char × List Char
  | c :: '_' :: d :: rest =>
    if isDigit c && isDigit d then
      let (run, left) := digitRun isDigit (d :: rest)
      (c :: run, left)
    else if isDigit c then ([c], '_' :: d :: rest)
    else ([], c :: '_' :: d :: rest)
  | c :: rest =>
    if isDigit c then
      let (run, left) := digitRun isDigit rest
      (c :: run, left)
    else ([], c :: rest)
  | [] => ([], [])

/-- The value of digits in a base. -/
def baseValue (base : Nat) (cs : List Char) : Nat :=
  cs.foldl (fun n c => n * base + (Json.hexValue? c).getD 0) 0

/-- An integer of 64 bits. -/
def integer? (n : Int) : Option Data :=
  if Int64.minValue.toInt ≤ n && n ≤ Int64.maxValue.toInt then some (.integer n) else none

/-- An integer in another base than ten. -/
def readBased (base : Nat) (isDigit : Char → Bool) (cs : List Char) : Option (Data × List Char) :=
  let (run, rest) := digitRun isDigit cs
  if run.isEmpty then none else (integer? (baseValue base run)).map fun data => (data, rest)

/-- The exponent of a number, with its mark; empty if there is none. -/
def readExponent : List Char → Option (List Char × List Char)
  | [] => some ([], [])
  | mark :: cs =>
    if mark == 'e' || mark == 'E' then
      let (sign, digits) := match cs with
        | '+' :: rest => (['+'], rest)
        | '-' :: rest => (['-'], rest)
        | rest => ([], rest)
      let (run, rest) := digitRun Char.isDigit digits
      if run.isEmpty then none else some (mark :: sign ++ run, rest)
    else some ([], mark :: cs)

/-- The fraction of a number, with its point; empty if there is none. -/
def readFraction : List Char → Option (List Char × List Char)
  | '.' :: cs =>
    let (run, rest) := digitRun Char.isDigit cs
    if run.isEmpty then none else some ('.' :: run, rest)
  | cs => some ([], cs)

/-- Whether a literal stays below infinity. -/
def isFiniteLiteral (negative : Bool) (literal : List Char) : Bool :=
  negative || match Decimal.literalValue? literal with
    | some x => x < 1 / 0
    | none => false

/-- A decimal number without its sign. -/
def readDecimal (negative : Bool) (cs : List Char) : Option (Data × List Char) := do
  let (whole, rest) := match cs with
    | '0' :: rest => (['0'], rest)
    | other => digitRun Char.isDigit other
  if whole.isEmpty then none
  let (fraction, rest) ← readFraction rest
  let (exponent, rest) ← readExponent rest
  if fraction.isEmpty && exponent.isEmpty then
    let n : Int := Nat.ofDigitChars 10 whole 0
    let data ← integer? (if negative then -n else n)
    some (data, rest)
  else
    let literal := whole ++ fraction ++ exponent
    if isFiniteLiteral negative literal then
      some (.real (String.ofList (if negative then '-' :: literal else literal)), rest)
    else none

/-- A number. Only decimal numbers may have a sign. -/
def readNumber : List Char → Option (Data × List Char)
  | '0' :: 'x' :: rest => readBased 16 (fun c => (Json.hexValue? c).isSome) rest
  | '0' :: 'o' :: rest => readBased 8 (fun c => '0' ≤ c && c ≤ '7') rest
  | '0' :: 'b' :: rest => readBased 2 (fun c => c == '0' || c == '1') rest
  | 'i' :: 'n' :: 'f' :: rest => some (.real "inf", rest)
  | 'n' :: 'a' :: 'n' :: rest => some (.real "nan", rest)
  | '+' :: 'i' :: 'n' :: 'f' :: rest => some (.real "inf", rest)
  | '+' :: 'n' :: 'a' :: 'n' :: rest => some (.real "nan", rest)
  | '-' :: 'i' :: 'n' :: 'f' :: rest => some (.real "-inf", rest)
  | '-' :: 'n' :: 'a' :: 'n' :: rest => some (.real "nan", rest)
  | '+' :: rest => readDecimal false rest
  | '-' :: rest => readDecimal true rest
  | rest => readDecimal false rest

/-- A number of exactly `width` digits between two bounds. -/
def readField (width low high : Nat) (cs : List Char) : Option (List Char) :=
  let field := cs.take width
  let n := Nat.ofDigitChars 10 field 0
  if field.length == width && field.all Char.isDigit && low ≤ n && n ≤ high then
    some (cs.drop width)
  else none

/-- The number of days of a month. -/
def daysInMonth (year month : Nat) : Nat :=
  if month == 2 then
    if year % 4 == 0 && (year % 100 != 0 || year % 400 == 0) then 29 else 28
  else if month == 4 || month == 6 || month == 9 || month == 11 then 30
  else 31

/-- What follows a given character. -/
def after? (c : Char) : List Char → Option (List Char)
  | d :: rest => if c == d then some rest else none
  | [] => none

/-- What follows a date. -/
def skipDate (cs : List Char) : Option (List Char) := do
  let year := Nat.ofDigitChars 10 (cs.take 4) 0
  let rest ← readField 4 0 9999 cs
  let rest ← after? '-' rest
  let month := Nat.ofDigitChars 10 (rest.take 2) 0
  let rest ← readField 2 1 12 rest
  let rest ← after? '-' rest
  readField 2 1 (daysInMonth year month) rest

/-- What follows the fraction of a second. -/
def skipSecondFraction : List Char → Option (List Char)
  | '.' :: cs =>
    match cs with
    | c :: _ => if c.isDigit then some (cs.dropWhile Char.isDigit) else none
    | [] => none
  | cs => some cs

/-- What follows a time of day. -/
def skipTime (cs : List Char) : Option (List Char) := do
  let rest ← readField 2 0 23 cs
  let rest ← after? ':' rest
  let rest ← readField 2 0 59 rest
  let rest ← after? ':' rest
  let rest ← readField 2 0 60 rest
  skipSecondFraction rest

/-- What follows an optional offset from universal time. -/
def skipOffset : List Char → Option (List Char)
  | 'Z' :: rest => some rest
  | 'z' :: rest => some rest
  | sign :: rest =>
    if sign == '+' || sign == '-' then do
      let rest ← readField 2 0 23 rest
      let rest ← after? ':' rest
      readField 2 0 59 rest
    else some (sign :: rest)
  | [] => some []

/-- Whether a text starts with a time of day, as far as its first colon. -/
def startsTime : List Char → Bool
  | a :: b :: ':' :: _ => a.isDigit && b.isDigit
  | _ => false

/-- Whether a text starts with a date, as far as its first dash. -/
def startsDate : List Char → Bool
  | a :: b :: c :: d :: '-' :: _ => [a, b, c, d].all Char.isDigit
  | _ => false

/-- What follows a date with an optional time and offset. -/
def skipDateTime (cs : List Char) : Option (List Char) := do
  let rest ← skipDate cs
  match rest with
  | delimiter :: after =>
    if (delimiter == 'T' || delimiter == 't' || delimiter == ' ') && startsTime after then do
      let rest ← skipTime after
      skipOffset rest
    else some rest
  | [] => some []

/-- The name of the field that holds the text of a date or time. -/
def dateField : String := "$date"

/-- A date or time as a document value. -/
def dateData (cs rest : List Char) : Data :=
  .object [(dateField, .string (String.ofList (cs.take (cs.length - rest.length))))]

/-! ### Values -/

mutual

/-- A value. -/
def readValue (fuel : Nat) (cs : List Char) : Option (Data × List Char) :=
  match fuel with
  | 0 => none
  | fuel + 1 =>
    match cs with
    | 't' :: 'r' :: 'u' :: 'e' :: rest => some (.boolean true, rest)
    | 'f' :: 'a' :: 'l' :: 's' :: 'e' :: rest => some (.boolean false, rest)
    | '[' :: rest => (readItems fuel rest).map fun (items, after) => (.array items, after)
    | '\x7b' :: rest =>
      match skipSpaces rest with
      | '\x7d' :: after => some (.object [], after)
      | _ =>
        (readPairs fuel rest []).map fun (entries, after) =>
          (.object (entriesToData entries), after)
    | '"' :: _ => (readString cs).map fun (s, after) => (.string (String.ofList s), after)
    | '\'' :: _ => (readString cs).map fun (s, after) => (.string (String.ofList s), after)
    | _ =>
      if startsDate cs then (skipDateTime cs).map fun rest => (dateData cs rest, rest)
      else if startsTime cs then (skipTime cs).map fun rest => (dateData cs rest, rest)
      else readNumber cs

/-- The items of an array up to its bracket. A comma may follow the last one. -/
def readItems (fuel : Nat) (cs : List Char) : Option (List Data × List Char) :=
  match fuel with
  | 0 => none
  | fuel + 1 =>
    match skipLines cs.length cs with
    | ']' :: after => some ([], after)
    | start =>
      match readValue fuel start with
      | none => none
      | some (item, rest) =>
        match skipLines rest.length rest with
        | ']' :: after => some ([item], after)
        | ',' :: after => (readItems fuel after).map fun (items, rest) => (item :: items, rest)
        | _ => none

/-- The pairs of an inline table up to its brace, at least one, added to those before. -/
def readPairs (fuel : Nat) (cs : List Char) (entries : Entries) : Option (Entries × List Char) :=
  match fuel with
  | 0 => none
  | fuel + 1 =>
    match readKey cs.length cs with
    | none => none
    | some ((path, key), rest) =>
      match rest with
      | '=' :: rest =>
        match readValue fuel (skipSpaces rest) with
        | none => none
        | some (data, rest) =>
          match insertDotted key data path entries with
          | none => none
          | some entries =>
            match skipSpaces rest with
            | '\x7d' :: after => some (entries, after)
            | ',' :: after => readPairs fuel after entries
            | _ => none
      | _ => none

end

/-! ### Documents -/

/-- What is known of a document while its lines are read: all tables, and the path of the open
one. -/
structure Reading where
  entries : Entries
  header : List String

/-- One line that is not blank, and the text after it. -/
def readLine (state : Reading) (cs : List Char) : Option (Reading × List Char) :=
  match cs with
  | '[' :: '[' :: rest => do
    let ((path, key), rest) ← readKey rest.length rest
    let rest ← after? ']' rest
    let rest ← after? ']' rest
    let rest ← lineEnd? rest
    let entries ← changeAt (openElement key) path state.entries
    some (⟨entries, path ++ [key]⟩, rest)
  | '[' :: rest => do
    let ((path, key), rest) ← readKey rest.length rest
    let rest ← after? ']' rest
    let rest ← lineEnd? rest
    let entries ← changeAt (openTable key) path state.entries
    some (⟨entries, path ++ [key]⟩, rest)
  | _ => do
    let ((path, key), rest) ← readKey cs.length cs
    let rest ← after? '=' rest
    let (data, rest) ← readValue (2 * rest.length + 2) (skipSpaces rest)
    let rest ← lineEnd? rest
    let entries ← changeAt (insertDotted key data path) state.header state.entries
    some (⟨entries, state.header⟩, rest)

/-- The lines of a document. -/
def readLines (fuel : Nat) (state : Reading) (cs : List Char) : Option Entries :=
  match fuel with
  | 0 => none
  | fuel + 1 =>
    match skipLines cs.length cs with
    | [] => some state.entries
    | start =>
      match readLine state start with
      | none => none
      | some (state, rest) => readLines fuel state rest

/-- The text without a byte order mark in front. -/
def skipMark : List Char → List Char
  | c :: rest => if c == '\ufeff' then rest else c :: rest
  | [] => []

/-- The document that a TOML text denotes. -/
def parse? (text : String) : Option Data :=
  let cs := skipMark text.toList
  (readLines (cs.length + 1) ⟨[], []⟩ cs).map fun entries => .object (entriesToData entries)

end LuaHost.Toml
