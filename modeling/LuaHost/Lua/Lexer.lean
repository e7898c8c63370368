import LuaHost.Lua.Token

/-!
# Lexer

Cuts a script into lexemes. Where the text cannot be read on, the last lexeme says why, so that an
earlier mistake in the grammar is found first.
-/

namespace LuaHost.Lua.Lexer

/-- Whether a character starts a name. -/
def isNameStart (c : Char) : Bool := c.isAlpha || c == '_'

/-- Whether a character continues a name. -/
def isNameChar (c : Char) : Bool := c.isAlphanum || c == '_'

/-- Whether a character breaks a line. -/
def isBreak (c : Char) : Bool := c == '\n' || c == '\r'

/-- What follows a line break that starts with `c`; two different break characters are one break. -/
def afterBreak (c : Char) : List Char → List Char
  | d :: rest => if isBreak d && d != c then rest else d :: rest
  | [] => []

/-- What was read of a string, in reverse and with its opening quote; what is left; and the line. -/
structure StringState where
  buffer : List Char
  rest : List Char
  line : Nat

/-- A text that ends where messages cut it, at a NUL. -/
def shownText (cs : List Char) : String :=
  String.ofList (cs.takeWhile (· != '\x00'))

/-- The buffer of a string in quotes for a message. -/
def shownBuffer (buffer : List Char) : String :=
  Token.quote (shownText buffer.reverse)

/-- A character as the first byte of it stands in a message. -/
def firstByte (c : Char) : Char :=
  if c.toNat < 0x80 then c else '\ufffd'

/-- A mistake in a string: the message, with the buffer and the character that was met. -/
def badEscape (message : String) (buffer rest : List Char) : String × String :=
  let met := match rest with
    | c :: _ => [firstByte c]
    | [] => []
  (message, shownBuffer (met ++ buffer))

/-- A character given by its byte. Strings are texts, so a byte that is no character of its own is
replaced, and bytes in a row that would make one up are so one by one. -/
def byteChar (n : Nat) : Char :=
  if n < 0x80 then Char.ofNat n else '\ufffd'

/-- An escape in a string, after its backslash: the characters it stands for and the text after
it. -/
def readEscape (buffer : List Char) : List Char → Except (String × String) (List Char × List Char)
  | 'a' :: rest => .ok (['\x07'], rest)
  | 'b' :: rest => .ok (['\x08'], rest)
  | 'f' :: rest => .ok (['\x0c'], rest)
  | 'n' :: rest => .ok (['\n'], rest)
  | 'r' :: rest => .ok (['\r'], rest)
  | 't' :: rest => .ok (['\t'], rest)
  | 'v' :: rest => .ok (['\x0b'], rest)
  | '\\' :: rest => .ok (['\\'], rest)
  | '"' :: rest => .ok (['"'], rest)
  | '\'' :: rest => .ok (['\''], rest)
  | 'x' :: rest =>
    match rest with
    | a :: after =>
      match Json.hexValue? a with
      | none => .error (badEscape "hexadecimal digit expected" ('x' :: '\\' :: buffer) rest)
      | some high =>
        match after with
        | b :: left =>
          match Json.hexValue? b with
          | none =>
            .error (badEscape "hexadecimal digit expected" (a :: 'x' :: '\\' :: buffer) after)
          | some low => .ok ([byteChar (high * 16 + low)], left)
        | [] => .error (badEscape "hexadecimal digit expected" (a :: 'x' :: '\\' :: buffer) after)
    | [] => .error (badEscape "hexadecimal digit expected" ('x' :: '\\' :: buffer) rest)
  | 'u' :: rest =>
    match rest with
    | '\x7b' :: after =>
      let digits := after.takeWhile Number.isHexDigit
      let left := after.dropWhile Number.isHexDigit
      let read := digits.reverse ++ '\x7b' :: 'u' :: '\\' :: buffer
      if digits.isEmpty then .error (badEscape "hexadecimal digit expected" read left)
      else
        match left with
        | '\x7d' :: left =>
          let n := Number.hexValue digits
          .ok ([if n.isValidChar then Char.ofNat n else '\ufffd'], left)
        | _ => .error (badEscape "missing '\x7d'" read left)
    | _ => .error (badEscape "missing '\x7b'" ('u' :: '\\' :: buffer) rest)
  | c :: rest =>
    if c.isDigit then
      let digits := ((c :: rest).take 3).takeWhile Char.isDigit
      let left := (c :: rest).drop digits.length
      let n := Nat.ofDigitChars 10 digits 0
      if n ≤ 255 then .ok ([byteChar n], left)
      else .error (badEscape "decimal escape too large" (digits.reverse ++ '\\' :: buffer) left)
    else .error (badEscape "invalid escape sequence" ('\\' :: buffer) (c :: rest))
  | [] => .ok ([], [])

/-- What follows blanks and line breaks, and the line there. -/
def skipBlanks (line : Nat) : List Char → Nat × List Char
  | '\n' :: '\r' :: rest => skipBlanks (line + 1) rest
  | '\r' :: '\n' :: rest => skipBlanks (line + 1) rest
  | c :: rest =>
    if isBreak c then skipBlanks (line + 1) rest
    else if Number.isBlank c then skipBlanks line rest
    else (line, c :: rest)
  | [] => (line, [])

/-- A string up to its closing quote. -/
def readString (fuel : Nat) (close : Char) (state : StringState) :
    Except Lexeme StringState :=
  match fuel with
  | 0 => .error ⟨.invalid "unfinished string", state.line, Token.endShown⟩
  | fuel + 1 =>
    match state.rest with
    | [] => .error ⟨.invalid "unfinished string", state.line, Token.endShown⟩
    | '\\' :: rest =>
      match rest with
      | 'z' :: rest =>
        let (line, rest) := skipBlanks state.line rest
        readString fuel close { state with rest, line }
      | c :: after =>
        if isBreak c then
          readString fuel close
            ⟨'\n' :: state.buffer, afterBreak c after, state.line + 1⟩
        else
          match readEscape state.buffer rest with
          | .error (message, shown) => .error ⟨.invalid message, state.line, shown⟩
          | .ok (chars, rest) =>
            readString fuel close { state with buffer := chars.reverse ++ state.buffer, rest }
      | [] => readString fuel close { state with rest := [] }
    | c :: rest =>
      if c == close then .ok { state with buffer := c :: state.buffer, rest }
      else if isBreak c then
        .error ⟨.invalid "unfinished string", state.line, shownBuffer state.buffer⟩
      else readString fuel close { state with buffer := c :: state.buffer, rest }

/-- The level of a long bracket whose first bracket has been read: the number of equals signs in
front of the second one; and the text after that. -/
def longBracket? (bracket : Char) (cs : List Char) : Option (Nat × List Char) :=
  let level := (cs.takeWhile (· == '=')).length
  match cs.drop level with
  | c :: rest => if c == bracket then some (level, rest) else none
  | [] => none

/-- The text up to a closing long bracket, in reverse; the text after it; and the line there. -/
def readLong (fuel level line : Nat) (buffer : List Char) :
    List Char → Option (List Char × List Char × Nat)
  | [] => none
  | c :: rest =>
    match fuel with
    | 0 => none
    | fuel + 1 =>
      if c == ']' then
        match longBracket? ']' rest with
        | some (closing, after) =>
          if closing == level then some (buffer, after, line)
          else readLong fuel level line (c :: buffer) rest
        | none => readLong fuel level line (c :: buffer) rest
      else if isBreak c then readLong fuel level (line + 1) ('\n' :: buffer) (afterBreak c rest)
      else readLong fuel level line (c :: buffer) rest

/-- What follows a line break at the front of a text, and the line there. -/
def skipFirstBreak (line : Nat) : List Char → Nat × List Char
  | c :: rest => if isBreak c then (line + 1, afterBreak c rest) else (line, c :: rest)
  | [] => (line, [])

/-- The bracket of a long string as written. -/
def bracketText (bracket : Char) (level : Nat) : List Char :=
  bracket :: List.replicate level '=' ++ [bracket]

/-- The mistake of a long string or comment without an end. -/
def unfinished (what : String) (start line : Nat) : Lexeme :=
  ⟨.invalid ("unfinished long " ++ what ++ " (starting at line " ++ toString start ++ ")"), line,
    Token.endShown⟩

/-- The line at the end of a text that starts on a given line. -/
def lastLine (line : Nat) : List Char → Nat
  | '\n' :: '\r' :: rest => lastLine (line + 1) rest
  | '\r' :: '\n' :: rest => lastLine (line + 1) rest
  | c :: rest => if isBreak c then lastLine (line + 1) rest else lastLine line rest
  | [] => line

/-- The characters of a numeral, well formed or not, and the text after it. -/
def takeNumeral (marks : List Char) : List Char → List Char × List Char
  | c :: sign :: rest =>
    if marks.contains c && (sign == '+' || sign == '-') then
      let (taken, left) := takeNumeral marks rest
      (c :: sign :: taken, left)
    else if marks.contains c || Number.isHexDigit c || c == '.' then
      let (taken, left) := takeNumeral marks (sign :: rest)
      (c :: taken, left)
    else ([], c :: sign :: rest)
  | [c] =>
    if marks.contains c || Number.isHexDigit c || c == '.' then ([c], []) else ([], [c])
  | [] => ([], [])

/-- A numeral that starts with a digit, or with a point and a digit. -/
def readNumeral (line : Nat) (cs : List Char) : Lexeme × List Char :=
  let (mark, body) := match cs with
    | '0' :: 'x' :: rest => (['0', 'x'], rest)
    | '0' :: 'X' :: rest => (['0', 'X'], rest)
    | c :: rest => ([c], rest)
    | [] => ([], [])
  let (taken, left) := takeNumeral (if mark.length == 2 then ['p', 'P'] else ['e', 'E']) body
  let (touching, left) := match left with
    | c :: rest => if isNameStart c then ([c], rest) else ([], left)
    | [] => ([], left)
  let numeral := mark ++ taken ++ touching
  let shown := Token.quote (String.ofList numeral)
  match if touching.isEmpty then Number.ofText? numeral else none with
  | some value => (⟨.number value, line, shown⟩, left)
  | none => (⟨.invalid "malformed number", line, shown⟩, left)

/-- The symbols of more than one character, longer ones first. -/
def longSymbols : List String :=
  ["...", "..", "==", "~=", "<=", ">=", "//", "::", "<<", ">>"]

/-- A character that is no part of any other token, as messages show it. -/
def strayShown (c : Char) : String :=
  let n := c.toNat
  if 0x20 ≤ n && n < 0x7F then Token.quote (String.singleton c)
  else
    let byte := match (String.singleton c).toUTF8.toList with
      | first :: _ => first.toNat
      | [] => 0
    "'<\\" ++ toString byte ++ ">'"

/-- A symbol. -/
def readSymbol (line : Nat) (c : Char) (rest : List Char) : Lexeme × List Char :=
  match longSymbols.find? fun symbol => symbol.toList.isPrefixOf (c :: rest) with
  | some symbol =>
    (⟨.symbol symbol, line, Token.quote symbol⟩, (c :: rest).drop symbol.length)
  | none => (⟨.symbol (String.singleton c), line, strayShown c⟩, rest)

/-- A long string whose first bracket has been read. -/
def readLongString (line level : Nat) (rest : List Char) : Lexeme × List Char × Nat :=
  let (first, body) := skipFirstBreak line rest
  match readLong (body.length + 1) level first [] body with
  | none => (unfinished "string" line (lastLine first body), [], line)
  | some (buffer, left, line) =>
    let content := buffer.reverse
    let shown := bracketText '[' level ++ content ++ bracketText ']' level
    (⟨.string (String.ofList content), line, Token.quote (shownText shown)⟩, left, line)

/-- What follows a comment after its two dashes, and the line there; or the mistake in it. -/
def skipComment (line : Nat) (cs : List Char) : Except Lexeme (List Char × Nat) :=
  let toLineEnd := cs.dropWhile fun c => !isBreak c
  match cs with
  | '[' :: rest =>
    match longBracket? '[' rest with
    | some (level, body) =>
      let (first, body) := skipFirstBreak line body
      match readLong (body.length + 1) level first [] body with
      | none => .error (unfinished "comment" line (lastLine first body))
      | some (_, left, line) => .ok (left, line)
    | none => .ok (toLineEnd, line)
  | _ => .ok (toLineEnd, line)

/-- The lexemes of a text from a given line on. -/
def read (fuel line : Nat) (text : List Char) : List Lexeme :=
  match fuel with
  | 0 => [⟨.endOfText, line, Token.endShown⟩]
  | fuel + 1 =>
    let (line, cs) := skipBlanks line text
    match cs with
    | [] => [⟨.endOfText, line, Token.endShown⟩]
    | '-' :: '-' :: rest =>
      match skipComment line rest with
      | .ok (left, line) => read fuel line left
      | .error mistake => [mistake]
    | c :: rest =>
      if isNameStart c then
        let word := String.ofList (cs.takeWhile isNameChar)
        ⟨.ofWord word, line, Token.quote word⟩ :: read fuel line (cs.dropWhile isNameChar)
      else if c == '"' || c == '\'' then
        match readString (rest.length + 1) c ⟨[c], rest, line⟩ with
        | .error mistake => [mistake]
        | .ok state =>
          let content := (state.buffer.drop 1).reverse.drop 1
          ⟨.string (String.ofList content), state.line, shownBuffer state.buffer⟩ ::
            read fuel state.line state.rest
      else if c.isDigit || (c == '.' && rest.head?.any Char.isDigit) then
        let (lexeme, left) := readNumeral line cs
        match lexeme.token with
        | .invalid _ => [lexeme]
        | _ => lexeme :: read fuel line left
      else if c == '[' && rest.head?.any (fun d => d == '[' || d == '=') then
        match longBracket? '[' rest with
        | some (level, body) =>
          let (lexeme, left, line) := readLongString line level body
          match lexeme.token with
          | .invalid _ => [lexeme]
          | _ => lexeme :: read fuel line left
        | none =>
          let shown := '[' :: rest.takeWhile (· == '=')
          [⟨.invalid "invalid long string delimiter", line, Token.quote (String.ofList shown)⟩]
      else
        let (lexeme, left) := readSymbol line c rest
        lexeme :: read fuel line left

/-- The lexemes of a script. Every lexeme takes at least one character. -/
def lexemes (code : String) : List Lexeme :=
  let cs := code.toList
  read (cs.length + 1) 1 cs

end LuaHost.Lua.Lexer
