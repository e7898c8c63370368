import LuaHost.Lua.Number

/-!
# Tokens

What scripts are made of. A lexeme is a token with the line on which it ends and the form in which
messages show it.
-/

namespace LuaHost.Lua

/-- A token. The last one of a text is `endOfText`, or `invalid` where the text cannot be read
on. -/
inductive Token where
  | name (name : String)
  | reserved (word : String)
  | symbol (text : String)
  | string (value : String)
  | number (value : Number)
  | endOfText
  | invalid (message : String)

/-- A token in its place. -/
structure Lexeme where
  token : Token
  line : Nat
  shown : String

namespace Token

/-- The words that are no names. -/
def reservedWords : List String :=
  ["and", "break", "do", "else", "elseif", "end", "false", "for", "function", "goto", "if", "in",
    "local", "nil", "not", "or", "repeat", "return", "then", "true", "until", "while"]

/-- How messages show the end of the text. -/
def endShown : String := "<eof>"

/-- A text between single quotes. -/
def quote (text : String) : String := "'" ++ text ++ "'"

/-- The name or reserved word of given letters. -/
def ofWord (word : String) : Token :=
  if reservedWords.contains word then .reserved word else .name word

end Token

end LuaHost.Lua
