/-!
# Documents

The values that configuration files and machine-readable reports are made of, independent of the
text format they are written in.
-/

namespace LuaHost

/-- A document value. A number with a fraction or an exponent keeps its literal. -/
inductive Data where
  | null
  | boolean (value : Bool)
  | integer (value : Int)
  | real (literal : String)
  | string (value : String)
  | array (items : List Data)
  | object (fields : List (String × Data))
  deriving Repr, Inhabited

namespace Data

/-- The value of the first field of a given name. -/
def lookup? (name : String) : List (String × Data) → Option Data
  | [] => none
  | (key, value) :: rest => if key == name then some value else lookup? name rest

/-- A field of an object. -/
def field? (data : Data) (name : String) : Option Data :=
  match data with
  | .object fields => lookup? name fields
  | _ => none

/-- An optional value, `null` when there is none. -/
def ofOption : Option Data → Data
  | some data => data
  | none => .null

end Data

end LuaHost
