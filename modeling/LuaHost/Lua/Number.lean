import LuaHost.Data.Json
import LuaHost.Decimal.General
import LuaHost.Decimal.Reading

/-!
# Numbers of scripts

A number is a 64-bit integer, whose arithmetic wraps around, or a 64-bit floating point number.
Integers and floats are compared by their exact values.
-/

namespace LuaHost.Lua

/-- A number. -/
inductive Number where
  | integer (n : Int64)
  | float (x : Float)

/-- The least integer, as a float. -/
def floatMin : Float := -9223372036854775808

/-- The first integral float above all integers. -/
def floatLimit : Float := 9223372036854775808

/-- The integer that an integral float stands for. -/
def exactInteger? (x : Float) : Option Int64 :=
  if x.floor == x && floatMin ≤ x && x < floatLimit then some x.toInt64 else none

namespace Number

/-- The number as a float. -/
def toFloat : Number → Float
  | .integer n => n.toFloat
  | .float x => x

/-- The number as an integer, if it has an integral value. -/
def toInteger? : Number → Option Int64
  | .integer n => some n
  | .float x => exactInteger? x

/-- The text of a number. -/
def text : Number → String
  | .integer n => toString n.toInt
  | .float x => Decimal.scriptText x

/-- Whether two numbers have the same value. -/
def same : Number → Number → Bool
  | .integer a, .integer b => a == b
  | .float a, .float b => a == b
  | .integer a, .float b => exactInteger? b == some a
  | .float a, .integer b => exactInteger? a == some b

/-- Whether an integer is below a float. -/
def integerBelow (a : Int64) (b : Float) : Bool :=
  if floatLimit ≤ b then true
  else if floatMin < b then a < b.ceil.toInt64
  else false

/-- Whether an integer is below or equal to a float. -/
def integerAtMost (a : Int64) (b : Float) : Bool :=
  if floatLimit ≤ b then true
  else if floatMin ≤ b then a ≤ b.floor.toInt64
  else false

/-- Whether a float is below an integer. -/
def floatBelow (a : Float) (b : Int64) : Bool :=
  if floatLimit ≤ a then false
  else if floatMin ≤ a then a.floor.toInt64 < b
  else a < 0

/-- Whether a float is below or equal to an integer. -/
def floatAtMost (a : Float) (b : Int64) : Bool :=
  if floatLimit ≤ a then false
  else if floatMin < a then a.ceil.toInt64 ≤ b
  else a < 0

/-- Whether the first number is below the second. -/
def below : Number → Number → Bool
  | .integer a, .integer b => a < b
  | .float a, .float b => a < b
  | .integer a, .float b => integerBelow a b
  | .float a, .integer b => floatBelow a b

/-- Whether the first number is below or equal to the second. -/
def atMost : Number → Number → Bool
  | .integer a, .integer b => a ≤ b
  | .float a, .float b => a ≤ b
  | .integer a, .float b => integerAtMost a b
  | .float a, .integer b => floatAtMost a b

end Number

/-! ### Arithmetic -/

/-- The operators that need numbers. -/
inductive Arithmetic where
  | add
  | sub
  | mul
  | div
  | mod
  | pow
  | floorDiv
  | negate
  deriving DecidableEq, Repr

/-- The name of an operator in messages about strings. -/
def Arithmetic.name : Arithmetic → String
  | .add => "add"
  | .sub => "sub"
  | .mul => "mul"
  | .div => "div"
  | .mod => "mod"
  | .pow => "pow"
  | .floorDiv => "idiv"
  | .negate => "unm"

/-- The magnitude `m · 2 ^ q` as a float; only the leading bits of `m` may be set. -/
def ofMagnitude (m : Nat) (q : Int) : Float :=
  let surplus := Nat.log2 m - 60
  (Float.ofNat (m >>> surplus)).scaleB (q + surplus)

/-- The exact remainder of a division that rounds its quotient toward zero. -/
def floatRemainder (a b : Float) : Float :=
  match Decimal.Parts.ofFloat a, Decimal.Parts.ofFloat b with
  | .finite negative x, .finite _ y =>
    if y.significand == 0 then 0 / 0
    else
      let q := min x.exponent y.exponent
      let m := x.significand <<< (x.exponent - q).toNat
      let n := y.significand <<< (y.exponent - q).toNat
      let r := ofMagnitude (m % n) q
      if negative then -r else r
  | .finite _ _, .infinite _ => a
  | _, _ => 0 / 0

/-- The remainder of a division that rounds its quotient down. -/
def floatModulo (a b : Float) : Float :=
  let m := floatRemainder a b
  if (0 < m && b < 0) || (m < 0 && 0 < b) then m + b else m

/-- A division by zero among integers. -/
inductive DivisionByZero where
  | quotient
  | remainder
  deriving DecidableEq, Repr

/-- The text of a division by zero. -/
def DivisionByZero.text : DivisionByZero → String
  | .quotient => "attempt to divide by zero"
  | .remainder => "attempt to perform 'n%0'"

/-- Arithmetic on floats. -/
def Arithmetic.onFloats (op : Arithmetic) (a b : Float) : Float :=
  match op with
  | .add => a + b
  | .sub => a - b
  | .mul => a * b
  | .div => a / b
  | .mod => floatModulo a b
  | .pow => if b == 2 then a * a else a.pow b
  | .floorDiv => (a / b).floor
  | .negate => -a

/-- Arithmetic on numbers. Division and powers are of floats, all else of integers if both are. -/
def Arithmetic.onNumbers (op : Arithmetic) (a b : Number) : Except DivisionByZero Number :=
  match op, a, b with
  | .add, .integer m, .integer n => .ok (.integer (m + n))
  | .sub, .integer m, .integer n => .ok (.integer (m - n))
  | .mul, .integer m, .integer n => .ok (.integer (m * n))
  | .negate, .integer m, _ => .ok (.integer (-m))
  | .floorDiv, .integer m, .integer n =>
    if n == 0 then .error .quotient else .ok (.integer (Int64.ofInt (m.toInt.fdiv n.toInt)))
  | .mod, .integer m, .integer n =>
    if n == 0 then .error .remainder else .ok (.integer (Int64.ofInt (m.toInt.fmod n.toInt)))
  | op, a, b => .ok (.float (op.onFloats a.toFloat b.toFloat))

/-! ### Reading numbers -/

namespace Number

/-- A blank around a numeral. -/
def isBlank (c : Char) : Bool :=
  c == ' ' || ('\t' ≤ c && c ≤ '\r')

/-- A text without blanks at either end. -/
def stripBlanks (cs : List Char) : List Char :=
  ((cs.dropWhile isBlank).reverse.dropWhile isBlank).reverse

/-- The value of hexadecimal digits. -/
def hexValue (cs : List Char) : Nat :=
  cs.foldl (fun n c => n * 16 + (Json.hexValue? c).getD 0) 0

/-- Whether a character is a hexadecimal digit. -/
def isHexDigit (c : Char) : Bool := (Json.hexValue? c).isSome

/-- The binary exponent of a hexadecimal float: nothing, or a mark, an optional sign and digits. -/
def binaryExponent? : List Char → Option Int
  | [] => some 0
  | mark :: rest =>
    if mark != 'p' && mark != 'P' then none
    else
      let (negative, digits) := match rest with
        | '-' :: ds => (true, ds)
        | '+' :: ds => (false, ds)
        | ds => (false, ds)
      if digits.isEmpty || !digits.all Char.isDigit then none
      else
        let n : Int := min (Nat.ofDigitChars 10 digits 0) 100000
        some (if negative then -n else n)

/-- An unsigned hexadecimal numeral, after its mark. Integers wrap around. -/
def hexNumber? (cs : List Char) : Option Number :=
  let whole := cs.takeWhile isHexDigit
  match cs.dropWhile isHexDigit with
  | [] => if whole.isEmpty then none else some (.integer (Int64.ofNat (hexValue whole)))
  | rest =>
    let (fraction, rest) := match rest with
      | '.' :: after => (after.takeWhile isHexDigit, after.dropWhile isHexDigit)
      | other => ([], other)
    if whole.isEmpty && fraction.isEmpty then none
    else
      (binaryExponent? rest).map fun e =>
        .float (ofMagnitude (hexValue (whole ++ fraction)) (e - 4 * fraction.length))

/-- An unsigned decimal numeral. What does not fit an integer is a float. -/
def decimalNumber? (negative : Bool) (cs : List Char) : Option Number :=
  if !cs.isEmpty && cs.all Char.isDigit then
    let n := Nat.ofDigitChars 10 cs 0
    if n < 1 <<< 63 || (negative && n == 1 <<< 63) then some (.integer (Int64.ofNat n))
    else some (.float (Decimal.toFloat n 0))
  else (Decimal.literalValue? cs).map .float

/-- The number with the opposite sign. -/
def negated : Number → Number
  | .integer n => .integer (-n)
  | .float x => .float (-x)

/-- The number that a text denotes, with blanks around it and an optional sign. -/
def ofText? (text : List Char) : Option Number :=
  let (negative, cs) := match stripBlanks text with
    | '-' :: rest => (true, rest)
    | '+' :: rest => (false, rest)
    | rest => (false, rest)
  let value := match cs with
    | '0' :: 'x' :: rest => hexNumber? rest
    | '0' :: 'X' :: rest => hexNumber? rest
    | _ => decimalNumber? negative cs
  if negative then value.map negated else value

end Number

end LuaHost.Lua
