/-!
# Reading decimal fractions

A decimal literal is digits with at most one point among them, and an optional exponent. Its value
is the nearest floating point number.
-/

namespace LuaHost.Decimal

/-- The number `mantissa · 10 ^ exponent`, rounded. Far outside the range it is infinite or zero,
which spares the power of ten. -/
def toFloat (mantissa : Nat) (exponent : Int) : Float :=
  if mantissa == 0 then 0
  else
    let size := exponent + (Nat.toDigits 10 mantissa).length
    if 400 < size then 1 / 0
    else if size < -400 then 0
    else Float.ofScientific mantissa (decide (exponent < 0)) exponent.natAbs

/-- The exponent part of a literal: nothing, or a mark, an optional sign and digits. -/
def exponentValue? : List Char → Option Int
  | [] => some 0
  | mark :: rest =>
    if mark != 'e' && mark != 'E' then none
    else
      let (negative, digits) := match rest with
        | '-' :: ds => (true, ds)
        | '+' :: ds => (false, ds)
        | ds => (false, ds)
      if digits.isEmpty || !digits.all Char.isDigit then none
      else
        let n : Int := Nat.ofDigitChars 10 digits 0
        some (if negative then -n else n)

/-- The value of an unsigned decimal literal. -/
def literalValue? (cs : List Char) : Option Float :=
  let whole := cs.takeWhile Char.isDigit
  let rest := cs.dropWhile Char.isDigit
  let (fraction, rest) := match rest with
    | '.' :: after => (after.takeWhile Char.isDigit, after.dropWhile Char.isDigit)
    | other => ([], other)
  if whole.isEmpty && fraction.isEmpty then none
  else
    (exponentValue? rest).map fun e =>
      toFloat (Nat.ofDigitChars 10 (whole ++ fraction) 0) (e - fraction.length)

end LuaHost.Decimal
