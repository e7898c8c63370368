import LuaHost.Decimal.Binary

/-!
# Floating point numbers to fourteen digits

The text of a floating point number in a script: rounded to fourteen digits, without zeros at the
end, and with an exponent when the number is below 10⁻⁴ or has more than fourteen digits in front of
the point. A number that would look like an integer gets `.0`.
-/

namespace LuaHost.Decimal

/-- The number of digits that scripts see. -/
def scriptDigits : Nat := 14

/-- The figure of a positive ratio with a given number of digits. -/
def roundedTo (places : Nat) (value : Ratio) : Figure :=
  let e := value.leadingExponent - places + 1
  ⟨(value.unscale e).round, e⟩

/-- An exponent with its sign and at least two digits. -/
def signedExponent (e : Int) : List Char :=
  let digits := Nat.toDigits 10 e.natAbs
  (if e < 0 then '-' else '+') :: (if digits.length < 2 then '0' :: digits else digits)

/-- The text of a positive binary number to fourteen digits. -/
def generalText (b : Binary) : List Char :=
  let (digits, lead) := (roundedTo scriptDigits (.ofBinary b.significand b.exponent)).leading
  if -4 ≤ lead && lead < scriptDigits then
    let (whole, fraction) := positional digits lead
    if fraction.isEmpty then whole else whole ++ '.' :: fraction
  else
    let mantissa := match digits with
      | first :: second :: rest => first :: '.' :: second :: rest
      | short => short
    mantissa ++ 'e' :: signedExponent lead

/-- The text of a floating point number in a script. What is not a number shows the sign that
invalid operations give it. -/
def scriptText (x : Float) : String :=
  match Parts.ofFloat x with
  | .nan => "-nan"
  | .infinite negative => if negative then "-inf" else "inf"
  | .finite negative magnitude =>
    let text := if magnitude.significand == 0 then ['0'] else generalText magnitude
    let marked := if text.all Char.isDigit then text ++ ['.', '0'] else text
    String.ofList (if negative then '-' :: marked else marked)

end LuaHost.Decimal
