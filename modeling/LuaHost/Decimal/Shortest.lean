import LuaHost.Decimal.Binary

/-!
# Shortest decimal text of a floating point number

The fewest digits that read back as the same number, and among those the nearest to it. For one
digit, two digits and so on, the two neighbours of the number on that decimal grid are tested.
-/

namespace LuaHost.Decimal

/-- The interval of numbers that are rounded to a binary number, in quarters of its last place. -/
structure Rounding where
  low : Ratio
  high : Ratio
  closed : Bool

/-- The numbers that are rounded to `b`; the ends belong to it when the significand is even. Below a
power of two the neighbour is at half the distance. -/
def Rounding.around (b : Binary) : Rounding :=
  let m := b.significand
  let below := if m == leadingBit && b.exponent != -1074 then 4 * m - 1 else 4 * m - 2
  { low := .ofBinary below (b.exponent - 2)
    high := .ofBinary (4 * m + 2) (b.exponent - 2)
    closed := m % 2 == 0 }

/-- Whether the figure lies in the interval. -/
def Rounding.contains (r : Rounding) (f : Figure) : Bool :=
  let low := r.low.unscale f.exponent
  let high := r.high.unscale f.exponent
  let (a, b) := (low.numerator, f.digits * low.denominator)
  let (c, d) := (f.digits * high.denominator, high.numerator)
  if r.closed then a ≤ b && c ≤ d else a < b && c < d

/-- The nearest of the two neighbours of `value` on the grid `10 ^ e` that reads back, if one
does. -/
def onGrid? (value : Ratio) (range : Rounding) (e : Int) : Option Figure :=
  let scaled := value.unscale e
  let below : Figure := ⟨scaled.floor, e⟩
  let above : Figure := ⟨scaled.floor + 1, e⟩
  match range.contains below, range.contains above with
  | true, true => some ⟨scaled.round, e⟩
  | true, false => some below
  | false, true => some above
  | false, false => none

/-- The shortest figure of a positive binary number. Seventeen digits always read back. -/
def shortest (b : Binary) : Figure :=
  let value := Ratio.ofBinary b.significand b.exponent
  let range := Rounding.around b
  let lead := value.leadingExponent
  let grids := (List.range 17).map fun (n : Nat) => lead - n
  (grids.findSome? (onGrid? value range)).getD ⟨(value.unscale (lead - 16)).round, lead - 16⟩

/-- How an exact number is written: positional from `10 ^ lowest` up to below `10 ^ highest`, always
with a fraction part there; with an exponent elsewhere. -/
structure ExactFormat where
  lowest : Int
  highest : Int

/-- Values are shown positionally from 10⁻⁴ up to below 10¹⁶. -/
def valueFormat : ExactFormat := ⟨-4, 16⟩

/-- The text of a positive figure. -/
def ExactFormat.write (format : ExactFormat) (f : Figure) : List Char :=
  let (digits, lead) := f.leading
  if format.lowest ≤ lead && lead < format.highest then
    let (whole, fraction) := positional digits lead
    whole ++ '.' :: (if fraction.isEmpty then ['0'] else fraction)
  else
    let mantissa := match digits with
      | first :: second :: rest => first :: '.' :: second :: rest
      | short => short
    mantissa ++ 'e' :: (toString lead).toList

/-- The shortest text of a floating point number. -/
def shortestText (x : Float) : String :=
  match Parts.ofFloat x with
  | .nan => "NaN"
  | .infinite negative => if negative then "-inf" else "inf"
  | .finite negative magnitude =>
    let text :=
      if magnitude.significand == 0 then ['0', '.', '0'] else valueFormat.write (shortest magnitude)
    String.ofList (if negative then '-' :: text else text)

end LuaHost.Decimal
