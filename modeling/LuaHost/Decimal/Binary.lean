/-!
# Binary numbers as ratios

A finite 64-bit floating point number is `significand · 2 ^ exponent`. This module takes it apart
and compares it with decimal grids, the multiples of a power of ten, in exact arithmetic.
-/

namespace LuaHost.Decimal

/-- The finite number `significand · 2 ^ exponent`. -/
structure Binary where
  significand : Nat
  exponent : Int
  deriving DecidableEq, Repr

/-- The significand of a power of two, which is the least one of a number with full precision. -/
def leadingBit : Nat := 1 <<< 52

/-- A floating point number, taken apart. -/
inductive Parts where
  | nan
  | infinite (negative : Bool)
  | finite (negative : Bool) (magnitude : Binary)
  deriving DecidableEq, Repr

/-- The parts of a floating point number. -/
def Parts.ofFloat (x : Float) : Parts :=
  let bits := x.toBits.toNat
  let negative := bits >>> 63 == 1
  let exponent : Nat := bits / leadingBit % 2048
  let fraction : Nat := bits % leadingBit
  if exponent == 2047 then
    if fraction == 0 then .infinite negative else .nan
  else if exponent == 0 then .finite negative ⟨fraction, -1074⟩
  else .finite negative ⟨fraction + leadingBit, (exponent : Int) - 1075⟩

/-- A positive ratio of two natural numbers. -/
structure Ratio where
  numerator : Nat
  denominator : Nat
  deriving DecidableEq, Repr

/-- `m · 2 ^ q` as a ratio. -/
def Ratio.ofBinary (m : Nat) (q : Int) : Ratio :=
  if 0 ≤ q then ⟨m <<< q.toNat, 1⟩ else ⟨m, 1 <<< (-q).toNat⟩

/-- The number of decimal digits of a natural number. -/
def digitCount (n : Nat) : Nat :=
  (Nat.toDigits 10 n).length

/-- The exponent of the first digit: the greatest `k` with `10 ^ k ≤ r`. -/
def Ratio.leadingExponent (r : Ratio) : Int :=
  if r.denominator ≤ r.numerator then digitCount (r.numerator / r.denominator) - 1
  else -(digitCount ((r.denominator - 1) / r.numerator) : Int)

/-- The ratio divided by `10 ^ e`. -/
def Ratio.unscale (r : Ratio) (e : Int) : Ratio :=
  if 0 ≤ e then ⟨r.numerator, r.denominator * Nat.pow 10 e.toNat⟩
  else ⟨r.numerator * Nat.pow 10 (-e).toNat, r.denominator⟩

/-- The greatest integer below a ratio. -/
def Ratio.floor (r : Ratio) : Nat :=
  r.numerator / r.denominator

/-- The nearest integer to a ratio; halfway between two, the even one. -/
def Ratio.round (r : Ratio) : Nat :=
  let below := r.floor
  let twice := 2 * (r.numerator % r.denominator)
  if twice < r.denominator then below
  else if r.denominator < twice then below + 1
  else if below % 2 == 0 then below else below + 1

/-- The number `digits · 10 ^ exponent`. -/
structure Figure where
  digits : Nat
  exponent : Int
  deriving DecidableEq, Repr

/-- The digits of a figure without zeros at their end, and the exponent of the first digit. -/
def Figure.leading (f : Figure) : List Char × Int :=
  let all := Nat.toDigits 10 f.digits
  let kept := (all.reverse.dropWhile (· == '0')).reverse
  (if kept.isEmpty then ['0'] else kept, f.exponent + all.length - 1)

/-- Digits with the first of them at `10 ^ lead`, written without exponent; a number without
fraction has none. -/
def positional (digits : List Char) (lead : Int) : List Char × List Char :=
  if lead < 0 then (['0'], List.replicate (-lead - 1).toNat '0' ++ digits)
  else
    let whole := lead.toNat + 1
    (digits.take whole ++ List.replicate (whole - digits.length) '0', digits.drop whole)

end LuaHost.Decimal
