/-!
# The numbers a 64-bit float stands for

`Binary64.ofFloat` takes a float apart into a sign and a natural multiple of a power of two, so that
reading and writing of decimals can be done in exact arithmetic.
-/

namespace RowScript

/-- A 64-bit float taken apart: not a number, an infinity, or `± mantissa · 2 ^ exponent`. -/
inductive Binary64
  | nan
  | infinite (negative : Bool)
  | finite (negative : Bool) (mantissa : Nat) (exponent : Int)
  deriving Repr, DecidableEq

namespace Binary64

def ofFloat (x : Float) : Binary64 :=
  let word : Nat := x.toBits.toNat
  let negative := word / Nat.pow 2 63 == 1
  let field : Nat := word / Nat.pow 2 52 % Nat.pow 2 11
  let fraction : Nat := word % Nat.pow 2 52
  if field == 2047 then
    if fraction == 0 then .infinite negative else .nan
  else if field == 0 then .finite negative fraction (-1074)
  else .finite negative (Nat.pow 2 52 + fraction) ((field : Int) - 1075)

/-- Whether the next float below has only half the distance of the next one above. -/
def isPowerBoundary (mantissa : Nat) (exponent : Int) : Bool :=
  mantissa == Nat.pow 2 52 && exponent > -1074

end Binary64

/-- The float nearest to `± digits · 10 ^ exponent`, of two the one with the even mantissa. -/
def floatOfDecimal (negative : Bool) (digits : Nat) (exponent : Int) : Float :=
  let places : Int := (Nat.toDigits 10 digits).length
  let magnitude : Float :=
    if digits == 0 || places + exponent < -400 then 0.0
    else if places + exponent > 400 then 1.0 / 0.0
    else if exponent < 0 then Float.ofScientific digits true exponent.natAbs
    else Float.ofScientific digits false exponent.natAbs
  if negative then -magnitude else magnitude

end RowScript
