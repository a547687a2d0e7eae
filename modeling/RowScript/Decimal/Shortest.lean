import RowScript.Decimal.Binary64

/-!
# The shortest decimal that reads back

A float stands for an interval of reals, those that round to it. `shortest` finds the decimal with
the fewest digits in that interval; of two such decimals it takes the one nearer to the float.
For each digit count only the two decimals next to the float have to be tried, since the float lies
in the interval.
-/

namespace RowScript.Decimal

/-- A positive decimal `digits · 10 ^ scale`. -/
structure Scaled where
  digits : Nat
  scale : Int
  deriving Repr, DecidableEq

namespace Scaled

/-- Count of digits. -/
def width (d : Scaled) : Nat := (Nat.toDigits 10 d.digits).length

/-- The power of ten of the first digit. -/
def leading (d : Scaled) : Int := d.scale + d.width - 1

/-- Drop zeros at the end. At most `fuel` of them. -/
def trim : Nat → Scaled → Scaled
  | 0, d => d
  | fuel + 1, d =>
    if d.digits != 0 && d.digits % 10 == 0 then trim fuel ⟨d.digits / 10, d.scale + 1⟩ else d

end Scaled

/-- The power of ten of the first digit of `num / den`, for positive `num` and `den`. -/
def leadingPower (num den : Nat) : Int :=
  let guess : Int := ((Nat.log2 num : Int) - Nat.log2 den) * 30103 / 100000
  let atLeast (p : Int) : Bool :=
    if p ≥ 0 then den * Nat.pow 10 p.natAbs ≤ num else den ≤ num * Nat.pow 10 p.natAbs
  if atLeast (guess + 1) then guess + 1 else if atLeast guess then guess else guess - 1

/-- The interval around `num / den` that rounds to it: the distances down and up in units of
`1 / den`, and whether its ends belong to it. -/
structure Interval where
  num : Nat
  den : Nat
  down : Nat
  up : Nat
  closed : Bool

/-- The reals that round to `mantissa · 2 ^ exponent`. -/
def Interval.ofBinary (mantissa : Nat) (exponent : Int) : Interval :=
  let unit := if exponent ≥ 2 then Nat.pow 2 (exponent - 2).natAbs else 1
  let den := if exponent ≥ 2 then 1 else Nat.pow 2 (2 - exponent).natAbs
  let down := if Binary64.isPowerBoundary mantissa exponent then unit else 2 * unit
  ⟨4 * mantissa * unit, den, down, 2 * unit, mantissa % 2 == 0⟩

/-- Whether `digits · 10 ^ scale` lies in the interval. -/
def Interval.holds (i : Interval) (digits : Nat) (scale : Int) : Bool :=
  let up10 := if scale ≥ 0 then Nat.pow 10 scale.natAbs else 1
  let down10 := if scale ≥ 0 then 1 else Nat.pow 10 scale.natAbs
  let here := digits * up10 * i.den
  let low := (i.num - i.down) * down10
  let high := (i.num + i.up) * down10
  if i.closed then low ≤ here && here ≤ high else low < here && here < high

/-- Of the two neighbours with step `10 ^ scale`, the one in the interval and nearer to its float. -/
def Interval.pick (i : Interval) (scale : Int) : Option Scaled :=
  let up10 := if scale ≥ 0 then Nat.pow 10 scale.natAbs else 1
  let down10 := if scale ≥ 0 then 1 else Nat.pow 10 scale.natAbs
  let target := i.num * down10
  let step := up10 * i.den
  let below := target / step
  let rest := target % step
  let lowOk := below != 0 && i.holds below scale
  let highOk := i.holds (below + 1) scale
  if lowOk && highOk then
    if 2 * rest < step || (2 * rest == step && below % 2 == 0) then some ⟨below, scale⟩
    else some ⟨below + 1, scale⟩
  else if lowOk then some ⟨below, scale⟩
  else if highOk then some ⟨below + 1, scale⟩
  else none

/-- The shortest decimal for a positive float, `digits` of it at least. -/
def Interval.search (i : Interval) (leading : Int) : Nat → Nat → Scaled
  | 0, _ => ⟨0, 0⟩
  | fuel + 1, count =>
    match i.pick (leading - count + 1) with
    | some d => d
    | none => i.search leading fuel (count + 1)

/-- The decimal with the fewest digits that rounds to `mantissa · 2 ^ exponent`. Seventeen digits
are always enough. -/
def shortest (mantissa : Nat) (exponent : Int) : Scaled :=
  let i := Interval.ofBinary mantissa exponent
  (i.search (leadingPower i.num i.den) 18 1).trim 18

end RowScript.Decimal
