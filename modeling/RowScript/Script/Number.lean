import RowScript.Decimal.Binary64
import RowScript.Script.Fault

/-!
# Arithmetic

Integers have 64 bits, and a result out of range is a fault. Floats follow the binary64 standard.
-/

namespace RowScript.Script

/-- A result that may be a fault. -/
abbrev Computed := Except Cause

namespace Integer

/-- An integer that has to be in range. -/
def checked (n : Int) (what : String) : Computed Int64 :=
  if Int64.minValue.toInt ≤ n && n ≤ Int64.maxValue.toInt then .ok (Int64.ofInt n)
  else .error (.arithmetic what)

/-- An operation and its operands in a message. -/
def shown (what : String) (a : Int64) (sign : String) (b : Int64) : String :=
  what ++ ": " ++ toString a.toInt ++ " " ++ sign ++ " " ++ toString b.toInt

def add (a b : Int64) : Computed Int64 :=
  checked (a.toInt + b.toInt) (shown "Addition overflow" a "+" b)

def sub (a b : Int64) : Computed Int64 :=
  checked (a.toInt - b.toInt) (shown "Subtraction overflow" a "-" b)

def mul (a b : Int64) : Computed Int64 :=
  checked (a.toInt * b.toInt) (shown "Multiplication overflow" a "*" b)

/-- Division rounds towards zero. -/
def div (a b : Int64) : Computed Int64 :=
  if b == 0 then .error (.arithmetic (shown "Division by zero" a "/" b))
  else checked (a.toInt.tdiv b.toInt) (shown "Division overflow" a "/" b)

/-- The remainder has the sign of the first operand. -/
def mod (a b : Int64) : Computed Int64 :=
  if b == 0 || (b == -1 && a == Int64.minValue) then
    .error (.arithmetic (shown "Modulo division by zero or overflow" a "%" b))
  else .ok (Int64.ofInt (a.toInt.tmod b.toInt))

/-- The power of an integer, which is out of range for any base but -1, 0 and 1 once the exponent
passes 63. -/
def pow (a b : Int64) : Computed Int64 :=
  if b < 0 then .error (.arithmetic (shown "Integer raised to a negative index" a "**" b))
  else if b.toInt > 4294967295 then
    .error (.arithmetic (shown "Integer raised to too large an index" a "**" b))
  else if b.toInt > 64 && (a.toInt == 0 || a.toInt == 1 || a.toInt == -1) then
    .ok (if a == -1 && b.toInt % 2 == 1 then -1 else if a == 0 then 0 else 1)
  else if b.toInt > 64 then .error (.arithmetic (shown "Exponential overflow" a "**" b))
  else checked (a.toInt.pow b.toInt.toNat) (shown "Exponential overflow" a "**" b)

/-- Shift left by `n` places; none is left after 64. -/
def shiftLeftBy (a : Int64) (n : Nat) : Int64 := if n ≥ 64 then 0 else Int64.ofInt (a.toInt * Nat.pow 2 n)

/-- Shift right by `n` places, with the sign. -/
def shiftRightBy (a : Int64) (n : Nat) : Int64 :=
  if n ≥ 64 then (if a < 0 then -1 else 0) else Int64.ofInt (a.toInt.fdiv (Nat.pow 2 n))

/-- A shift by a negative count goes the other way. -/
def shiftLeft (a b : Int64) : Int64 :=
  if b < 0 then shiftRightBy a b.toInt.natAbs else shiftLeftBy a b.toInt.natAbs

def shiftRight (a b : Int64) : Int64 :=
  if b < 0 then shiftLeftBy a b.toInt.natAbs else shiftRightBy a b.toInt.natAbs

def negate (a : Int64) : Computed Int64 :=
  checked (-a.toInt) ("Negation overflow: -" ++ toString a.toInt)

end Integer

namespace Floating

/-- The remainder of a division that rounds towards zero. It is exact, and has the sign of the
first operand. -/
def mod (x y : Float) : Float :=
  match Binary64.ofFloat x, Binary64.ofFloat y with
  | .finite negative m e, .finite _ n f =>
    if n == 0 then 0.0 / 0.0
    else
      let low := min e f
      let a := m * Nat.pow 2 (e - low).natAbs
      let b := n * Nat.pow 2 (f - low).natAbs
      let r := Float.scaleB (Float.ofNat (a % b)) low
      if negative then -r else r
  | .finite _ _ _, .infinite _ => x
  | _, _ => 0.0 / 0.0

/-- Powers by repeated squaring. -/
def powNat (x : Float) : Nat → Nat → Float → Float
  | 0, _, acc => acc
  | fuel + 1, n, acc =>
    let acc := if n % 2 == 1 then acc * x else acc
    if n / 2 == 0 then acc else powNat (x * x) fuel (n / 2) acc

/-- The power with a whole exponent. -/
def powInt (x : Float) (n : Int64) : Float :=
  let p := powNat x 64 n.toInt.natAbs 1.0
  if n < 0 then 1.0 / p else p

end Floating

end RowScript.Script
