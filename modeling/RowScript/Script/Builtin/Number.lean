import RowScript.Script.Builtin.Text

/-!
# Built-in functions on numbers and ranges
-/

namespace RowScript.Script

open Reply

/-- A float as an integer, towards zero. -/
def truncated (x : Float) : Computed Datum :=
  if x > 9223372036854775807.0 || x < -9223372036854775808.0 then
    .error (.arithmetic ("Integer overflow: to_int(" ++ FloatLayout.printed.render x ++ ")"))
  else .ok (.int x.toInt64)

/-- Functions called on an integer. -/
def intBuiltin? (name : String) (n : Int64) (args : List Datum) : Option (Computed Reply) :=
  let self : Datum := .int n
  match name, args with
  | "abs", [] => some ((if n < 0 then Integer.negate n else .ok n).map fun m => ⟨.int m, self⟩)
  | "sign", [] => keep self (.int (if n < 0 then -1 else if n == 0 then 0 else 1))
  | "is_zero", [] => keep self (.bool (n == 0))
  | "is_odd", [] => keep self (.bool (n.toInt % 2 == 1))
  | "is_even", [] => keep self (.bool (n.toInt % 2 == 0))
  | "to_int", [] => keep self self
  | "to_float", [] => keep self (.float n.toFloat)
  | "max", [.int m] => keep self (.int (if n < m then m else n))
  | "min", [.int m] => keep self (.int (if m < n then m else n))
  | "max", [.float y] => keep self (.float (if n.toFloat < y then y else n.toFloat))
  | "min", [.float y] => keep self (.float (if y < n.toFloat then y else n.toFloat))
  | "range", [.int m] => keep self (.range n m false)
  | _, _ => none

/-- Functions called on a float. -/
def floatBuiltin? (name : String) (x : Float) (args : List Datum) : Option (Computed Reply) :=
  let self : Datum := .float x
  let value (y : Float) : Option (Computed Reply) := keep self (.float y)
  match name, args with
  | "abs", [] => value x.abs
  | "sign", [] => keep self (.int (if x > 0 then 1 else if x < 0 then -1 else 0))
  | "is_zero", [] => keep self (.bool (x == 0))
  | "to_int", [] => some ((truncated x).map (⟨·, self⟩))
  | "floor", [] => value x.floor
  | "ceiling", [] => value x.ceil
  | "round", [] => value x.round
  | "int", [] => value (if x < 0 then x.ceil else x.floor)
  | "fraction", [] => value (x - if x < 0 then x.ceil else x.floor)
  | "sqrt", [] => value x.sqrt
  | "exp", [] => value x.exp
  | "ln", [] => value x.log
  | "is_nan", [] => keep self (.bool x.isNaN)
  | "is_finite", [] => keep self (.bool x.isFinite)
  | "is_infinite", [] => keep self (.bool x.isInf)
  | "max", [.float y] => value (if x < y then y else x)
  | "min", [.float y] => value (if y < x then y else x)
  | "max", [.int m] => value (if x < m.toFloat then m.toFloat else x)
  | "min", [.int m] => value (if m.toFloat < x then m.toFloat else x)
  | _, _ => none

/-- Functions called on a range. -/
def rangeBuiltin? (name : String) (first last : Int64) (closed : Bool) (args : List Datum) :
    Option (Computed Reply) :=
  let self : Datum := .range first last closed
  match name, args with
  | "start", [] => keep self (.int first)
  | "end", [] => keep self (.int last)
  | "is_inclusive", [] => keep self (.bool closed)
  | "is_exclusive", [] => keep self (.bool !closed)
  | "is_empty", [] => keep self (.bool (if closed then last < first else last ≤ first))
  | "contains", [.int n] => keep self (.bool (first ≤ n && (if closed then n ≤ last else n < last)))
  | _, _ => none

end RowScript.Script
