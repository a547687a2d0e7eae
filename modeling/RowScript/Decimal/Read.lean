import RowScript.Decimal.Binary64
import RowScript.Text.White

/-!
# Reading numbers

`readInt64` reads a signed 64-bit integer and `readFloat` a float from a whole text. Both say what is
wrong with a text they refuse.
-/

namespace RowScript

/-- The value of an ASCII digit. -/
def digitValue? (c : Char) : Option Nat :=
  if '0' ≤ c ∧ c ≤ '9' then some (c.toNat - '0'.toNat) else none

/-- Why a text is no integer. -/
inductive IntegerFault
  | empty
  | invalidDigit
  | tooLarge
  | tooSmall
  deriving Repr, DecidableEq

def IntegerFault.message : IntegerFault → String
  | .empty => "cannot parse integer from empty string"
  | .invalidDigit => "invalid digit found in string"
  | .tooLarge => "number too large to fit in target type"
  | .tooSmall => "number too small to fit in target type"

namespace Digits

/-- Read digits after `acc`, downward from zero if `negative`. The first character that is no digit
or leaves the range from `lo` to `hi` decides the fault. -/
def readFrom (lo hi : Int) (negative : Bool) : Int → List Char → Except IntegerFault Int
  | acc, [] => .ok acc
  | acc, c :: rest =>
    match digitValue? c with
    | none => .error .invalidDigit
    | some d =>
      let next := if negative then acc * 10 - d else acc * 10 + d
      if next < lo then .error .tooSmall
      else if next > hi then .error .tooLarge
      else readFrom lo hi negative next rest

/-- An optional sign and at least one digit, in the range from `lo` to `hi`. A minus sign is allowed
where `lo` is negative. -/
def read (lo hi : Int) : List Char → Except IntegerFault Int
  | [] => .error .empty
  | ['+'] | ['-'] => .error .invalidDigit
  | '+' :: rest => readFrom lo hi false 0 rest
  | '-' :: rest => if lo < 0 then readFrom lo hi true 0 rest else .error .invalidDigit
  | cs => readFrom lo hi false 0 cs

end Digits

def readInt64 (s : String) : Except IntegerFault Int64 :=
  (Digits.read Int64.minValue.toInt Int64.maxValue.toInt s.toList).map Int64.ofInt

def readUInt64 (s : String) : Except IntegerFault UInt64 :=
  (Digits.read 0 (Nat.pow 2 64 - 1) s.toList).map fun n => UInt64.ofNat n.toNat

/-- Why a text is no float. -/
inductive FloatFault
  | empty
  | invalid
  deriving Repr, DecidableEq

def FloatFault.message : FloatFault → String
  | .empty => "cannot parse float from empty string"
  | .invalid => "invalid float literal"

namespace Digits

/-- The digits at the front and the rest. -/
def span (cs : List Char) : List Char × List Char := cs.span fun c => (digitValue? c).isSome

/-- The number that a list of digits denotes. -/
def value (ds : List Char) : Nat := ds.foldl (fun n c => n * 10 + (digitValue? c).getD 0) 0

/-- A signed exponent, which is the rest of the text. -/
def exponent? : List Char → Option Int
  | '+' :: rest => magnitude? rest
  | '-' :: rest => (magnitude? rest).map (- ·)
  | rest => magnitude? rest
where
  magnitude? (ds : List Char) : Option Int :=
    if ds.isEmpty || ds.any (fun c => (digitValue? c).isNone) then none
    else some (value ds)

end Digits

/-- `digits . digits e exponent`, with a digit on at least one side of the point. -/
def readUnsignedFloat? (negative : Bool) (cs : List Char) : Option Float :=
  let (whole, rest) := Digits.span cs
  let (places, rest) := match rest with
    | '.' :: rest => Digits.span rest
    | _ => ([], rest)
  if whole.isEmpty && places.isEmpty then none
  else
    let exponent? := match rest with
      | [] => some 0
      | c :: rest => if c == 'e' || c == 'E' then Digits.exponent? rest else none
    exponent?.map fun e =>
      floatOfDecimal negative (Digits.value (whole ++ places)) (e - places.length)

/-- A float with an optional sign; also `inf`, `infinity` and `nan` in any case. -/
def readFloat (s : String) : Except FloatFault Float :=
  match s.toList with
  | [] => .error .empty
  | c :: rest =>
    let negative := c == '-'
    let body := if c == '-' || c == '+' then rest else c :: rest
    match String.ofList (body.map Char.toLower) with
    | "nan" => .ok (0.0 / 0.0)
    | "inf" | "infinity" => .ok (if negative then -1.0 / 0.0 else 1.0 / 0.0)
    | _ => match readUnsignedFloat? negative body with
      | some x => .ok x
      | none => .error .invalid

end RowScript
