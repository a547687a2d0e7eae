import RowScript.Decimal.Shortest

/-!
# Texts of floats

Every text of a float carries the digits of `Decimal.shortest`. A `FloatLayout` says how they are
laid out: which floats are written with all their places, how an exponent is written, and what
stands for the values without digits.
-/

namespace RowScript

/-- How the digits of a float are written. -/
structure FloatLayout where
  /-- Written with all places, not with an exponent. -/
  positional : Float → Bool
  /-- An exponent that is not negative carries a plus sign. -/
  plusExponent : Bool
  /-- A zero keeps its sign. -/
  signedZero : Bool

namespace FloatLayout

/-- `123, scale -1` as `12.3`; a whole number gets `.0`. -/
def positionalText (d : Decimal.Scaled) : String :=
  let ds := Nat.toDigits 10 d.digits
  if d.scale ≥ 0 then
    String.ofList (ds ++ List.replicate d.scale.natAbs '0') ++ ".0"
  else
    let places := d.scale.natAbs
    if places < ds.length then
      String.ofList (ds.take (ds.length - places)) ++ "." ++
        String.ofList (ds.drop (ds.length - places))
    else "0." ++ String.ofList (List.replicate (places - ds.length) '0' ++ ds)

/-- `123, scale -1` as `1.23e1`. -/
def exponentText (plus : Bool) (d : Decimal.Scaled) : String :=
  let mantissa := match Nat.toDigits 10 d.digits with
    | [] => "0"
    | [c] => String.singleton c
    | c :: rest => String.singleton c ++ "." ++ String.ofList rest
  let sign := if plus && d.leading ≥ 0 then "+" else ""
  mantissa ++ "e" ++ sign ++ toString d.leading

/-- The text of `x` in this layout. -/
def render (layout : FloatLayout) (x : Float) : String :=
  match Binary64.ofFloat x with
  | .nan => "NaN"
  | .infinite negative => if negative then "-inf" else "inf"
  | .finite negative mantissa exponent =>
    let sign (keep : Bool) : String := if negative && keep then "-" else ""
    if mantissa == 0 then sign layout.signedZero ++ "0.0"
    else
      let d := Decimal.shortest mantissa exponent
      sign true ++
        if layout.positional x then positionalText d else exponentText layout.plusExponent d

end FloatLayout

/-- The canonical text: all places from `1e-4` up to below `1e16`. -/
def FloatLayout.canonical : FloatLayout where
  positional x := x.abs ≥ 1e-4 && x.abs < 1e16
  plusExponent := false
  signedZero := true

/-- The text in a JSON document: all places from `1e-5` up to below `1e16`, and exponents with their
sign. -/
def FloatLayout.json : FloatLayout where
  positional x := x.abs ≥ 1e-5 && x.abs < 1e16
  plusExponent := true
  signedZero := true

/-- The text that a script prints: all places from `1e-13` up to `1e13`, where both limits are
those numbers in single precision, and a zero without its sign. -/
def FloatLayout.printed : FloatLayout where
  positional x := x.abs ≥ 9.9999998245167e-14 && x.abs ≤ 9999999827968.0
  plusExponent := false
  signedZero := false

end RowScript
