import RowScript.Value

/-!
# Output rows

What leaves a script becomes rows of optional texts, where a missing text is the null marker.

* `outputField` turns any value into one field.
* `outputRow` turns a value into a row of a given width, `outputRows` a returned value into any
  number of such rows.
-/

namespace RowScript

/-- One output record in output-column order. -/
abbrev OutputRow := List (Option String)

/-- Pad with nulls or drop surplus fields, to `width` fields. -/
def fitRow (width : Nat) (row : OutputRow) : OutputRow :=
  row.take width ++ List.replicate (width - row.length) none

/-- Null is the null marker, a string is itself, and anything else its canonical text. -/
def outputField : Value → Option String
  | .null => none
  | .string s => some s
  | v => some v.text

/-- A sequence or an object fills the fields in order, any other value the first one. -/
def outputRow (width : Nat) (v : Value) : OutputRow :=
  fitRow width <|
    match v with
    | .array items => items.map outputField
    | .object entries => entries.map fun p => outputField p.2
    | v => [outputField v]

/-- A sequence of sequences is one row each, null is no row, and any other value one row. -/
def outputRows (width : Nat) : Value → List OutputRow
  | .null => []
  | .array items =>
    if !items.isEmpty && items.all (fun v => v.asArray?.isSome) then items.map (outputRow width)
    else [outputRow width (.array items)]
  | v => [outputRow width v]

@[simp] theorem length_fitRow (width : Nat) (row : OutputRow) : (fitRow width row).length = width := by
  simp [fitRow]; omega

/-- A row of the right width is left alone. -/
theorem fitRow_of_length {width : Nat} {row : OutputRow} (h : row.length = width) :
    fitRow width row = row := by
  simp [fitRow, ← h]

@[simp] theorem length_outputRow (width : Nat) (v : Value) : (outputRow width v).length = width :=
  length_fitRow _ _

end RowScript
