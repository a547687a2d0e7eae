import RowScript.Output

/-!
# Writing CSV

A record is its fields with commas between them, ended by a line feed. A field that a reader could
take for something else is quoted, with its quotes doubled. A record of nothing but one empty field is
written as a pair of quotes, since an empty line is no record.
-/

namespace RowScript.Csv

/-- A character that can only stand in a quoted field. -/
def needsQuotes (c : Char) : Bool := c == ',' || c == '"' || c == '\n' || c == '\r'

/-- A character between quotes. -/
def doubled (c : Char) : List Char := if c == '"' then ['"', '"'] else [c]

/-- A field as it is written. -/
def fieldText (field : String) : String :=
  if field.any needsQuotes then "\"" ++ String.ofList (field.toList.flatMap doubled) ++ "\""
  else field

/-- A record as it is written, without its end. -/
def recordText (fields : List String) : String :=
  match fields with
  | [] | [""] => "\"\""
  | _ => String.intercalate "," (fields.map fieldText)

/-- A record as a line. -/
def line (fields : List String) : String := recordText fields ++ "\n"

/-- An output row as a line, its missing fields empty. -/
def rowLine (row : OutputRow) : String := line (row.map (·.getD ""))

end RowScript.Csv
