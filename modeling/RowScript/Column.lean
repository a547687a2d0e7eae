import RowScript.Value
import RowScript.Decimal.Read
import RowScript.Text.Case

/-!
# Columns and rows

An input column names a column of the incoming rows and the type its text is read at. A row holds the
values of one record by column name; `toValueMap` is what a script gets to see of it.

* `ColumnType.parse` reads the text of a cell; empty text is null at every type.
* `toValueMap` has the names of the columns in the order of their first occurrence.
-/

namespace RowScript

/-- The type that a cell of a column is read at. -/
inductive ColumnType
  | any
  | string
  | integer
  | float
  | boolean
  deriving Repr, DecidableEq, Inhabited

namespace ColumnType

def all : List ColumnType := [any, string, integer, float, boolean]

/-- The name in configuration files. -/
def id : ColumnType → String
  | any => "any"
  | string => "string"
  | integer => "integer"
  | float => "float"
  | boolean => "boolean"

/-- The name in messages. -/
def label : ColumnType → String
  | any => "Any"
  | string => "String"
  | integer => "Integer"
  | float => "Float"
  | boolean => "Boolean"

def ofId? (s : String) : Option ColumnType := all.find? (·.id == s)

end ColumnType

/-- Why the text of a cell cannot be read at its column's type. -/
inductive CellFault
  | integer (raw : String) (fault : IntegerFault)
  | float (raw : String) (fault : FloatFault)
  | boolean (raw : String)
  deriving Repr, DecidableEq

def CellFault.message : CellFault → String
  | .integer raw fault => s!"'{raw}' is not an integer: {fault.message}"
  | .float raw fault => s!"'{raw}' is not a float: {fault.message}"
  | .boolean raw => s!"'{raw}' is not a boolean"

/-- Read the text of a cell. Numbers and truth values may have white space around them. -/
def ColumnType.parse (type : ColumnType) (raw : String) : Except CellFault Value :=
  if raw.isEmpty then .ok .null
  else
    match type with
    | .any | .string => .ok (.string raw)
    | .integer =>
      match readInt64 (trimWhite raw) with
      | .ok n => .ok (.int n)
      | .error e => .error (.integer raw e)
    | .float =>
      match readFloat (trimWhite raw) with
      | .ok x => .ok (.float x)
      | .error e => .error (.float raw e)
    | .boolean =>
      let word := toLowerCase (trimWhite raw)
      if word == "true" || word == "yes" || word == "1" then .ok (.bool true)
      else if word == "false" || word == "no" || word == "0" then .ok (.bool false)
      else .error (.boolean word)

/-- A column of the incoming rows. -/
structure InputColumn where
  name : String
  type : ColumnType
  deriving Repr, DecidableEq, Inhabited

/-- A record: values by column name. -/
structure Row where
  values : ValueMap
  deriving Inhabited

namespace Row

def empty : Row := ⟨[]⟩

def insert (r : Row) (name : String) (v : Value) : Row := ⟨r.values.insert name v⟩

/-- The value in a column, null if the row has none of that name. -/
def value (r : Row) (c : InputColumn) : Value := (r.values.get? c.name).getD .null

def size (r : Row) : Nat := r.values.length

end Row

/-- The map a script gets for one record, whatever the record's source of values is. -/
def valueMapOf (inputs : List InputColumn) (value : InputColumn → Value) : ValueMap :=
  inputs.foldl (fun m c => m.insert c.name (value c)) []

/-- The map a script gets for a row. -/
def toValueMap (inputs : List InputColumn) (row : Row) : ValueMap := valueMapOf inputs row.value

end RowScript
