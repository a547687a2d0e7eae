import RowScript.Entries
import RowScript.Decimal.Layout

/-!
# Values

What a cell of a row can hold and what a script gives back.

* `Value.text` is the canonical text: strings raw, sequences as `[a, b]`, objects as `{k=v}`, and
  floats with a fractional part so that they read back as floats.
* `Value.same` is the equality of values: floats by their order (so not-a-number differs from
  itself), objects without regard to the order of their names, and no number of one kind equal to
  one of the other.
-/

namespace RowScript

inductive Value
  | null
  | bool (b : Bool)
  | int (n : Int64)
  | float (x : Float)
  | string (s : String)
  | array (items : List Value)
  | object (entries : List (String × Value))
  deriving Inhabited

/-- The values of one record by column name. -/
abbrev ValueMap := Entries Value

namespace Value

def isNull : Value → Bool
  | null => true
  | _ => false

def asBool? : Value → Option Bool
  | bool b => some b
  | _ => none

def asInt? : Value → Option Int64
  | int n => some n
  | _ => none

/-- A float, or an integer as the float nearest to it. -/
def asFloat? : Value → Option Float
  | float x => some x
  | int n => some n.toFloat
  | _ => none

def asString? : Value → Option String
  | string s => some s
  | _ => none

def asArray? : Value → Option (List Value)
  | array items => some items
  | _ => none

def asObject? : Value → Option ValueMap
  | object entries => some entries
  | _ => none

/-- A value that may be missing. -/
def ofOption (f : α → Value) : Option α → Value
  | some a => f a
  | none => null

mutual

/-- The canonical text of a value. -/
def text : Value → String
  | null => "null"
  | bool b => if b then "true" else "false"
  | int n => toString n.toInt
  | float x => FloatLayout.canonical.render x
  | string s => s
  | array items => "[" ++ String.intercalate ", " (itemTexts items) ++ "]"
  | object entries => "\x7b" ++ String.intercalate ", " (entryTexts entries) ++ "\x7d"

def itemTexts : List Value → List String
  | [] => []
  | v :: rest => v.text :: itemTexts rest

def entryTexts : List (String × Value) → List String
  | [] => []
  | (k, v) :: rest => (k ++ "=" ++ v.text) :: entryTexts rest

end

mutual

/-- Equality of values. -/
def same : Value → Value → Bool
  | null, null => true
  | bool a, bool b => a == b
  | int a, int b => a == b
  | float a, float b => a == b
  | string a, string b => a == b
  | array as, array bs => sameItems as bs
  | object as, object bs => as.length == bs.length && sameEntries as bs
  | _, _ => false

def sameItems : List Value → List Value → Bool
  | [], [] => true
  | a :: as, b :: bs => same a b && sameItems as bs
  | _, _ => false

/-- Every entry of the first map is one of the second. -/
def sameEntries : List (String × Value) → List (String × Value) → Bool
  | [], _ => true
  | (k, v) :: rest, bs =>
    (match bs.lookup k with
      | some w => same v w
      | none => false) && sameEntries rest bs

end

end Value

/-- The canonical text of a record. -/
def ValueMap.text (m : ValueMap) : String := (Value.object m).text

/-- Equality of records, whatever the order of their names. -/
def ValueMap.same (a b : ValueMap) : Bool := (Value.object a).same (Value.object b)

end RowScript
