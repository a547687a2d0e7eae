import RowScript.Collector
import RowScript.Text.Quoted

/-!
# Script values

What a variable of a script holds.

* `ofValue` and `toValue` cross the border between rows and scripts: objects become records, which
  keep the order of their names, and object maps come back with ascending names.
* `printText` is what printing shows, `debugText` what debugging shows, and `errorText` what an
  error says of a thrown value.
-/

namespace RowScript.Script

inductive Datum
  | unit
  | bool (b : Bool)
  | int (n : Int64)
  | float (x : Float)
  | char (c : Char)
  | string (s : String)
  | array (items : List Datum)
  /-- An object map; its names ascend. -/
  | map (entries : List (String × Datum))
  /-- The values of one record, in column order. -/
  | record (values : ValueMap)
  | collector (handle : CollectorHandle)
  /-- A function by name, with the arguments it already has. -/
  | function (name : String) (bound : List Datum)
  | range (first last : Int64) (closed : Bool)
  /-- A variable that a closure shares with its surroundings. -/
  | cell (index : Nat)
  deriving Inhabited

/-- Object maps: entries whose names ascend. -/
abbrev ObjectMap := Entries Datum

namespace Datum

/-! ### Kinds -/

def kindName : Datum → String
  | unit => "()"
  | bool _ => "bool"
  | int _ => "i64"
  | float _ => "f64"
  | char _ => "char"
  | string _ => "string"
  | array _ => "array"
  | map _ => "map"
  | record _ => "Record"
  | collector _ => "OutputCollector"
  | function _ _ => "Fn"
  | range _ _ closed => if closed then "range=" else "range"
  | cell _ => "()"

/-- The name of a kind in the signature of a call. -/
def signatureName : Datum → String
  | string _ => "&str | ImmutableString | String"
  | d => d.kindName

/-- Kinds that the language itself knows nothing of. -/
def isForeign : Datum → Bool
  | record _ | collector _ | range _ _ _ => true
  | _ => false

def sameKind (a b : Datum) : Bool := a.kindName == b.kindName

def asBool? : Datum → Option Bool
  | bool b => some b
  | _ => none

def isCell : Datum → Bool
  | cell _ => true
  | _ => false

/-- What a place holds: the value in it, or that of the cell which stands in it. -/
def loadFrom (cells : Array Datum) : Datum → Datum
  | cell i => cells.getD i unit
  | d => d

/-! ### Crossing the border -/

mutual

/-- A value inside a script. -/
def ofValue : Value → Datum
  | .null => unit
  | .bool b => bool b
  | .int n => int n
  | .float x => float x
  | .string s => string s
  | .array items => array (ofValues items)
  | .object entries => record entries

def ofValues : List Value → List Datum
  | [] => []
  | v :: rest => ofValue v :: ofValues rest

end

/-- The text of a value of a foreign kind where nobody says how to print it. -/
def foreignName : Datum → String
  | record _ => "rhi_graft_rhai::record::Record"
  | collector _ => "rhi_graft_core::collector::RecordCollector"
  | d => d.kindName

def rangeText (first last : Int64) (closed : Bool) : String :=
  toString first.toInt ++ (if closed then "..=" else "..") ++ toString last.toInt

def functionText (name : String) : String := "Fn(" ++ name ++ ")"

mutual

/-- A value outside its script. Kinds without a counterpart become texts. -/
def toValue : Datum → Value
  | unit => .null
  | bool b => .bool b
  | int n => .int n
  | float x => .float x
  | char c => .string (String.singleton c)
  | string s => .string s
  | array items => .array (itemValues items)
  | map entries => .object (entryValues entries)
  | record values => .object values
  | collector h => .string (collector h).foreignName
  | function name _ => .string (functionText name)
  | range first last closed => .string (rangeText first last closed)
  | cell _ => .null

def itemValues : List Datum → List Value
  | [] => []
  | d :: rest => d.toValue :: itemValues rest

def entryValues : List (String × Datum) → List (String × Value)
  | [] => []
  | (k, d) :: rest => (k, d.toValue) :: entryValues rest

end

mutual

@[simp] theorem toValue_ofValue (v : Value) : (ofValue v).toValue = v := by
  cases v with
  | array items => rw [ofValue, toValue, itemValues_ofValues items]
  | null => rfl
  | bool b => rfl
  | int n => rfl
  | float x => rfl
  | string s => rfl
  | object entries => rfl

theorem itemValues_ofValues (vs : List Value) : itemValues (ofValues vs) = vs := by
  cases vs with
  | nil => rfl
  | cons v rest => rw [ofValues, itemValues, toValue_ofValue v, itemValues_ofValues rest]

end

/-! ### Texts -/

mutual

/-- The text of a value inside another one, where texts are quoted; `foreign` prints the kinds that
the language knows nothing of. -/
def innerText (foreign : Datum → String) : Datum → String
  | unit => "()"
  | bool b => if b then "true" else "false"
  | int n => toString n.toInt
  | float x => FloatLayout.canonical.render x
  | char c => quoteSingle c
  | string s => quoteText s
  | array items => "[" ++ String.intercalate ", " (innerItems foreign items) ++ "]"
  | map entries => "#\x7b" ++ String.intercalate ", " (innerEntries foreign entries) ++ "\x7d"
  | record values => foreign (record values)
  | collector h => foreign (collector h)
  | function name _ => functionText name
  | range first last closed => rangeText first last closed
  | cell _ => "()"

def innerItems (foreign : Datum → String) : List Datum → List String
  | [] => []
  | d :: rest => innerText foreign d :: innerItems foreign rest

def innerEntries (foreign : Datum → String) : List (String × Datum) → List String
  | [] => []
  | (k, d) :: rest => (quoteText k ++ ": " ++ innerText foreign d) :: innerEntries foreign rest

end

/-- The text of a value by itself. -/
def outerText (foreign : Datum → String) : Datum → String
  | unit => ""
  | float x => FloatLayout.printed.render x
  | char c => String.singleton c
  | string s => s
  | d => d.innerText foreign

/-- Foreign kinds as printing shows them. -/
def shown : Datum → String
  | record values => values.text
  | d => d.kindName

/-- What printing shows. -/
def printText (d : Datum) : String := d.outerText shown

/-- What debugging shows. -/
def debugText (d : Datum) : String := d.innerText shown

/-- What an error says of a thrown value. -/
def errorText (d : Datum) : String := d.outerText foreignName

/-! ### Sizes -/

mutual

/-- The bytes of all texts in a value. -/
def textSize : Datum → Nat
  | string s => s.utf8ByteSize
  | array items => itemSizes items
  | map entries => entrySizes entries
  | _ => 0

def itemSizes : List Datum → Nat
  | [] => 0
  | d :: rest => d.textSize + itemSizes rest

def entrySizes : List (String × Datum) → Nat
  | [] => 0
  | (_, d) :: rest => d.textSize + entrySizes rest

end

end Datum

end RowScript.Script
