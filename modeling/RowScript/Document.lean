import RowScript.Value

/-!
# Documents

What a configuration text says, whatever its format: nested lists and tables of simple values.
Members of a table stay in order, and repeated names stay too; who reads a table decides what they
mean.

* `Document.toValue?` reads a value for a row, in which the last of repeated names wins.
* `Layer.fields?` reads the outermost layer of a document as the fields of a structure, which may
  be written as a table or as a list of its fields in order.
-/

namespace RowScript

/-- What a member of a table is found by. -/
inductive Key
  | name (s : String)
  /-- A number, which can stand for the field at that place. -/
  | place (n : Nat)
  | other
  deriving Repr, DecidableEq, Inhabited

def Key.text : Key → String
  | name s => s
  | place n => toString n
  | other => ""

inductive Document
  | null
  | bool (b : Bool)
  | int (n : Int)
  | float (x : Float)
  | string (s : String)
  | list (items : List Document)
  | table (members : List (Key × Document))
  deriving Inhabited

/-- An integer as a value: beyond 64 bits with a sign only a float can hold it. -/
def Value.ofInt (n : Int) : Value :=
  if Int64.minValue.toInt ≤ n ∧ n ≤ Int64.maxValue.toInt then .int (Int64.ofInt n)
  else .float (UInt64.ofNat n.toNat).toFloat

namespace Document

mutual

/-- A value for a row. A table needs names for its members. -/
def toValue? : Document → Option Value
  | null => some .null
  | bool b => some (.bool b)
  | int n => some (.ofInt n)
  | float x => some (.float x)
  | string s => some (.string s)
  | list items => (itemValues? items).map .array
  | table members => (memberValues? members).map fun ps => .object (Entries.ofPairs ps)

def itemValues? : List Document → Option (List Value)
  | [] => some []
  | d :: rest => do return (← d.toValue?) :: (← itemValues? rest)

def memberValues? : List (Key × Document) → Option (List (String × Value))
  | [] => some []
  | (.name k, d) :: rest => do return (k, ← d.toValue?) :: (← memberValues? rest)
  | _ :: _ => none

end

mutual

def ofValue : Value → Document
  | .null => null
  | .bool b => bool b
  | .int n => int n.toInt
  | .float x => float x
  | .string s => string s
  | .array items => list (ofValues items)
  | .object entries => table (ofEntries entries)

def ofValues : List Value → List Document
  | [] => []
  | v :: rest => ofValue v :: ofValues rest

def ofEntries : List (String × Value) → List (Key × Document)
  | [] => []
  | (k, v) :: rest => (.name k, ofValue v) :: ofEntries rest

end

def asBool? : Document → Option Bool
  | bool b => some b
  | _ => none

def asString? : Document → Option String
  | string s => some s
  | _ => none

def asUInt64? : Document → Option UInt64
  | int n => if 0 ≤ n ∧ n < Nat.pow 2 64 then some (UInt64.ofNat n.toNat) else none
  | _ => none

/-- A count, read by `asUInt64?`. -/
def ofUInt64 (n : UInt64) : Document := int n.toNat

def asList? : Document → Option (List Document)
  | list items => some items
  | _ => none

/-- A value that may be missing. -/
def optional? (read? : Document → Option α) : Document → Option (Option α)
  | null => some none
  | d => (read? d).map some

/-- A value that may be missing, read by `optional?`. -/
def ofOption (write : α → Document) (o : Option α) : Document := (o.map write).getD null

/-- The values of a row. -/
def asValueMap? (d : Document) : Option ValueMap := d.toValue?.bind Value.asObject?

end Document

/-- What formats allow in different ways. -/
structure Dialect where
  /-- What can stand after the name of a choice that holds nothing else. -/
  isUnit : Document → Bool
  /-- A list of fields may have more items than there are fields. -/
  ignoresExtraItems : Bool

namespace Document

/-- The place in `names` of a choice, given by its name or as a table with that one member. -/
def choice? (dialect : Dialect) (names : List String) : Document → Option Nat
  | string s => names.findIdx? (· == s)
  | table [(key, d)] =>
    if dialect.isUnit d then
      match key with
      | .name s => names.findIdx? (· == s)
      | .place n => if n < names.length then some n else none
      | .other => none
    else none
  | _ => none

end Document

namespace Dialect

/-- Inside a document that has been read as a whole. -/
def nested : Dialect where
  isUnit
    | .null | .table [] => true
    | _ => false
  ignoresExtraItems := false

end Dialect

/-- The outermost layer of a document. A member that nobody asks for need not be readable. -/
inductive Layer
  | table (members : List (Key × Option Document))
  | list (items : List (Option Document))
  | simple
  deriving Inhabited

def Document.layer : Document → Layer
  | .table members => .table (members.map fun (k, d) => (k, some d))
  | .list items => .list (items.map some)
  | _ => .simple

namespace Layer

/-- Which of `names` a key means. -/
def field? (names : List String) : Key → Option String
  | .name s => names.find? (· == s)
  | .place n => names[n]?
  | .other => none

/-- The members of a table that are in `names`. No name may be repeated. Other members are passed
over, or refused if `strict`. -/
def gather? (names : List String) (strict : Bool) :
    List (Key × Option Document) → Option (Entries Document)
  | [] => some []
  | (.other, _) :: _ => none
  | (key, d?) :: rest =>
    match field? names key with
    | some name => do
      let found ← gather? names strict rest
      if found.contains name then none else return (name, ← d?) :: found
    | none => if strict then none else gather? names strict rest

/-- Items in the order of `names`. -/
def place? (dialect : Dialect) (names : List String) (items : List (Option Document)) :
    Option (Entries Document) :=
  if items.length ≤ names.length || dialect.ignoresExtraItems then
    (names.zip items).mapM fun (name, d?) => d?.map (name, ·)
  else none

/-- The fields of a structure by name. -/
def fields? (dialect : Dialect) (names : List String) (strict : Bool) :
    Layer → Option (Entries Document)
  | table members => gather? names strict members
  | list items => place? dialect names items
  | simple => none

end Layer

/-- A field that must be there. -/
def Entries.required? (fields : Entries Document) (name : String) (read? : Document → Option α) :
    Option α := (fields.get? name).bind read?

/-- A field that has a value of its own if it is not there. -/
def Entries.optional? (fields : Entries Document) (name : String) (absent : α)
    (read? : Document → Option α) : Option α :=
  match fields.get? name with
  | some d => read? d
  | none => some absent

end RowScript
