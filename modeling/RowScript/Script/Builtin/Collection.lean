import RowScript.Script.Builtin.Text

/-!
# Built-in functions on arrays, object maps and records

Only functions that call no other function are here.
-/

namespace RowScript.Script

open Reply

/-! ### Arrays -/

def removeAt (xs : List Datum) (i : Nat) : List Datum := xs.take i ++ xs.drop (i + 1)

/-- Whether an item equals `d`, and where the first one is. Values of one kind without equality are
a fault. -/
def findEqual (d : Datum) : Nat → List Datum → Computed (Option Nat)
  | _, [] => .ok none
  | i, x :: xs => do if ← x.equals d then return some i else findEqual d (i + 1) xs

/-- Whether `a` stands before `b` in a sorted array. -/
def sortsBefore : Datum → Datum → Bool
  | .int a, .int b => a ≤ b
  | .float a, .float b => a ≤ b || !(b < a)
  | .string a, .string b => a ≤ b
  | .char a, .char b => a ≤ b
  | .bool a, .bool b => !a || b
  | _, _ => true

/-- Sort an array whose items are of one kind. -/
def sortItems (xs : List Datum) : Computed (List Datum) :=
  match xs with
  | [] => .ok []
  | x :: rest =>
    if rest.all (·.sameKind x) then .ok (xs.mergeSort sortsBefore)
    else .error (.functionNotFound "sort() cannot be called with elements of different types")

def insertItem (xs : List Datum) (i : Int) (d : Datum) : List Datum :=
  let at_ := startIndex xs.length i
  xs.take at_ ++ d :: xs.drop at_

/-- Functions called on an array. -/
def arrayBuiltin? (name : String) (xs : List Datum) (args : List Datum) : Option (Computed Reply) :=
  let self : Datum := .array xs
  match name, args with
  | "len", [] => keep self (.int (Int64.ofNat xs.length))
  | "is_empty", [] => keep self (.bool xs.isEmpty)
  | "pop", [] => match xs.reverse with
    | [] => keep self .unit
    | x :: rest => both x (.array rest.reverse)
  | "shift", [] => match xs with
    | [] => keep self .unit
    | x :: rest => both x (.array rest)
  | "reverse", [] => change (.array xs.reverse)
  | "clear", [] => change (.array [])
  | "sort", [] => some ((sortItems xs).map fun ys => ⟨.unit, .array ys⟩)
  | "push", [d] => change (.array (xs ++ [d]))
  | "append", [.array ys] => change (.array (xs ++ ys))
  | "insert", [.int i, d] => change (.array (insertItem xs i.toInt d))
  | "remove", [.int i] => match itemIndex? xs.length i.toInt with
    | some k => both (xs.getD k .unit) (.array (removeAt xs k))
    | none => keep self .unit
  | "get", [.int i] => match itemIndex? xs.length i.toInt with
    | some k => keep self (xs.getD k .unit)
    | none => keep self .unit
  | "set", [.int i, d] => match itemIndex? xs.length i.toInt with
    | some k => change (.array (xs.set k d))
    | none => keep self .unit
  | "truncate", [.int n] => change (.array (xs.take n.toInt.toNat))
  | "chop", [.int n] => change (.array (xs.drop (xs.length - n.toInt.toNat)))
  | "extract", [.int i] => keep self (.array (slice xs i.toInt xs.length))
  | "extract", [.int i, .int n] => keep self (.array (slice xs i.toInt n.toInt))
  | "extract", [.range a b closed] =>
    let (i, n) := rangeBounds a b closed
    keep self (.array (slice xs i n))
  | "pad", [.int n, d] => change (.array (xs ++ List.replicate (n.toInt.toNat - xs.length) d))
  | "contains", [d] => some ((findEqual d 0 xs).map fun i => ⟨.bool i.isSome, self⟩)
  | _, _ => none

/-! ### Object maps -/

def mapBuiltin? (name : String) (m : ObjectMap) (args : List Datum) : Option (Computed Reply) :=
  let self : Datum := .map m
  match name, args with
  | "len", [] => keep self (.int (Int64.ofNat m.length))
  | "is_empty", [] => keep self (.bool m.isEmpty)
  | "clear", [] => change (.map [])
  | "contains", [.string k] => keep self (.bool (m.contains k))
  | "keys", [] => keep self (texts m.keys)
  | "values", [] => keep self (.array m.values)
  | "get", [.string k] => keep self ((m.get? k).getD .unit)
  | "set", [.string k, d] => change (.map (m.insertSorted k d))
  | "remove", [.string k] => both ((m.get? k).getD .unit) (.map (m.erase k))
  | "mixin", [.map n] => change (.map (ObjectMap.merge m n))
  | "fill_with", [.map n] => change (.map (ObjectMap.merge n m))
  | _, _ => none

/-! ### Records -/

namespace Record

/-- The value of a column, unit if there is none. -/
def get (r : ValueMap) (name : String) : Datum := ((r.get? name).map Datum.ofValue).getD .unit

def set (r : ValueMap) (name : String) (d : Datum) : ValueMap := r.insert name d.toValue

def keys (r : ValueMap) : List Datum := (Entries.keys r).map .string

def values (r : ValueMap) : List Datum := Datum.ofValues (Entries.values r)

/-- Iteration yields a pair of name and value for each column. -/
def pairs (r : ValueMap) : List Datum := r.map fun (k, v) => .array [.string k, .ofValue v]

/-- The columns as an object map, whose names ascend. -/
def toMap (r : ValueMap) : ObjectMap :=
  r.foldl (fun m (k, v) => Entries.insertSorted m k (.ofValue v)) []

end Record

def recordBuiltin? (name : String) (r : ValueMap) (args : List Datum) : Option (Computed Reply) :=
  let self : Datum := .record r
  match name, args with
  | "get", [.string k] => keep self (Record.get r k)
  | "contains", [.string k] => keep self (.bool (Entries.contains r k))
  | "keys", [] => keep self (.array (Record.keys r))
  | "values", [] => keep self (.array (Record.values r))
  | "len", [] => keep self (.int (Int64.ofNat r.length))
  | "is_empty", [] => keep self (.bool r.isEmpty)
  | "to_map", [] => keep self (.map (Record.toMap r))
  | _, _ => none

end RowScript.Script
