import RowScript.Script.Number
import RowScript.Script.Syntax

/-!
# Operators

What the operators of a script compute. `binary?` has no answer where no operator takes these kinds
of operands.

* Integers and floats mix to floats. Texts take anything on the other side of a plus.
* Values of different kinds are never equal, and never in order.
* Kinds that the language knows nothing of cannot be compared among themselves.
-/

namespace RowScript.Script

namespace Datum

/-- The signature of a call in a message. -/
def signature (name : String) (args : List Datum) : String :=
  name ++ " (" ++ String.intercalate ", " (args.map signatureName) ++ ")"

/-- Characters and texts compare by their first two characters. -/
def sameStart (c : Char) (s : String) : Bool := s.toList.take 2 == [c]

mutual

/-- Equality. -/
def equals : Datum → Datum → Computed Bool
  | unit, unit => .ok true
  | bool a, bool b => .ok (a == b)
  | int a, int b => .ok (a == b)
  | float a, float b => .ok (a == b)
  | int a, float b => .ok (a.toFloat == b)
  | float a, int b => .ok (a == b.toFloat)
  | char a, char b => .ok (a == b)
  | string a, string b => .ok (a == b)
  | char a, string b => .ok (sameStart a b)
  | string a, char b => .ok (sameStart b a)
  | array as, array bs => if as.length == bs.length then equalItems as bs else .ok false
  | map as, map bs => if as.length == bs.length then equalEntries as bs else .ok false
  | range a b c, range d e f => if c == f then .ok (a == d && b == e) else .ok false
  | a, b =>
    if a.sameKind b then .error (.functionNotFound (signature "==" [a, b])) else .ok false

def equalItems : List Datum → List Datum → Computed Bool
  | [], _ => .ok true
  | _, [] => .ok true
  | a :: as, b :: bs => do if ← equals a b then equalItems as bs else return false

/-- Every entry of the first map is one of the second. -/
def equalEntries : List (String × Datum) → List (String × Datum) → Computed Bool
  | [], _ => .ok true
  | (k, a) :: as, bs =>
    match bs.lookup k with
    | some b => do if ← equals a b then equalEntries as bs else return false
    | none => .ok false

end

end Datum

/-- The entries of both maps, of the second one where a name is in both. -/
def ObjectMap.merge (m n : ObjectMap) : ObjectMap :=
  n.foldl (fun acc (k, v) => Entries.insertSorted acc k v) m

/-- The text without any occurrence of `part`. -/
def removeText (s part : String) : String := if part.isEmpty then s else s.replace part ""

namespace BinaryOp

def isComparison : BinaryOp → Bool
  | eq | ne | lt | le | gt | ge => true
  | _ => false

/-- A comparison decided by an order. -/
def ofOrder (op : BinaryOp) (equal less : Bool) : Bool :=
  match op with
  | eq => equal
  | ne => !equal
  | lt => less
  | le => less || equal
  | gt => !less && !equal
  | ge => !less
  | _ => false

/-- A comparison of values that have nothing in common. -/
def ofUnlike (op : BinaryOp) : Bool := op == ne

def onInts (op : BinaryOp) (a b : Int64) : Option (Computed Datum) :=
  let int (r : Computed Int64) : Option (Computed Datum) := some (r.map .int)
  match op with
  | add => int (Integer.add a b)
  | sub => int (Integer.sub a b)
  | mul => int (Integer.mul a b)
  | div => int (Integer.div a b)
  | mod => int (Integer.mod a b)
  | pow => int (Integer.pow a b)
  | shiftLeft => some (.ok (.int (Integer.shiftLeft a b)))
  | shiftRight => some (.ok (.int (Integer.shiftRight a b)))
  | bitAnd => some (.ok (.int (a &&& b)))
  | bitOr => some (.ok (.int (a ||| b)))
  | bitXor => some (.ok (.int (a ^^^ b)))
  | range => some (.ok (.range a b false))
  | closedRange => some (.ok (.range a b true))
  | op => some (.ok (.bool (op.ofOrder (a == b) (a < b))))

/-- Floats; no comparison but inequality holds of a value that is no number. -/
def onFloats (op : BinaryOp) (a b : Float) : Option (Computed Datum) :=
  let value (x : Float) : Option (Computed Datum) := some (.ok (.float x))
  let truth (t : Bool) : Option (Computed Datum) := some (.ok (.bool t))
  match op with
  | add => value (a + b)
  | sub => value (a - b)
  | mul => value (a * b)
  | div => value (a / b)
  | mod => value (Floating.mod a b)
  | pow => value (Float.pow a b)
  | eq => truth (a == b)
  | ne => truth (a != b)
  | lt => truth (a < b)
  | le => truth (a ≤ b)
  | gt => truth (a > b)
  | ge => truth (a ≥ b)
  | _ => none

def onBools (op : BinaryOp) (a b : Bool) : Option (Computed Datum) :=
  match op with
  | bitAnd => some (.ok (.bool (a && b)))
  | bitOr => some (.ok (.bool (a || b)))
  | bitXor => some (.ok (.bool (a != b)))
  | op => if op.isComparison then some (.ok (.bool (op.ofOrder (a == b) (!a && b)))) else none

/-- Texts, or a text and a character. -/
def onTexts (op : BinaryOp) (a b : String) : Option (Computed Datum) :=
  match op with
  | add => some (.ok (.string (a ++ b)))
  | sub => some (.ok (.string (removeText a b)))
  | op => if op.isComparison then some (.ok (.bool (op.ofOrder (a == b) (a < b)))) else none

/-- What a plus makes of a text and anything else. -/
def joined (a b : Datum) : Option (Computed Datum) := some (.ok (.string (a.printText ++ b.printText)))

def ofEquality (op : BinaryOp) (r : Computed Bool) : Option (Computed Datum) :=
  match op with
  | eq => some (r.map .bool)
  | ne => some (r.map fun t => .bool !t)
  | _ => none

/-- Operands for which no other rule holds. -/
def onOthers (op : BinaryOp) (a b : Datum) : Option (Computed Datum) :=
  if op.isComparison && !a.sameKind b then some (.ok (.bool op.ofUnlike)) else none

end BinaryOp

open BinaryOp in
/-- The value of a binary operator, if it takes these operands. -/
def binary? (op : BinaryOp) (a b : Datum) : Option (Computed Datum) :=
  match a, b with
  | .int x, .int y => onInts op x y
  | .float x, .float y => onFloats op x y
  | .int x, .float y => onFloats op x.toFloat y
  | .float x, .int y =>
    if op == pow then some (.ok (.float (Floating.powInt x y))) else onFloats op x y.toFloat
  | .bool x, .bool y => onBools op x y
  | .unit, .unit => if op.isComparison then some (.ok (.bool (op == eq))) else none
  | .string x, .string y => onTexts op x y
  | .char x, .char y =>
    match op with
    | add => some (.ok (.string (String.ofList [x, y])))
    | op => if op.isComparison then some (.ok (.bool (op.ofOrder (x == y) (x < y)))) else none
  | .string x, .char y =>
    match op with
    | add | sub => onTexts op x (String.singleton y)
    | op => onTexts op (String.ofList (x.toList.take 2)) (String.singleton y)
  | .char x, .string y =>
    match op with
    | add => onTexts op (String.singleton x) y
    | sub => none
    | op => onTexts op (String.singleton x) (String.ofList (y.toList.take 2))
  | .array xs, .array ys =>
    match op with
    | add => some (.ok (.array (xs ++ ys)))
    | op => op.ofEquality (Datum.equals (.array xs) (.array ys))
  | .map m, .map n =>
    match op with
    | add => some (.ok (.map (ObjectMap.merge m n)))
    | op => op.ofEquality (Datum.equals (.map m) (.map n))
  | .range c d k, .range e f l =>
    if k == l then op.ofEquality (Datum.equals (.range c d k) (.range e f l)) else onOthers op a b
  | .string _, _ | _, .string _ => if op == add then joined a b else onOthers op a b
  | _, _ => onOthers op a b

/-- Operators on plain values are part of the language itself; others are calls. -/
def isPlain (op : BinaryOp) (a b : Datum) : Bool :=
  match a, b with
  | .unit, .unit => op.isComparison
  | .bool _, .bool _ => op.isComparison || op == .bitAnd || op == .bitOr
  | .int _, .int _ | .float _, .float _ | .int _, .float _ | .float _, .int _ =>
    match op with
    | .add | .sub | .mul | .div | .mod => true
    | op => op.isComparison
  | _, _ => false

/-- The value of a sign before an operand, if it takes one of this kind. -/
def unary? (op : UnaryOp) (a : Datum) : Option (Computed Datum) :=
  match op, a with
  | .not, .bool b => some (.ok (.bool !b))
  | .negate, .int n => some ((Integer.negate n).map .int)
  | .negate, .float x => some (.ok (.float (-x)))
  | .plus, .int n => some (.ok (.int n))
  | .plus, .float x => some (.ok (.float x))
  | _, _ => none

end RowScript.Script
