import RowScript.Script.Datum
import RowScript.Script.Token

/-!
# Syntax of scripts

A script is a list of functions and a list of top-level statements. A chain is a base followed by
links (indexing, properties, methods), innermost first.
-/

namespace RowScript.Script

inductive UnaryOp
  | not
  | negate
  | plus
  deriving Repr, DecidableEq, Inhabited

def UnaryOp.sign : UnaryOp → String
  | not => "!"
  | negate => "-"
  | plus => "+"

inductive BinaryOp
  | add | sub | mul | div | mod | pow
  | shiftLeft | shiftRight
  | bitAnd | bitOr | bitXor
  | eq | ne | lt | le | gt | ge
  | range | closedRange
  deriving Repr, DecidableEq, Inhabited

namespace BinaryOp

def sign : BinaryOp → String
  | add => "+"
  | sub => "-"
  | mul => "*"
  | div => "/"
  | mod => "%"
  | pow => "**"
  | shiftLeft => "<<"
  | shiftRight => ">>"
  | bitAnd => "&"
  | bitOr => "|"
  | bitXor => "^"
  | eq => "=="
  | ne => "!="
  | lt => "<"
  | le => "<="
  | gt => ">"
  | ge => ">="
  | range => ".."
  | closedRange => "..="

def all : List BinaryOp :=
  [add, sub, mul, div, mod, pow, shiftLeft, shiftRight, bitAnd, bitOr, bitXor, eq, ne, lt, le, gt,
    ge, range, closedRange]

/-- How tightly an operator binds. -/
def precedence : BinaryOp → Nat
  | bitOr | bitXor => 30
  | bitAnd => 60
  | eq | ne => 90
  | lt | le | gt | ge => 130
  | range | closedRange => 140
  | add | sub => 150
  | mul | div | mod => 180
  | pow => 190
  | shiftLeft | shiftRight => 210

/-- The operator that is part of an assignment such as `+=`. -/
def ofAssignment? (s : String) : Option BinaryOp :=
  [add, sub, mul, div, mod, pow, shiftLeft, shiftRight, bitAnd, bitOr, bitXor].find?
    fun op => op.sign ++ "=" == s

end BinaryOp

/-- What a source can spell out: a value of a kind that the language knows, without functions and
without variables that closures share. -/
inductive Literal
  | unit
  | bool (b : Bool)
  | int (n : Int64)
  | float (x : Float)
  | char (c : Char)
  | string (s : String)
  | array (items : List Literal)
  | map (entries : List (String × Literal))
  | range (first last : Int64) (closed : Bool)
  deriving Inhabited

namespace Literal

mutual

/-- The value that is spelled out. -/
def datum : Literal → Datum
  | unit => .unit
  | bool b => .bool b
  | int n => .int n
  | float x => .float x
  | char c => .char c
  | string s => .string s
  | array items => .array (itemData items)
  | map entries => .map (entryData entries)
  | range first last closed => .range first last closed

def itemData : List Literal → List Datum
  | [] => []
  | l :: rest => l.datum :: itemData rest

def entryData : List (String × Literal) → List (String × Datum)
  | [] => []
  | (k, l) :: rest => (k, l.datum) :: entryData rest

end

end Literal

mutual

/-- The literal that spells a value out, if there is one. -/
def Datum.literal? : Datum → Option Literal
  | .unit => some .unit
  | .bool b => some (.bool b)
  | .int n => some (.int n)
  | .float x => some (.float x)
  | .char c => some (.char c)
  | .string s => some (.string s)
  | .array items => (Datum.itemLiterals? items).map .array
  | .map entries => (Datum.entryLiterals? entries).map .map
  | .range first last closed => some (.range first last closed)
  | .record _ | .collector _ | .function _ _ | .cell _ => none

def Datum.itemLiterals? : List Datum → Option (List Literal)
  | [] => some []
  | d :: rest => do return (← d.literal?) :: (← Datum.itemLiterals? rest)

def Datum.entryLiterals? : List (String × Datum) → Option (List (String × Literal))
  | [] => some []
  | (k, d) :: rest => do return (k, ← d.literal?) :: (← Datum.entryLiterals? rest)

end

mutual

inductive Expr
  | lit (value : Literal) (pos : Position)
  /-- A text with interpolated parts. -/
  | interp (parts : List Expr) (pos : Position)
  | array (items : List Expr) (pos : Position)
  | map (entries : List (String × Expr)) (pos : Position)
  | var (name : String) (pos : Position)
  | receiver (pos : Position)
  /-- Statements in a scope of their own; the value is that of the last one. -/
  | block (body : List Stmt) (pos : Position)
  | call (name : String) (args : List Expr) (pos : Position)
  | unary (op : UnaryOp) (arg : Expr) (pos : Position)
  | binary (op : BinaryOp) (left right : Expr) (pos : Position)
  | and (left right : Expr) (pos : Position)
  | or (left right : Expr) (pos : Position)
  /-- The left value unless it is unit. -/
  | coalesce (left right : Expr) (pos : Position)
  | chain (base : Expr) (links : List Link)
  /-- A function without a name, whose first parameters are the captured variables. -/
  | closure (name : String) (captures : List String) (pos : Position)

inductive Link
  | index (arg : Expr) (safe : Bool) (opPos : Position)
  | property (name : String) (safe : Bool) (pos opPos : Position)
  | method (name : String) (args : List Expr) (safe : Bool) (pos opPos : Position)

inductive Stmt
  | expr (e : Expr)
  | declare (name : String) (init : Option Expr) (isConst : Bool) (pos : Position)
  /-- `target op= value`; without an operator a plain assignment. -/
  | assign (op : Option BinaryOp) (target value : Expr) (pos : Position)
  | cond (test : Expr) (yes no : List Stmt) (pos : Position)
  /-- The first case one of whose literals is the subject, else the default. -/
  | choose (subject : Expr) (cases : List (List Expr × Option Expr × List Stmt)) (default : List Stmt)
      (pos : Position)
  /-- A loop; without a test it ends by `break` only. -/
  | loop (test : Option Expr) (body : List Stmt) (pos : Position)
  /-- A loop whose test comes after the body and has to be `goOn` for another round. -/
  | repeat (body : List Stmt) (goOn : Bool) (test : Expr) (pos : Position)
  | each (name : String) (counter : Option String) (items : Expr) (body : List Stmt) (pos : Position)
  | block (body : List Stmt) (pos : Position)
  | leave (value : Option Expr) (pos : Position)
  | next (pos : Position)
  | give (value : Option Expr) (pos : Position)
  | throw (value : Option Expr) (pos : Position)
  | attempt (body : List Stmt) (name : Option String) (handler : List Stmt) (pos : Position)

end

instance : Inhabited Expr := ⟨.lit .unit .unknown⟩
instance : Inhabited Stmt := ⟨.expr default⟩

/-- A function with a body. -/
structure Function where
  name : String
  params : List String
  body : List Stmt
  deriving Inhabited

namespace Function

def arity (f : Function) : Nat := f.params.length

/-- Functions made for closures have names that no source can mention. -/
def isAnonymous (f : Function) : Bool := f.name.startsWith "anon$"

end Function

structure Program where
  functions : List Function
  body : List Stmt
  deriving Inhabited

/-- The function with that name and count of parameters. -/
def Program.function? (s : Program) (name : String) (arity : Nat) : Option Function :=
  s.functions.find? fun f => f.arity == arity && f.name == name

/-! ### Places -/

def Link.opPos : Link → Position
  | .index _ _ opPos => opPos
  | .property _ _ _ opPos => opPos
  | .method _ _ _ _ opPos => opPos

namespace Expr

/-- The place of an expression: that of its operator, if it has one. -/
def pos : Expr → Position
  | lit _ pos | interp _ pos | array _ pos | map _ pos | var _ pos | receiver pos | block _ pos
  | call _ _ pos | unary _ _ pos | binary _ _ _ pos | and _ _ pos | or _ _ pos | coalesce _ _ pos
  | closure _ _ pos => pos
  | chain base links => match links with
    | [] => base.pos
    | link :: _ => link.opPos

/-- Where an expression begins. -/
def startPos : Expr → Position
  | binary _ left _ _ | and left _ _ | or left _ _ | coalesce left _ _ => left.startPos
  | chain base _ => base.startPos
  | e => e.pos

/-- What an expression spells out, if it does. -/
def literal? : Expr → Option Literal
  | lit value _ => some value
  | _ => none

end Expr

/-- The place of a statement. -/
def Stmt.pos : Stmt → Position
  | .expr e => e.pos
  | .declare _ _ _ pos | .assign _ _ _ pos | .cond _ _ _ pos | .choose _ _ _ pos | .loop _ _ pos
  | .repeat _ _ _ pos | .each _ _ _ _ pos | .block _ pos | .leave _ pos | .next pos | .give _ pos
  | .throw _ pos | .attempt _ _ _ pos => pos

end RowScript.Script
