import RowScript.Script.Operators

/-!
# Simplifying scripts

Before a script runs, expressions of literals are computed and statements that can have no effect are
dropped. This can be seen: reading a variable counts as having no effect, so a dropped statement does
not fail even if its variable does not exist.

* The last statement of a block that has a value is never dropped.
* A protected block of which nothing can have an effect is no longer protected.
-/

namespace RowScript.Script

/-! ### What has no effect -/

mutual

def Expr.isPure : Expr → Bool
  | .lit _ _ | .var _ _ => true
  | .interp parts _ => Expr.arePure parts
  | .array items _ => Expr.arePure items
  | .map entries _ => Expr.entriesPure entries
  | .block body _ => Stmt.arePure body
  | .and left right _ | .or left right _ | .coalesce left right _ => left.isPure && right.isPure
  | .receiver _ | .call _ _ _ | .unary _ _ _ | .binary _ _ _ _ | .chain _ _ | .closure _ _ _ => false

def Expr.arePure : List Expr → Bool
  | [] => true
  | e :: rest => e.isPure && Expr.arePure rest

def Expr.entriesPure : List (String × Expr) → Bool
  | [] => true
  | (_, e) :: rest => e.isPure && Expr.entriesPure rest

def Stmt.isPure : Stmt → Bool
  | .expr e => e.isPure
  | .cond test yes no _ => test.isPure && Stmt.arePure yes && Stmt.arePure no
  | .choose subject cases otherwise _ =>
    subject.isPure && Stmt.casesPure cases && Stmt.arePure otherwise
  | .each _ _ items body _ => items.isPure && Stmt.arePure body
  | .block body _ => Stmt.arePure body
  | .attempt body _ handler _ => Stmt.arePure body && Stmt.arePure handler
  | .declare _ _ _ _ | .assign _ _ _ _ | .loop _ _ _ | .repeat _ _ _ _ | .leave _ _ | .next _
  | .give _ _ | .throw _ _ => false

def Stmt.arePure : List Stmt → Bool
  | [] => true
  | s :: rest => s.isPure && Stmt.arePure rest

def Stmt.casesPure : List (List Expr × Option Expr × List Stmt) → Bool
  | [] => true
  | (_, guard, body) :: rest => Expr.optionPure guard && Stmt.arePure body && Stmt.casesPure rest

def Expr.optionPure : Option Expr → Bool
  | none => true
  | some e => e.isPure

end

def Expr.isLiteral : Expr → Bool
  | .lit _ _ => true
  | _ => false

namespace Stmt

/-- Without effect outside its block: a declaration ends with the block. -/
def isLocal : Stmt → Bool
  | .declare _ init _ _ => Expr.optionPure init
  | s => s.isPure

/-- A statement after which dropping has to stop: it has an effect, declares a literal, or is an
expression that is not a literal. -/
def matters (isBody : Bool) (s : Stmt) : Bool :=
  !(if isBody then s.isLocal else s.isPure) || match s with
    | .declare _ (some e) _ _ => e.isLiteral
    | .declare _ none _ _ => true
    | .expr e => !e.isLiteral
    | _ => false

/-- The statements without those that can be dropped; after the last one that matters, declarations
can be dropped too. -/
def dropPure (isBody keepLast : Bool) : List Stmt → List Stmt
  | [] => []
  | [s] => if keepLast then [s] else if s.isPure then [] else [s]
  | s :: rest =>
    if s.isPure || (isBody && s.isLocal && !s.matters isBody && !rest.any (·.matters isBody)) then
      dropPure isBody keepLast rest
    else s :: dropPure isBody keepLast rest

/-- Drop pure statements at the end. -/
def dropTail (ss : List Stmt) : List Stmt := (ss.reverse.dropWhile isPure).reverse

/-- Drop what has no effect from a block. -/
def tidy (isBody keepLast : Bool) (ss : List Stmt) : List Stmt :=
  let ss := dropPure isBody keepLast ss
  if keepLast then ss else dropTail ss

end Stmt

/-! ### Computing literals -/

def literals? (es : List Expr) : Option (List Literal) := es.mapM Expr.literal?

def foldArray (items : List Expr) (pos : Position) : Expr :=
  match literals? items with
  | some ls => .lit (.array ls) pos
  | none => .array items pos

def foldMap (entries : List (String × Expr)) (pos : Position) : Expr :=
  match entries.mapM fun (k, e) => e.literal?.map fun l => (k, l) with
  | some ls => .lit (.map (ls.foldl (fun m p => Entries.insertSorted m p.1 p.2) [])) pos
  | none => .map entries pos

def foldBinary (op : BinaryOp) (left right : Expr) (pos : Position) : Expr :=
  match left, right with
  | .lit a _, .lit b _ =>
    match binary? op a.datum b.datum with
    | some (.ok d) => match d.literal? with
      | some l => .lit l pos
      | none => .binary op left right pos
    | _ => .binary op left right pos
  | _, _ => .binary op left right pos

def foldAnd (left right : Expr) (pos : Position) : Expr :=
  match left, right with
  | .lit (.bool true) _, e => e
  | .lit (.bool false) p, _ => .lit (.bool false) p
  | e, .lit (.bool true) _ => e
  | left, right => .and left right pos

def foldOr (left right : Expr) (pos : Position) : Expr :=
  match left, right with
  | .lit (.bool false) _, e => e
  | .lit (.bool true) p, _ => .lit (.bool true) p
  | e, .lit (.bool false) _ => e
  | left, right => .or left right pos

/-- A choice between nothing and nothing only computes its test, which then needs not be a truth
value. -/
def foldCond (keepLast : Bool) (test : Expr) (yes no : List Stmt) (pos : Position) : Stmt :=
  match yes, no with
  | [], [] =>
    if keepLast then .block (Stmt.tidy true true [.expr test, .expr (.lit .unit pos)]) pos else .expr test
  | yes, no => .cond test yes no pos

mutual

def Expr.simplify : Expr → Expr
  | .lit l pos => .lit l pos
  | .interp parts pos => .interp (Expr.simplifyAll parts) pos
  | .array items pos => foldArray (Expr.simplifyAll items) pos
  | .map entries pos => foldMap (Expr.simplifyEntries entries) pos
  | .var name pos => .var name pos
  | .receiver pos => .receiver pos
  | .block body pos => .block (Stmt.tidy true true (Stmt.simplifyAll true body)) pos
  | .call name args pos => .call name (Expr.simplifyAll args) pos
  | .unary op arg pos => .unary op arg.simplify pos
  | .binary op left right pos => foldBinary op left.simplify right.simplify pos
  | .and left right pos => foldAnd left.simplify right.simplify pos
  | .or left right pos => foldOr left.simplify right.simplify pos
  | .coalesce left right pos => .coalesce left.simplify right.simplify pos
  | .chain base links => .chain base.simplify (Link.simplifyAll links)
  | .closure name captures pos => .closure name captures pos

def Expr.simplifyAll : List Expr → List Expr
  | [] => []
  | e :: rest => e.simplify :: Expr.simplifyAll rest

def Expr.simplifyEntries : List (String × Expr) → List (String × Expr)
  | [] => []
  | (k, e) :: rest => (k, e.simplify) :: Expr.simplifyEntries rest

def Link.simplifyAll : List Link → List Link
  | [] => []
  | link :: rest => link.simplify :: Link.simplifyAll rest

def Link.simplify : Link → Link
  | .index arg safe opPos => .index arg.simplify safe opPos
  | .property name safe pos opPos => .property name safe pos opPos
  | .method name args safe pos opPos => .method name (Expr.simplifyAll args) safe pos opPos

/-- Simplify a statement of a block whose value is used or not. -/
def Stmt.simplify (keepLast : Bool) : Stmt → Stmt
  | .expr e => .expr e.simplify
  | .declare name init isConst pos => .declare name (Expr.simplifyIf init) isConst pos
  | .assign op target value pos => .assign op target.simplify value.simplify pos
  | .cond test yes no pos =>
    foldCond keepLast test.simplify (Stmt.tidy true keepLast (Stmt.simplifyAll keepLast yes))
      (Stmt.tidy true keepLast (Stmt.simplifyAll keepLast no)) pos
  | .choose subject cases otherwise pos =>
    .choose subject.simplify (Stmt.simplifyCases cases)
      (Stmt.tidy true true (Stmt.simplifyAll true otherwise)) pos
  | .loop test body pos =>
    .loop (Expr.simplifyIf test) (Stmt.tidy true false (Stmt.simplifyAll false body)) pos
  | .repeat body goOn test pos =>
    .repeat (Stmt.tidy true false (Stmt.simplifyAll false body)) goOn test.simplify pos
  | .each name counter items body pos =>
    .each name counter items.simplify (Stmt.tidy true false (Stmt.simplifyAll false body)) pos
  | .block body pos => .block (Stmt.tidy true keepLast (Stmt.simplifyAll keepLast body)) pos
  | .leave value pos => .leave (Expr.simplifyIf value) pos
  | .next pos => .next pos
  | .give value pos => .give (Expr.simplifyIf value) pos
  | .throw value pos => .throw (Expr.simplifyIf value) pos
  | .attempt body name handler pos =>
    let inner := Stmt.tidy true false (Stmt.simplifyAll false body)
    if Stmt.arePure body then .block inner pos
    else .attempt inner name (Stmt.tidy true false (Stmt.simplifyAll false handler)) pos

def Stmt.simplifyAll (keepLast : Bool) : List Stmt → List Stmt
  | [] => []
  | s :: rest => s.simplify keepLast :: Stmt.simplifyAll keepLast rest

def Stmt.simplifyCases :
    List (List Expr × Option Expr × List Stmt) → List (List Expr × Option Expr × List Stmt)
  | [] => []
  | (literals, guard, body) :: rest =>
    (literals, Expr.simplifyIf guard, Stmt.tidy true true (Stmt.simplifyAll true body)) ::
      Stmt.simplifyCases rest

def Expr.simplifyIf : Option Expr → Option Expr
  | none => none
  | some e => some e.simplify

end

def Function.simplify (f : Function) : Function :=
  { f with body := Stmt.tidy true true (Stmt.simplifyAll true f.body) }

def Program.simplify (s : Program) : Program where
  functions := s.functions.map Function.simplify
  body := Stmt.tidy false true (Stmt.simplifyAll true s.body)

end RowScript.Script
