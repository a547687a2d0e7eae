import RowScript.Script.Lexer
import RowScript.Script.Syntax

/-!
# Reading scripts

`ofTokens?` reads tokens as a script. Beside the grammar it checks what can be seen without
running: names bound twice, constants assigned, loops left from outside, tests that are no truth
values, and expressions that are nested too deeply.

The functions count down a fuel that is larger than the nesting of any expression in the tokens.
-/

namespace RowScript.Script

/-- Deepest nesting of expressions. -/
def maxDepth : Nat := 64

/-- Where the parser stands in the structure of the script. -/
structure Surroundings where
  /-- Enclosing expressions. -/
  depth : Nat := 0
  /-- Top-level statements can define functions. -/
  topLevel : Bool := false
  /-- Inside a function there is a receiver. -/
  inFunction : Bool := false
  inLoop : Bool := false
  /-- A bar ends the expression, as between the literals of a case. -/
  barEnds : Bool := false

structure ParseState where
  tokens : List (Token × Position)
  /-- The variables in scope, innermost first, and whether they are constant. -/
  scope : List (String × Bool) := []
  /-- Variables used but not in scope, in the order of their first use. -/
  free : List String := []
  functions : List Function := []

abbrev Parse := StateT ParseState (Except SyntaxFault)

namespace Parse

def fail {α : Type} (what : String) (pos : Position) : Parse α := throw ⟨what, pos⟩

/-- The place of the next token. -/
def here : Parse Position := do
  match (← get).tokens with
  | (_, pos) :: _ => return pos
  | [] => return .unknown

def peek? : Parse (Option Token) := do return (← get).tokens.head?.map (·.1)

def skip : Parse Unit := modify fun s => { s with tokens := s.tokens.tail }

/-- The next token and its place. -/
def take : Parse (Token × Position) := do
  match (← get).tokens with
  | t :: rest =>
    modify fun s => { s with tokens := rest }
    return t
  | [] => fail "unexpected end of script" .unknown

def peekSymbol (sign : String) : Parse Bool := do
  match ← peek? with
  | some t => return t.isSymbol sign
  | none => return false

def peekKeyword (word : String) : Parse Bool := do
  match ← peek? with
  | some t => return t.isKeyword word
  | none => return false

/-- Take the sign if it comes next. -/
def acceptSymbol (sign : String) : Parse Bool := do
  if ← peekSymbol sign then
    skip
    return true
  else return false

def acceptKeyword (word : String) : Parse Bool := do
  if ← peekKeyword word then
    skip
    return true
  else return false

def expectSymbol (sign : String) : Parse Unit := do
  if ← acceptSymbol sign then return else fail s!"'{sign}' is missing" (← here)

def expectKeyword (word : String) : Parse Unit := do
  if ← acceptKeyword word then return else fail s!"'{word}' is missing" (← here)

/-- A name that can be bound. -/
def bindable : Parse String := do
  let (t, pos) ← take
  match t with
  | .name s => return s
  | _ => fail "a name is missing" pos

/-- Bring a variable into scope. -/
def bindName (name : String) (isConst : Bool) : Parse Unit :=
  modify fun s => { s with scope := (name, isConst) :: s.scope }

/-- Note the use of a variable. -/
def useName (name : String) : Parse Unit :=
  modify fun s =>
    if (s.scope.lookup name).isSome || s.free.contains name then s
    else { s with free := s.free ++ [name] }

/-- Variables bound by `p` go out of scope after it. -/
def inScope {α : Type} (p : Parse α) : Parse α := do
  let scope := (← get).scope
  let a ← p
  modify fun s => { s with scope }
  return a

/-- Read the body of a function with the given parameters. What it uses beyond them is returned too. -/
def functionScope {α : Type} (params : List String) (p : Parse α) : Parse (α × List String) := do
  let outer ← get
  set { outer with scope := params.map (·, false), free := [] }
  let a ← p
  let free := (← get).free
  modify fun s => { s with scope := outer.scope, free := outer.free }
  return (a, free)

end Parse

open Parse

/-! ### Checks -/

/-- A test that is written as a value has to be a truth value. -/
def checkTest (e : Expr) : Parse Expr :=
  match e with
  | .lit (.bool _) _ => return e
  | .lit _ pos | .array _ pos | .map _ pos | .interp _ pos => fail "a truth value is expected" pos
  | _ => return e

/-- A value that is written down can only be looped over if it has items. -/
def checkItems (e : Expr) : Parse Expr :=
  match e with
  | .lit .unit _ => return e
  | .lit _ pos | .map _ pos => fail "something to loop over is expected" pos
  | _ => return e

/-- Only the last link of an assigned chain can be indexing or a property; no link before it is
optional. -/
def checkLinks : List Link → Parse Unit
  | [] => return
  | .method _ _ _ pos _ :: [] => fail "a call cannot be assigned" pos
  | link :: rest =>
    let safe := match link with
      | .index _ safe _ | .property _ safe _ _ | .method _ _ safe _ _ => safe
    if safe then fail "an optional link cannot be assigned" link.opPos else checkLinks rest

/-- What can be assigned: variables that are not constant, the receiver, and parts of both. -/
def checkTarget (e : Expr) : Parse Unit :=
  match e with
  | .var name pos => do
    match (← get).scope.lookup name with
    | some true => fail s!"'{name}' is constant" pos
    | _ => return
  | .receiver _ => return
  | .chain (.var _ _) links | .chain (.receiver _) links => checkLinks links
  | e => fail "this cannot be assigned" e.pos

/-! ### Operators -/

/-- What stands between two operands. -/
inductive Infix
  | op (op : BinaryOp)
  | and
  | or
  | coalesce
  | isIn (negated : Bool)

namespace Infix

def precedence : Infix → Nat
  | op o => o.precedence
  | or => 30
  | and => 60
  | isIn _ => 110
  | coalesce => 135

/-- Of equal operators in a row, the last one binds first. -/
def bindsRight : Infix → Bool
  | op .pow => true
  | _ => false

def ofToken? (barEnds : Bool) : Token → Option Infix
  | .symbol "&&" => some .and
  | .symbol "||" => some .or
  | .symbol "??" => some .coalesce
  | .symbol "!in" => some (.isIn true)
  | .symbol "|" => if barEnds then none else some (.op .bitOr)
  | .symbol s => (BinaryOp.all.find? (·.sign == s)).map .op
  | .keyword "in" => some (.isIn false)
  | _ => none

def build (i : Infix) (left right : Expr) (pos : Position) : Parse Expr :=
  match i with
  | op o => return .binary o left right pos
  | and => return .and (← checkTest left) (← checkTest right) pos
  | or => return .or (← checkTest left) (← checkTest right) pos
  | coalesce => return .coalesce left right pos
  | isIn negated =>
    let found := Expr.call "contains" [right, left] pos
    return if negated then .unary .not found pos else found

end Infix

/-- The operator that comes next. -/
def peekInfix? (at_ : Surroundings) : Parse (Option Infix) := do
  return (← peek?).bind (Infix.ofToken? at_.barEnds)

/-- A sign before an operand; that of a number belongs to the number. -/
def signed (op : UnaryOp) (e : Expr) (pos : Position) : Expr :=
  match op, e with
  | .negate, .lit (.int n) _ => .lit (.int (-n)) pos
  | .negate, .lit (.float x) _ => .lit (.float (-x)) pos
  | .plus, .lit (.int n) p => .lit (.int n) p
  | .plus, .lit (.float x) p => .lit (.float x) p
  | op, e => .unary op e pos

/-- Add a link to what it applies to. -/
def addLink (e : Expr) (link : Link) : Expr :=
  match e with
  | .chain base links => .chain base (links ++ [link])
  | e => .chain e [link]

/-- Statements that end by themselves; any other one needs a semicolon before the next. -/
def endsItself : Stmt → Bool
  | .cond _ _ _ _ | .choose _ _ _ _ | .loop _ _ _ | .each _ _ _ _ _ | .block _ _
  | .attempt _ _ _ _ => true
  | _ => false

/-- The literal of a case, or a range of integers. -/
def caseLiteral? : Expr → Option Literal
  | .lit d _ => some d
  | .binary .range (.lit (.int a) _) (.lit (.int b) _) _ => some (.range a b false)
  | .binary .closedRange (.lit (.int a) _) (.lit (.int b) _) _ => some (.range a b true)
  | _ => none

/-- A function under its name, unless there is one already. -/
def define (f : Function) (pos : Position) : Parse Unit := do
  if (← get).functions.any fun g => g.name == f.name && g.arity == f.arity then
    fail s!"'{f.name}' is defined twice" pos
  else modify fun s => { s with functions := s.functions ++ [f] }

/-- Names separated by commas up to a closing sign, none of them twice. -/
def paramNames (close : String) : Nat → List String → Parse (List String)
  | 0, _ => fail "parameters are too many" .unknown
  | fuel + 1, acc => do
    if ← acceptSymbol close then return acc
    let pos ← here
    let name ← bindable
    if acc.contains name then fail s!"parameter '{name}' occurs twice" pos
    let acc := acc ++ [name]
    if ← acceptSymbol "," then paramNames close fuel acc
    else
      expectSymbol close
      return acc

/-- What a statement can start with, if not with an expression. -/
def statementWords : List String :=
  ["if", "switch", "while", "loop", "do", "for", "try"]

mutual

/-- An expression. -/
def expression : Nat → Surroundings → Parse Expr
  | 0, _ => fail "expression is too deep" .unknown
  | fuel + 1, at_ => do
    if at_.depth ≥ maxDepth then fail "expression is too deep" (← here)
    let at_ := { at_ with depth := at_.depth + 1, topLevel := false }
    let left ← operand fuel at_
    operations fuel at_ 1 left

/-- Operators and operands after `left`, as far as they bind tighter than `tight`. -/
def operations : Nat → Surroundings → Nat → Expr → Parse Expr
  | 0, _, _, _ => fail "expression is too deep" .unknown
  | fuel + 1, at_, tight, left => do
    match ← peekInfix? at_ with
    | none => return left
    | some i =>
      if i.precedence < tight || (i.precedence == tight && !i.bindsRight) then return left
      let pos ← here
      skip
      let right ← operand fuel at_
      let right ← match ← peekInfix? at_ with
        | some j =>
          if i.precedence < j.precedence || (i.precedence == j.precedence && i.bindsRight) then
            operations fuel at_ i.precedence right
          else pure right
        | none => pure right
      operations fuel at_ tight (← i.build left right pos)

/-- An operand with the signs before it. -/
def operand : Nat → Surroundings → Parse Expr
  | 0, _ => fail "expression is too deep" .unknown
  | fuel + 1, at_ => do
    if at_.depth > maxDepth then fail "expression is too deep" (← here)
    let pos ← here
    let deeper := { at_ with depth := at_.depth + 1 }
    if ← acceptSymbol "-" then return signed .negate (← operand fuel deeper) pos
    else if ← acceptSymbol "+" then return signed .plus (← operand fuel deeper) pos
    else if ← acceptSymbol "!" then return signed .not (← operand fuel deeper) pos
    else
      let e ← primary fuel at_
      chained fuel at_ e

/-- An operand without signs and links. -/
def primary : Nat → Surroundings → Parse Expr
  | 0, _ => fail "expression is too deep" .unknown
  | fuel + 1, at_ => do
    let inner := { at_ with barEnds := false }
    match ← peek? with
    | some (.keyword word) =>
      if statementWords.contains word then
        let pos ← here
        return .block [← compound fuel inner word] pos
    | _ => pure ()
    let (t, pos) ← take
    match t with
    | .int n => return .lit (.int n) pos
    | .float x => return .lit (.float x) pos
    | .char c => return .lit (.char c) pos
    | .string s => return .lit (.string s) pos
    | .piece s => return .interp (← pieces fuel inner [.lit (.string s) pos]) pos
    | .keyword "true" => return .lit (.bool true) pos
    | .keyword "false" => return .lit (.bool false) pos
    | .keyword "this" =>
      if at_.inFunction then return .receiver pos else fail "there is no 'this' here" pos
    | .symbol "(" =>
      if ← acceptSymbol ")" then return .lit .unit pos
      let e ← expression fuel inner
      expectSymbol ")"
      return e
    | .symbol "[" => return .array (← items fuel inner "]" []) pos
    | .symbol "#\x7b" => return .map (← entries fuel inner []) pos
    | .symbol "\x7b" => return .block (← statements fuel inner) pos
    | .symbol "|" => closure fuel inner (← paramNames "|" fuel []) pos
    | .symbol "||" => closure fuel inner [] pos
    | .name s =>
      if ← acceptSymbol "(" then return .call s (← items fuel inner ")" []) pos
      useName s
      return .var s pos
    | .callable s =>
      if ← acceptSymbol "(" then return .call s (← items fuel inner ")" []) pos
      else fail s!"'{s}' is a reserved word" pos
    | _ => fail "an expression is expected" pos

/-- Indexing, properties and methods after `e`. -/
def chained : Nat → Surroundings → Expr → Parse Expr
  | 0, _, _ => fail "expression is too deep" .unknown
  | fuel + 1, at_, e => do
    let inner := { at_ with barEnds := false }
    match ← peek? with
    | some (.symbol s) =>
      let opPos ← here
      if s == "[" || s == "?[" then
        skip
        let arg ← expression fuel inner
        expectSymbol "]"
        chained fuel at_ (addLink e (.index arg (s == "?[") opPos))
      else if s == "." || s == "?." then
        skip
        let (t, pos) ← take
        let name ← match t with
          | .name n | .callable n => pure n
          | _ => fail "a property is expected" pos
        let safe := s == "?."
        if ← acceptSymbol "(" then
          let args ← items fuel inner ")" []
          chained fuel at_ (addLink e (.method name args safe pos opPos))
        else
          match t with
          | .name _ => chained fuel at_ (addLink e (.property name safe pos opPos))
          | _ => fail s!"'{name}' is a reserved word" pos
      else return e
    | _ => return e

/-- The parts of a text after a piece of it. -/
def pieces : Nat → Surroundings → List Expr → Parse (List Expr)
  | 0, _, _ => fail "expression is too deep" .unknown
  | fuel + 1, at_, acc => do
    let pos ← here
    expectSymbol "\x7b"
    let acc := acc ++ [.block (← statements fuel at_) pos]
    let (t, pos) ← take
    match t with
    | .piece s => pieces fuel at_ (acc ++ [.lit (.string s) pos])
    | .string s => return acc ++ [.lit (.string s) pos]
    | _ => fail "unterminated text" pos

/-- Expressions separated by commas up to a closing sign. -/
def items : Nat → Surroundings → String → List Expr → Parse (List Expr)
  | 0, _, _, _ => fail "expression is too deep" .unknown
  | fuel + 1, at_, close, acc => do
    if ← acceptSymbol close then return acc
    let acc := acc ++ [← expression fuel at_]
    if ← acceptSymbol "," then items fuel at_ close acc
    else
      expectSymbol close
      return acc

/-- The entries of an object map. -/
def entries : Nat → Surroundings → List (String × Expr) → Parse (List (String × Expr))
  | 0, _, _ => fail "expression is too deep" .unknown
  | fuel + 1, at_, acc => do
    if ← acceptSymbol "\x7d" then return acc
    let (t, pos) ← take
    let name ← match t with
      | .name s | .string s => pure s
      | _ => fail "a property is expected" pos
    if acc.any (·.1 == name) then fail s!"property '{name}' occurs twice" pos
    expectSymbol ":"
    let acc := acc ++ [(name, ← expression fuel at_)]
    if ← acceptSymbol "," then entries fuel at_ acc
    else
      expectSymbol "\x7d"
      return acc

/-- The body of a closure. What it uses of its surroundings becomes leading parameters. -/
def closure : Nat → Surroundings → List String → Position → Parse Expr
  | 0, _, _, _ => fail "expression is too deep" .unknown
  | fuel + 1, at_, params, pos => do
    let (body, captures) ← functionScope params
      (statement fuel { at_ with inFunction := true, inLoop := false, topLevel := false })
    captures.forM useName
    let name := "anon$" ++ toString (← get).functions.length
    define ⟨name, captures ++ params, [body]⟩ pos
    return .closure name captures pos

/-- Statements up to a closing brace. -/
def statements : Nat → Surroundings → Parse (List Stmt)
  | 0, _ => fail "block is too deep" .unknown
  | fuel + 1, at_ => inScope (sequence fuel { at_ with topLevel := false } true [])

/-- Statements up to a closing brace or up to the end of the script. -/
def sequence : Nat → Surroundings → Bool → List Stmt → Parse (List Stmt)
  | 0, _, _, _ => fail "block is too deep" .unknown
  | fuel + 1, at_, braced, acc => do
    if braced then
      if ← acceptSymbol "\x7d" then return acc
    else if (← peek?).isNone then return acc
    if ← acceptSymbol ";" then sequence fuel at_ braced acc
    else if ← functionDefinition fuel at_ then sequence fuel at_ braced acc
    else
      let s ← statement fuel at_
      let acc := acc ++ [s]
      if ← acceptSymbol ";" then sequence fuel at_ braced acc
      else if endsItself s then sequence fuel at_ braced acc
      else if braced then
        expectSymbol "\x7d"
        return acc
      else if (← peek?).isNone then return acc
      else fail "';' is missing" (← here)

/-- A function, if one is defined here. -/
def functionDefinition : Nat → Surroundings → Parse Bool
  | 0, _ => fail "block is too deep" .unknown
  | fuel + 1, at_ => do
    let pos ← here
    let isPrivate ← acceptKeyword "private"
    if !(← acceptKeyword "fn") then
      if isPrivate then fail "'fn' is missing" (← here) else return false
    if !at_.topLevel then fail "functions are defined at the top level only" pos
    let name ← bindable
    expectSymbol "("
    let params ← paramNames ")" fuel []
    expectSymbol "\x7b"
    let (body, _) ← functionScope params (statements fuel { inFunction := true })
    define ⟨name, params, body⟩ pos
    return true

/-- A statement. -/
def statement : Nat → Surroundings → Parse Stmt
  | 0, _ => fail "block is too deep" .unknown
  | fuel + 1, at_ => do
    let pos ← here
    match ← peek? with
    | some (.symbol "\x7b") =>
      skip
      return .block (← statements fuel at_) pos
    | some (.keyword word) =>
      if statementWords.contains word then compound fuel at_ word
      else if word == "let" || word == "const" then
        skip
        let name ← bindable
        let init ← if ← acceptSymbol "=" then pure (some (← expression fuel at_)) else pure none
        bindName name (word == "const")
        return .declare name init (word == "const") pos
      else if word == "break" || word == "continue" then
        if !at_.inLoop then fail s!"'{word}' is outside a loop" pos
        skip
        if word == "continue" then return .next pos
        else return .leave (← optionalValue fuel at_) pos
      else if word == "return" then
        skip
        return .give (← optionalValue fuel at_) pos
      else if word == "throw" then
        skip
        return .throw (← optionalValue fuel at_) pos
      else assignment fuel at_
    | _ => assignment fuel at_

/-- The value after a word that can stand alone. -/
def optionalValue : Nat → Surroundings → Parse (Option Expr)
  | 0, _ => fail "block is too deep" .unknown
  | fuel + 1, at_ => do
    match ← peek? with
    | none => return none
    | some (.symbol ";") | some (.symbol "\x7d") => return none
    | _ => return some (← expression fuel at_)

/-- An expression, or an assignment to it. -/
def assignment : Nat → Surroundings → Parse Stmt
  | 0, _ => fail "block is too deep" .unknown
  | fuel + 1, at_ => do
    let target ← expression fuel at_
    let pos ← here
    match ← peek? with
    | some (.symbol s) =>
      if s == "=" then
        skip
        let value ← expression fuel at_
        checkTarget target
        return .assign none target value pos
      else
        match BinaryOp.ofAssignment? s with
        | some op =>
          skip
          let value ← expression fuel at_
          checkTarget target
          return .assign (some op) target value pos
        | none => return .expr target
    | _ => return .expr target

/-- A statement that starts with a word for choice, repetition or recovery. -/
def compound : Nat → Surroundings → String → Parse Stmt
  | 0, _, _ => fail "block is too deep" .unknown
  | fuel + 1, at_, word => do
    let at_ := { at_ with topLevel := false }
    let pos ← here
    skip
    let body (at_ : Surroundings) : Parse (List Stmt) := do
      expectSymbol "\x7b"
      statements fuel at_
    let inLoop := { at_ with inLoop := true }
    match word with
    | "if" =>
      let test ← checkTest (← expression fuel at_)
      let yes ← body at_
      if ← acceptKeyword "else" then
        if ← peekKeyword "if" then return .cond test yes [← compound fuel at_ "if"] pos
        else return .cond test yes (← body at_) pos
      else return .cond test yes [] pos
    | "while" =>
      let test ← checkTest (← expression fuel at_)
      return .loop (some test) (← body inLoop) pos
    | "loop" => return .loop none (← body inLoop) pos
    | "do" =>
      let block ← body inLoop
      let goOn ← if ← acceptKeyword "while" then pure true else do
        expectKeyword "until"
        pure false
      let test ← checkTest (← expression fuel { at_ with inLoop := false })
      return .repeat block goOn test pos
    | "for" =>
      let (name, counter) ← if ← acceptSymbol "(" then do
          let name ← bindable
          expectSymbol ","
          let counterPos ← here
          let counter ← bindable
          if counter == name then fail s!"'{name}' occurs twice" counterPos
          expectSymbol ")"
          pure (name, some counter)
        else do pure (← bindable, none)
      expectKeyword "in"
      let source ← checkItems (← expression fuel at_)
      let block ← inScope do
        counter.toList.forM (bindName · false)
        bindName name false
        body inLoop
      return .each name counter source block pos
    | "try" =>
      let block ← body at_
      expectKeyword "catch"
      let name ← if ← acceptSymbol "(" then do
          let name ← bindable
          expectSymbol ")"
          pure (some name)
        else pure none
      let handler ← inScope do
        name.toList.forM (bindName · false)
        body at_
      return .attempt block name handler pos
    | _ =>
      let subject ← expression fuel at_
      expectSymbol "\x7b"
      let (cases, otherwise) ← choices fuel at_ [] none
      return .choose subject cases (otherwise.getD []) pos

/-- The cases of a choice. The default, if any, is the last one. -/
def choices : Nat → Surroundings → List (List Expr × Option Expr × List Stmt) → Option (List Stmt) →
    Parse (List (List Expr × Option Expr × List Stmt) × Option (List Stmt))
  | 0, _, _, _ => fail "block is too deep" .unknown
  | fuel + 1, at_, acc, otherwise => do
    if ← acceptSymbol "\x7d" then return (acc, otherwise)
    let pos ← here
    if otherwise.isSome then fail "the default case has to be the last one" pos
    let isDefault ← acceptSymbol "_"
    let literals ← if isDefault then pure [] else caseLiterals fuel at_ []
    let guard ← if ← acceptKeyword "if" then
        if isDefault then fail "the default case has no condition" pos
        else pure (some (← checkTest (← expression fuel at_)))
      else pure none
    expectSymbol "=>"
    let s ← statement fuel at_
    if !(← acceptSymbol ",") && !endsItself s && !(← peekSymbol "\x7d") then
      fail "',' is missing" (← here)
    if isDefault then choices fuel at_ acc (some [s])
    else choices fuel at_ (acc ++ [(literals, guard, [s])]) otherwise

/-- The literals of a case, separated by bars. -/
def caseLiterals : Nat → Surroundings → List Expr → Parse (List Expr)
  | 0, _, _ => fail "block is too deep" .unknown
  | fuel + 1, at_, acc => do
    let e ← expression fuel { at_ with barEnds := true }
    match caseLiteral? e with
    | none => fail "a literal is expected" e.pos
    | some d =>
      let acc := acc ++ [.lit d e.pos]
      if ← acceptSymbol "|" then caseLiterals fuel at_ acc else return acc

end

/-- Read tokens as a script. -/
def ofTokens? (tokens : List (Token × Position)) : Except SyntaxFault Program := do
  let (body, s) ← (sequence (16 * tokens.length + 64) { topLevel := true } false []).run { tokens }
  return ⟨s.functions, body⟩

end RowScript.Script
