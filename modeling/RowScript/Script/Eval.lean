import RowScript.Script.Access
import RowScript.Script.Lexer

/-!
# Running scripts

`eval` and `run` follow the syntax. Calls of the script's functions go through the
environment, which knows how deep the calls may still nest: `Env.atDepth` builds the environment for
each depth from the one below, so a script that calls itself for ever meets its limit.
-/

namespace RowScript.Script

/-! ### Loops -/

/-- More rounds than any machine can make. -/
def maxRounds : Nat := Nat.pow 2 62

/-- Repeat until a round gives the value of the loop. -/
def repeatRun : Nat → Run (Option Datum) → Run Datum
  | 0, _ => .ofOutcome .aborted
  | n + 1, round => fun m =>
    match round m with
    | (.ok (some v), m) => (.ok v, m)
    | (.ok none, m) => repeatRun n round m
    | (.error s, m) => (.error s, m)
    | (.aborted, m) => (.aborted, m)

/-- One round for each item. -/
def eachRun (round : Nat → Datum → Run (Option Datum)) : Nat → List Datum → Run Datum
  | _, [] => pure .unit
  | i, x :: xs => fun m =>
    match round i x m with
    | (.ok (some v), m) => (.ok v, m)
    | (.ok none, m) => eachRun round (i + 1) xs m
    | (.error s, m) => (.error s, m)
    | (.aborted, m) => (.aborted, m)

/-- One round for each of `count` integers from `n` on. -/
def countRun (round : Nat → Datum → Run (Option Datum)) : Nat → Nat → Int → Run Datum
  | 0, _, _ => pure .unit
  | count + 1, i, n => fun m =>
    match round i (.int (Int64.ofInt n)) m with
    | (.ok (some v), m) => (.ok v, m)
    | (.ok none, m) => countRun round count (i + 1) (n + 1) m
    | (.error s, m) => (.error s, m)
    | (.aborted, m) => (.aborted, m)

/-- The body of a loop: leaving the loop gives its value. -/
def loopBody (body : Run Datum) : Run (Option Datum) := fun m =>
  match body m with
  | (.ok _, m) => (.ok none, m)
  | (.error (.leave v), m) => (.ok (some v), m)
  | (.error .next, m) => (.ok none, m)
  | (.error s, m) => (.error s, m)
  | (.aborted, m) => (.aborted, m)

/-- A round of a loop that goes on while a test holds. -/
def whileRound (test : Run Bool) (body : Run Datum) : Run (Option Datum) := do
  if ← test then loopBody body else return some .unit

/-- A round of a loop whose test comes last. -/
def untilRound (body : Run Datum) (test : Run Bool) : Run (Option Datum) := do
  match ← loopBody body with
  | some v => return some v
  | none => if ← test then return none else return some .unit

/-- A round of a loop over items, which are given to a variable and perhaps counted by another. -/
def itemRound (env : Env) (name : String) (counter : Option String) (pos : Position) (body : Run Datum)
    (i : Nat) (item : Datum) : Run (Option Datum) := do
  counter.toList.forM fun c => Run.assignVariable c (.int (Int64.ofNat i))
  Run.assignVariable name item
  Run.tick env pos
  loopBody body

/-- The items of a value, or the first and the count of a range. -/
def loopOver (items : Datum) (pos : Position) (round : Nat → Datum → Run (Option Datum)) :
    Run Datum :=
  match items with
  | .array xs => eachRun round 0 xs
  | .record r => eachRun round 0 (Record.pairs r)
  | .range first last closed =>
    countRun round (last.toInt - first.toInt + if closed then 1 else 0).toNat 0 first.toInt
  | _ => Run.raise .notIterable pos

/-! ### Choices and recovery -/

def asTest (d : Datum) (pos : Position) : Run Bool :=
  match d with
  | .bool b => pure b
  | d => Run.raise (.wrongKind d.kindName "bool") pos

/-- Whether a literal of a case is the subject. -/
def isCase (subject : Datum) (literal : Expr) : Bool :=
  match literal with
  | .lit l _ => !subject.isForeign && subject.sameKind l.datum && match subject.equals l.datum with
    | .ok b => b
    | .error _ => false
  | _ => false

/-- Whether the subject lies in a range of a case. -/
def isInCase (subject : Datum) (literal : Expr) : Bool :=
  match subject, literal with
  | .int n, .lit (.range a b closed) _ => a ≤ n && (if closed then n ≤ b else n < b)
  | _, _ => false

/-- Run `x`, and the handler if `x` fails in a way that scripts can handle. A handler that throws
nothing throws the fault again. -/
def recover (x : Run Datum) (handler : Datum → Run Datum) : Run Datum := fun m =>
  match x m with
  | (.ok _, m) => (.ok .unit, m)
  | (.error (.fault f), m) =>
    if f.cause.isCatchable then
      match handler f.caught m with
      | (.ok _, m) => (.ok .unit, m)
      | (.error (.fault g), m) =>
        match g.cause, g.calls with
        | .thrown .unit, [] => (.error (.fault { f with pos := g.pos }), m)
        | _, _ => (.error (.fault g), m)
      | (.error s, m) => (.error s, m)
      | (.aborted, m) => (.aborted, m)
    else (.error (.fault f), m)
  | (.error s, m) => (.error s, m)
  | (.aborted, m) => (.aborted, m)

/-! ### Calls by name -/

/-- The function value of a name, which is given at `pos`. -/
def functionNamed (name : Datum) (pos : Position) : Run Datum :=
  match name with
  | .string s =>
    if Lexer.isFunctionName s then pure (.function s []) else Run.raise (.functionNotFound s) pos
  | d => Run.raise (.wrongKind d.kindName "string") pos

/-- Functions that are part of the language. -/
def languageCall? (env : Env) (name : String) (args : List Datum) (pos : Position) :
    Option (Run Datum) :=
  match name, args with
  | "Fn", [d] => some (functionNamed d pos)
  | "call", f :: args => some (Run.onValue f (callValue env f args pos))
  | "curry", .function f bound :: args => some (pure (.function f (bound ++ args)))
  | "type_of", [d] => some (pure (.string d.kindName))
  | "is_shared", [_] => some (pure (.bool false))
  | "is_def_fn", [.string f, .int n] =>
    some (pure (.bool (env.script.function? f n.toInt.toNat).isSome))
  | "is_def_var", [.string v] => some do return .bool (← Run.find? v).isSome
  | "print", [] => some do
    printLine ""
    return .unit
  | "debug", [] => some do
    debugLine "" pos
    return .unit
  | _, _ => none

/-- Call a function by name with values. -/
def callNamed (env : Env) (name : String) (args : List Datum) (pos : Position) : Run Datum :=
  match languageCall? env name args pos with
  | some run => run
  | none =>
    match env.script.function? name args.length with
    | some f => Run.callFree env f args pos
    | none =>
      match args with
      | [] => do
        Run.tick env pos
        Run.raise (.functionNotFound (Datum.signature name [])) pos
      | self :: rest => Run.onValue self (callBuiltin env name rest pos)

/-- Call a function by name whose first argument is a variable, which a built-in may change. Constants
and shared variables stay as they are. -/
def callOnVariable (env : Env) (name first : String) (firstPos : Position) (rest : List Datum)
    (pos : Position) : Run Datum := do
  Run.tick env firstPos
  let self ← Run.lookup first firstPos
  let v ← Run.find? first
  let shared := v.any (·.value.isCell)
  let own := !shared && v.any (!·.isConst)
  if shared && name == "is_shared" && rest.isEmpty then return .bool true
  if own && (languageCall? env name (self :: rest) pos).isNone &&
      (env.script.function? name (rest.length + 1)).isNone then
    Run.onVariable first self (callBuiltin env name rest pos)
  else callNamed env name (self :: rest) pos

/-! ### Chains -/

/-- Whether the arguments of a chain need no work of their own. -/
def isDirect : List Link → Bool
  | [.property _ _ _ _] => true
  | [.method _ [] _ _ _] => true
  | [.index (.lit _ _) _ _] => true
  | _ => false

/-- Methods that change what they are called on are refused on constants. -/
def checkConstant (v : Option Variable) (name : String) (pos : Position) (steps : List Step)
    (change : Option Change) : Run Unit :=
  match v with
  | some ⟨_, d, true⟩ =>
    match change, steps with
    | some _, _ => Run.raise (.constantAssigned name) pos
    | none, .method f _ _ pos _ :: _ =>
      if changesSelf.contains f && (plainBuiltin? f d []).isNone then
        Run.raise (.constantChanged f) pos
      else pure ()
    | _, _ => pure ()
  | _ => pure ()

/-- Follow a chain from a variable. -/
def walkVariable (env : Env) (name : String) (pos : Position) (steps : List Step)
    (change : Option Change) : Run Datum := do
  Run.tick env pos
  let d ← Run.lookup name pos
  let v ← Run.find? name
  checkConstant v name pos steps change
  return (← Run.onVariable name d (walkHeld env (v.map (·.value)) change steps)).1

/-- Follow a chain from the receiver. -/
def walkReceiver (env : Env) (pos : Position) (steps : List Step) (change : Option Change) :
    Run Datum := do
  Run.tick env pos
  let d ← Run.receiver pos
  let held ← Run.held
  return (← Run.onReceiver d (walkHeld env held change steps)).1

/-- Follow a chain from a value. -/
def walkValue (env : Env) (d : Datum) (steps : List Step) : Run Datum := do
  return (← Run.onValue d (walk env none steps)).1

/-- Assign to a variable or to the receiver. -/
def assignName (env : Env) (name : String) (pos : Position) (c : Change) : Run Unit := do
  Run.tick env pos
  let old ← Run.lookup name pos
  match ← Run.find? name with
  | some ⟨_, _, true⟩ => Run.raise (.constantAssigned name) pos
  | _ => Run.assignVariable name (← c.apply env old)

def assignReceiver (env : Env) (pos : Position) (c : Change) : Run Unit := do
  Run.tick env pos
  let new ← c.apply env (← Run.receiver pos)
  .update (Run.keepReceiver new)

/-- An operation at a place. -/
def counted {α : Type} (env : Env) (pos : Position) (x : Run α) : Run α := do
  Run.tick env pos
  x

/-- Calls and operators, which as statements are not counted twice. -/
def isCall : Expr → Bool
  | .call _ _ _ | .unary _ _ _ | .binary _ _ _ _ => true
  | _ => false

/-- The value of a sign before an operand. -/
def applyUnary (env : Env) (op : UnaryOp) (d : Datum) (pos : Position) : Run Datum :=
  match op, d with
  | .not, .bool b => pure (.bool !b)
  | op, d => do
    Run.tick env pos
    match unary? op d with
    | some r => Run.locating pos (Run.ofComputed r)
    | none => Run.raise (.functionNotFound (Datum.signature op.sign [d])) pos

/-- A text followed by the text of a value. -/
def addPiece (env : Env) (acc : String) (d : Datum) (pos : Position) : Run String := do
  let acc ← match d with
    | .string s => pure (acc ++ s)
    | d => do
      Run.tick env pos
      pure (acc ++ d.printText)
  Run.checkSize env (.string acc) pos
  return acc

/-- A round of a loop without a body counts too. -/
def countRound (env : Env) (body : List Stmt) (pos : Position) : Run Bool := do
  if body.isEmpty then Run.tick env pos
  return true

mutual

/-- The value of an expression that is counted already. -/
def eval (env : Env) : Expr → Run Datum
  | .lit l _ => pure l.datum
  | .interp parts _ => do return .string (← evalPieces env "" parts)
  | .array items pos => do
    let d := Datum.array (← evalAll env items)
    Run.checkSize env d pos
    return d
  | .map entries pos => do
    let d := Datum.map (← evalEntries env entries)
    Run.checkSize env d pos
    return d
  | .var name pos => Run.lookup name pos
  | .receiver pos => Run.receiver pos
  | .block body _ => Run.inBlock (runAll env body)
  | .call name (.var first firstPos :: rest) pos => do
    callOnVariable env name first firstPos (← evalAll env rest) pos
  | .call name args pos => do
    let values ← evalAll env args
    match name, args, values with
    | "Fn", [arg], [value] => functionNamed value arg.startPos
    | "is_shared", [.receiver _], _ => return .bool ((← Run.held).any Datum.isCell)
    | _, _, _ => callNamed env name values pos
  | .unary op arg pos => do applyUnary env op (← counted env arg.pos (eval env arg)) pos
  | .binary op left right pos => do
    let a ← counted env left.pos (eval env left)
    let b ← counted env right.pos (eval env right)
    applyBinary env op a b pos
  | .and left right _ => do
    if ← asTest (← counted env left.pos (eval env left)) left.pos then
      return .bool (← asTest (← counted env right.pos (eval env right)) right.pos)
    else return .bool false
  | .or left right _ => do
    if ← asTest (← counted env left.pos (eval env left)) left.pos then return .bool true
    else return .bool (← asTest (← counted env right.pos (eval env right)) right.pos)
  | .coalesce left right _ => do
    match ← counted env left.pos (eval env left) with
    | .unit => counted env right.pos (eval env right)
    | d => return d
  | .chain (.var name pos) links => do
    walkVariable env name pos (← evalLinks env (isDirect links) links) none
  | .chain (.receiver pos) links => do
    walkReceiver env pos (← evalLinks env (isDirect links) links) none
  | .chain base links => do
    let steps ← evalLinks env (isDirect links) links
    walkValue env (← counted env base.pos (eval env base)) steps
  | .closure name captures pos => do
    return .function name (← captures.mapM (Run.share · pos))

/-- The values of expressions, from first to last. -/
def evalAll (env : Env) : List Expr → Run (List Datum)
  | [] => pure []
  | e :: rest => do
    let d ← counted env e.pos (eval env e)
    return d :: (← evalAll env rest)

def evalEntries (env : Env) : List (String × Expr) → Run ObjectMap
  | [] => pure []
  | (k, e) :: rest => do
    let d ← counted env e.pos (eval env e)
    return Entries.insertSorted (← evalEntries env rest) k d

/-- The text of interpolated parts. -/
def evalPieces (env : Env) (acc : String) : List Expr → Run String
  | [] => pure acc
  | e :: rest => do
    let d ← counted env e.pos (eval env e)
    evalPieces env (← addPiece env acc d e.pos) rest

/-- The steps of a chain, from first to last. -/
def evalLinks (env : Env) (direct : Bool) : List Link → Run (List Step)
  | [] => pure []
  | link :: rest => do
    if !direct then Run.tick env link.opPos
    let step ← evalLink env direct link
    return step :: (← evalLinks env direct rest)

def evalLink (env : Env) (direct : Bool) : Link → Run Step
  | .index arg safe opPos => do
    let d ← if direct then eval env arg else counted env arg.pos (eval env arg)
    return .index d safe arg.startPos opPos
  | .property name safe pos opPos => pure (.property name safe pos opPos)
  | .method name args safe pos opPos => do return .method name (← evalAll env args) safe pos opPos

/-- Run statements one after the other; the value is that of the last one. -/
def runAll (env : Env) : List Stmt → Run Datum
  | [] => pure .unit
  | [s] => counted env s.pos (run env s)
  | s :: rest => do
    let _ ← counted env s.pos (run env s)
    runAll env rest

/-- Run a statement that is counted already. -/
def run (env : Env) : Stmt → Run Datum
  | .expr e => if isCall e then eval env e else counted env e.pos (eval env e)
  | .declare name init isConst _ => do
    Run.declare name (← evalIf env init) isConst
    return .unit
  | .assign op target value pos => do
    let change : Change := ⟨op, ← counted env value.pos (eval env value), pos⟩
    match target with
    | .var name p => assignName env name p change
    | .receiver p => assignReceiver env p change
    | .chain (.var name p) links =>
      let _ ← walkVariable env name p (← evalLinks env (isDirect links) links) (some change)
    | .chain (.receiver p) links =>
      let _ ← walkReceiver env p (← evalLinks env (isDirect links) links) (some change)
    | e => Run.raise (.constantAssigned "") e.pos
    return .unit
  | .cond test yes no _ => do
    if ← asTest (← counted env test.pos (eval env test)) test.pos then Run.inBlock (runAll env yes)
    else Run.inBlock (runAll env no)
  | .choose subject cases otherwise _ => do
    let d ← counted env subject.pos (eval env subject)
    match ← runCases env (isCase d) cases with
    | some v => return v
    | none =>
      match ← runCases env (isInCase d) cases with
      | some v => return v
      | none => Run.inBlock (runAll env otherwise)
  | .loop none body pos =>
    repeatRun maxRounds (whileRound (countRound env body pos) (Run.inBlock (runAll env body)))
  | .loop (some test) body pos =>
    repeatRun maxRounds <| whileRound
      (do
        let _ ← countRound env body pos
        asTest (← counted env test.pos (eval env test)) test.pos)
      (Run.inBlock (runAll env body))
  | .repeat body goOn test _ =>
    repeatRun maxRounds <| untilRound (Run.inBlock (runAll env body))
      (do return (← asTest (← counted env test.pos (eval env test)) test.pos) == goOn)
  | .each name counter items body pos => do
    let d ← counted env items.pos (eval env items)
    Run.inBlock do
      counter.toList.forM (Run.declare · .unit)
      Run.declare name .unit
      loopOver d items.startPos (itemRound env name counter pos (Run.inBlock (runAll env body)))
  | .block body _ => Run.inBlock (runAll env body)
  | .leave value _ => do .fail (.leave (← evalIf env value))
  | .next _ => .fail .next
  | .give value _ => do .fail (.give (← evalIf env value))
  | .throw value pos => do Run.raise (.thrown (← evalIf env value)) pos
  | .attempt body name handler _ =>
    recover (Run.inBlock (runAll env body)) fun caught => Run.inBlock do
      name.toList.forM (Run.declare · caught)
      runAll env handler

/-- The value of an optional expression, unit if there is none. -/
def evalIf (env : Env) : Option Expr → Run Datum
  | none => pure .unit
  | some e => counted env e.pos (eval env e)

/-- The body of the first case that a test of its literals accepts and whose condition holds. -/
def runCases (env : Env) (accepts : Expr → Bool) :
    List (List Expr × Option Expr × List Stmt) → Run (Option Datum)
  | [] => pure none
  | (literals, guard, body) :: rest => do
    if literals.any accepts then
      if ← evalGuard env guard then return some (← Run.inBlock (runAll env body))
      else runCases env accepts rest
    else runCases env accepts rest

def evalGuard (env : Env) : Option Expr → Run Bool
  | none => pure true
  | some e => do asTest (← counted env e.pos (eval env e)) e.pos

end

/-! ### Functions -/

/-- Run a function with arguments and perhaps a receiver. Its variables are its parameters. -/
def runFunction (env : Env) (f : Function) (args : List Datum) :
    Attempt (Machine × Option Datum) Signal Datum := fun (m, receiver) =>
  let scope := ((f.params.zip args).map fun (name, value) => { name, value : Variable }).reverse
  let (o, after) := runAll env f.body { m with scope, receiver }
  let o := match o with
    | .error (.give v) => .ok v
    | o => o
  (o, { after with scope := m.scope, receiver := m.receiver }, after.receiver)

/-- A call of a function from within the script. -/
def callFunction (env : Env) (f : Function) (args : List Datum) (pos : Position) :
    Attempt (Machine × Option Datum) Signal Datum := fun (m, receiver) =>
  match Run.tick env pos m with
  | (.ok (), m) =>
    let (o, after) := runFunction env f args (m, receiver)
    (o.mapError fun
      | .fault e => .fault (e.leaving f.name pos)
      | s => s,
    after)
  | (.error s, m) => (.error s, m, receiver)
  | (.aborted, m) => (.aborted, m, receiver)

/-- A call for which there is no room. -/
def refuseCall (env : Env) (pos : Position) : Attempt (Machine × Option Datum) Signal Datum :=
  fun (m, receiver) =>
    let (o, m) := (do
      Run.tick env pos
      Run.raise .stackOverflow pos : Run Datum) m
    (o, m, receiver)

/-- The operations that count as a millisecond. The model has no clock but this: a script under a limit
of time has so many operations for each millisecond of it. -/
def operationsPerMillisecond : Nat := 2000

/-- A limit of zero is no limit. -/
def nonZero (n : UInt64) : Option Nat := if n == 0 then none else some n.toNat

/-- The environment for a script under limits, without calls. The time that there is until the deadline
of the run, if it has one, is given in milliseconds and counted in operations from here on. -/
def Env.start (script : Program) (limits : Limits) (time : Option Nat) : Env where
  script
  maxOperations := limits.maxOperations.bind nonZero
  timedOperations := time.map (· * operationsPerMillisecond)
  maxText := limits.maxStringSize.bind nonZero
  call _ _ _ := .ofOutcome .aborted

/-- The environment in which calls may nest `depth` deep. -/
def Env.atDepth (base : Env) : Nat → Env
  | 0 => { base with call := fun _ _ pos => refuseCall base pos }
  | depth + 1 => { base with call := callFunction (base.atDepth depth) }

end RowScript.Script
