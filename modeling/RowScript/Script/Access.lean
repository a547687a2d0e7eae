import RowScript.Script.Builtin.Call

/-!
# Reaching into values

A chain such as `a.b[i].f(x)` reaches into its base value step by step, and what a later step changes
is put back into what it was taken from. `walk` follows the steps of a chain whose arguments are
values; a chain can end in an assignment.

Parts of arrays and object maps are changed in place. A part of a record is a copy, which is set again
only after the rest of the chain succeeded and changed something.
-/

namespace RowScript.Script

/-- A link of a chain with its arguments. -/
inductive Step
  | index (arg : Datum) (safe : Bool) (argPos opPos : Position)
  | property (name : String) (safe : Bool) (pos opPos : Position)
  | method (name : String) (args : List Datum) (safe : Bool) (pos opPos : Position)
  deriving Inhabited

namespace Step

/-- An optional step stops at a unit value. -/
def safe : Step → Bool
  | index _ safe _ _ | property _ safe _ _ | method _ _ safe _ _ => safe

def opPos : Step → Position
  | index _ _ _ opPos | property _ _ _ opPos | method _ _ _ _ opPos => opPos

end Step

/-- An assignment of a value, perhaps through an operator. -/
structure Change where
  op : Option BinaryOp
  value : Datum
  pos : Position

/-! ### Operators in assignments -/

/-- The value of a binary operator. -/
def applyBinary (env : Env) (op : BinaryOp) (a b : Datum) (pos : Position) : Run Datum := do
  if !isPlain op a b then Run.tick env pos
  match binary? op a b with
  | some r => do
    let d ← Run.locating pos (Run.ofComputed r)
    Run.checkSize env d pos
    return d
  | none => Run.raise (.functionNotFound (Datum.signature op.sign [a, b])) pos

/-- What an assignment makes of an old value. Anything can be added to an array. -/
def Change.apply (c : Change) (env : Env) (old : Datum) : Run Datum :=
  match c.op with
  | none => pure c.value
  | some op => do
    let new ← match op, old, c.value with
      | .add, .array xs, .array ys => pure (.array (xs ++ ys))
      | .add, .array xs, d => pure (.array (xs ++ [d]))
      | _, _, _ => applyBinary env op old c.value c.pos
    Run.checkSize env new c.pos
    return new

/-! ### Indexing -/

/-- The signature of an indexing in a message. -/
def indexSignature (self arg : Datum) : String := self.kindName ++ " [" ++ arg.kindName ++ "]"

/-- An index that has to be an integer. -/
def asIndex (arg : Datum) (pos : Position) : Run Int :=
  match arg with
  | .int i => pure i.toInt
  | d => Run.raise (.wrongKind d.kindName "i64") pos

def asKey (arg : Datum) (pos : Position) : Run String :=
  match arg with
  | .string k => pure k
  | d => Run.raise (.wrongKind d.kindName "string") pos

/-- The place of an existing item of an array. -/
def arrayIndex (xs : List Datum) (arg : Datum) (pos : Position) : Run Nat := do
  let i ← asIndex arg pos
  match itemIndex? xs.length i with
  | some k => return k
  | none => Run.raise (.arrayBounds xs.length i) pos

def textIndex (s : String) (arg : Datum) (pos : Position) : Run Nat := do
  let i ← asIndex arg pos
  match itemIndex? s.length i with
  | some k => return k
  | none => Run.raise (.textBounds s.length i) pos

/-- The place of a bit, counted from the end if negative. -/
def bitIndex (arg : Datum) (pos : Position) : Run Nat := do
  let i ← asIndex arg pos
  match itemIndex? 64 i with
  | some k => return k
  | none =>
    Run.raise (.arithmetic
      ("Bit-field index " ++ toString i ++ " out of bounds: only 64 bits in bit-field")) pos

/-- The item at an index. Absent names of an object map have the unit value. -/
def getIndexed (env : Env) (self arg : Datum) (argPos opPos : Position) : Run Datum := do
  Run.tick env opPos
  match self, arg with
  | .map m, arg => return (m.lookup (← asKey arg argPos)).getD .unit
  | .array xs, arg => return xs.getD (← arrayIndex xs arg argPos) .unit
  | .string s, .range a b closed =>
    let (i, n) := rangeBounds a b closed
    return .string (String.ofList (slice s.toList i n))
  | .string s, arg => return .char (s.toList.getD (← textIndex s arg argPos) ' ')
  | .int n, .int i => do
    let k ← bitIndex (.int i) argPos
    return .bool ((n.toInt.fdiv (Nat.pow 2 k)) % 2 == 1)
  | .record r, .string k =>
    Run.tick env opPos
    return Record.get r k
  | self, arg => Run.raise (.noIndexer (indexSignature self arg)) opPos

/-- Assign to an item. -/
def setIndexed (env : Env) (c : Change) (arg : Datum) (argPos opPos : Position) : RunOn Unit := do
  .lift (Run.tick env opPos)
  match ← RunOn.self, arg with
  | .map m, arg =>
    let k ← .lift (asKey arg argPos)
    let old := (m.lookup k).getD .unit
    RunOn.setSelf (.map (Entries.insertSorted m k old))
    let new ← .lift (c.apply env old)
    RunOn.setSelf (.map (Entries.insertSorted m k new))
  | .array xs, arg =>
    let k ← .lift (arrayIndex xs arg argPos)
    let new ← .lift (c.apply env (xs.getD k .unit))
    RunOn.setSelf (.array (xs.set k new))
  | .string s, arg =>
    let k ← .lift (textIndex s arg argPos)
    match ← .lift (c.apply env (.char (s.toList.getD k ' '))) with
    | .char d => RunOn.setSelf (.string (String.ofList (s.toList.set k d)))
    | d => RunOn.raise (.wrongKind d.kindName "char") c.pos
  | .record r, .string k =>
    let new ← .lift do
      if c.op.isSome then
        Run.tick env opPos
        c.apply env (Record.get r k)
      else pure c.value
    .lift (Run.tick env opPos)
    RunOn.setSelf (.record (Record.set r k new))
  | self, arg =>
    RunOn.raise (.noIndexer (indexSignature self arg ++ " = " ++ c.value.kindName)) opPos

/-! ### Properties -/

def noGetter (name : String) (self : Datum) : Cause :=
  .unknownProperty
    ("Unknown property '" ++ name ++ "' - a getter is not registered for type '" ++
      self.kindName ++ "'")

def noSetter (name : String) (self value : Datum) : Cause :=
  .unknownProperty
    ("No writable property '" ++ name ++ "' - a setter is not registered for type '" ++ self.kindName ++
      "' to handle '" ++ value.kindName ++ "'")

/-- Properties that are functions without arguments. -/
def isGetter (self : Datum) (name : String) : Bool :=
  match self with
  | .string _ => ["len", "is_empty", "bytes"].contains name
  | .array _ => ["len", "is_empty"].contains name
  | .int _ => ["is_zero", "is_odd", "is_even"].contains name
  | .float _ =>
    ["is_zero", "floor", "ceiling", "round", "int", "fraction", "is_nan", "is_finite",
      "is_infinite"].contains name
  | .range _ _ _ => ["start", "end", "is_inclusive", "is_exclusive", "is_empty"].contains name
  | .function _ _ => ["name", "is_anonymous"].contains name
  | _ => false

def getProperty (env : Env) (self : Datum) (name : String) (pos opPos : Position) : Run Datum := do
  Run.tick env pos
  match self with
  | .map m => return (m.lookup name).getD .unit
  | .record r =>
    Run.tick env opPos
    return Record.get r name
  | self =>
    if isGetter self name then
      match plainBuiltin? name self [] with
      | some r => return (← Run.locating pos (Run.ofComputed r)).value
      | none => Run.raise (noGetter name self) pos
    else Run.raise (noGetter name self) pos

def setProperty (env : Env) (c : Change) (name : String) (pos opPos : Position) : RunOn Unit := do
  match ← RunOn.self with
  | .map _ => setIndexed env c (.string name) pos opPos
  | .record r =>
    let new ← .lift do
      if c.op.isSome then
        Run.tick env pos
        Run.tick env opPos
        c.apply env (Record.get r name)
      else pure c.value
    .lift (Run.tick env pos)
    .lift (Run.tick env opPos)
    RunOn.setSelf (.record (Record.set r name new))
  | self =>
    .lift (Run.tick env pos)
    RunOn.raise (if c.op.isSome then noGetter name self else noSetter name self c.value) pos

/-! ### Calls -/

/-- Call a function value with further arguments. -/
def callValue (env : Env) (f : Datum) (args : List Datum) (pos : Position) : RunOn Datum := do
  match f with
  | .function name bound =>
    match env.script.function? name (bound.length + args.length) with
    | some g => .lift (Run.callFree env g (bound ++ args) pos)
    | none => do
      match ← .lift (withBound bound args) with
      | [] => RunOn.raise (.functionNotFound (Datum.signature name [])) pos
      | self :: rest => .lift (Run.onValue self (callBuiltin env name rest pos))
  | d => RunOn.raise (.wrongKind d.kindName "Fn") pos

/-- The function that an object map has under a name. -/
def ownFunction? (self : Datum) (name : String) : Option Datum :=
  match self with
  | .map m => match m.lookup name with
    | some (.function f bound) => some (.function f bound)
    | _ => none
  | _ => none

/-- Call a function of the script on the value at hand. -/
def callScriptOn (env : Env) (f : Datum) (args : List Datum) (pos : Position) : RunOn Datum := do
  match f with
  | .function name bound =>
    match env.script.function? name (bound.length + args.length) with
    | some g => Run.callOn env g (bound ++ args) pos
    | none => do callBuiltin env name (← .lift (withBound bound args)) pos
  | d => RunOn.raise (.wrongKind d.kindName "Fn") pos

/-- Call a method that is not part of the language: a function that the value at hand has, one of the
script, or a built-in, in this order. -/
def callOwnMethod (env : Env) (name : String) (self : Datum) (args : List Datum) (pos : Position) :
    RunOn (Datum × Bool) :=
  match ownFunction? self name with
  | some f => do return (← callScriptOn env f args pos, false)
  | none =>
    match env.script.function? name args.length with
    | some g => do return (← Run.callOn env g args pos, false)
    | none => do return (← callBuiltin env name args pos, true)

/-- Call a method, and say whether it may have changed the value at hand. -/
def callMethod (env : Env) (name : String) (args : List Datum) (pos : Position) :
    RunOn (Datum × Bool) := do
  let self ← RunOn.self
  match name, self, args with
  | "call", .function f bound, args => return (← callValue env (.function f bound) args pos, false)
  | "call", _, .function f bound :: args =>
    return (← callScriptOn env (.function f bound) args pos, false)
  | "curry", .function f bound, args => return (.function f (bound ++ args), false)
  | "type_of", self, [] => return (.string self.kindName, false)
  | "is_shared", _, [] => return (.bool false, false)
  | _, _, _ => callOwnMethod env name self args pos

/-! ### Chains -/

/-- What the rest of a chain does with a part that was taken out at `arg`. -/
def intoIndexed (env : Env) (arg : Datum) (argPos opPos : Position) (rest : RunOn (Datum × Bool)) :
    RunOn (Datum × Bool) := do
  let self ← RunOn.self
  let part ← .lift (getIndexed env self arg argPos opPos)
  match self, arg with
  | .map m, .string k =>
    let put (d : Datum) : Datum :=
      if m.any (·.1 == k) then .map (Entries.insertSorted m k d) else .map m
    RunOn.onPart part put rest
  | .array xs, .int i =>
    let k := (itemIndex? xs.length i.toInt).getD 0
    RunOn.onPart part (fun d => .array (xs.set k d)) rest
  | .record r, .string k => do
    let ((value, changed), part) ← RunOn.onCopy part rest
    if changed then
      .lift (Run.tick env opPos)
      RunOn.setSelf (.record (Record.set r k part))
    return (value, changed)
  | _, _ => do
    let (result, _) ← RunOn.onCopy part rest
    return result

/-- What the rest of a chain does with a property. -/
def intoProperty (env : Env) (name : String) (pos opPos : Position) (rest : RunOn (Datum × Bool)) :
    RunOn (Datum × Bool) := do
  let self ← RunOn.self
  let part ← .lift (getProperty env self name pos opPos)
  match self with
  | .map m =>
    let put (d : Datum) : Datum :=
      if m.any (·.1 == name) then .map (Entries.insertSorted m name d) else .map m
    RunOn.onPart part put rest
  | .record r => do
    let ((value, changed), part) ← RunOn.onCopy part rest
    if changed then
      .lift (Run.tick env opPos)
      RunOn.setSelf (.record (Record.set r name part))
    return (value, changed)
  | _ => do
    let (result, _) ← RunOn.onCopy part rest
    return result

/-- Follow the steps of a chain from the value at hand. The result is the value of the chain, and
whether the value at hand may have changed. -/
def walk (env : Env) (change : Option Change) : List Step → RunOn (Datum × Bool)
  | [] => do return (← RunOn.self, false)
  | step :: rest => do
    let self ← RunOn.self
    match step.safe, self with
    | true, .unit => return (.unit, false)
    | _, _ =>
      RunOn.locating step.opPos <|
        match step, rest, change with
        | .index arg _ argPos opPos, [], some c => do
          setIndexed env c arg argPos opPos
          return (.unit, true)
        | .index arg _ argPos opPos, [], none => do
          return (← .lift (getIndexed env self arg argPos opPos), false)
        | .index arg _ argPos opPos, rest, change =>
          intoIndexed env arg argPos opPos (walk env change rest)
        | .property name _ pos opPos, [], some c => do
          setProperty env c name pos opPos
          return (.unit, true)
        | .property name _ pos opPos, [], none => do
          return (← .lift (getProperty env self name pos opPos), false)
        | .property name _ pos opPos, rest, change =>
          intoProperty env name pos opPos (walk env change rest)
        | .method name args _ pos _, [], _ => callMethod env name args pos
        | .method name args _ pos _, rest, change => do
          let (value, _) ← callMethod env name args pos
          let (result, _) ← RunOn.onCopy value (walk env change rest)
          return result

/-- Whether a step asks if what the chain begins with is shared. -/
def Step.asksShared : Step → Bool
  | .method name args _ _ _ => name == "is_shared" && args.isEmpty
  | _ => false

/-- Follow a chain from what a cell holds. -/
def walkShared (env : Env) (change : Option Change) : List Step → RunOn (Datum × Bool)
  | [] => walk env change []
  | step :: rest =>
    if step.asksShared then do
      match step.safe, ← RunOn.self with
      | true, .unit => return (.unit, false)
      | _, _ =>
        let (result, _) ← RunOn.onCopy (.bool true) (walk env change rest)
        return result
    else walk env change (step :: rest)

/-- Follow a chain from the value of a variable or of the receiver: `held` is the value, or the cell
that holds it. -/
def walkHeld (env : Env) (held : Option Datum) (change : Option Change) (steps : List Step) :
    RunOn (Datum × Bool) :=
  if held.any Datum.isCell then walkShared env change steps else walk env change steps

end RowScript.Script
