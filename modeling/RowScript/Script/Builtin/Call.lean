import RowScript.Script.Builtin.Collection
import RowScript.Script.Builtin.Number
import RowScript.Script.Machine

/-!
# Calling built-in functions

`builtin?` finds what a name means for a value and further arguments. Built-ins that call functions
they are given run them through `callback`.
-/

namespace RowScript.Script

/-- The most values that one call can emit. -/
def maxEmitted : Nat := 15

/-- Built-ins that the kind of a value has. -/
def ownBuiltin? (name : String) (self : Datum) (args : List Datum) : Option (Computed Reply) :=
  match self with
  | .string s => textBuiltin? name s args
  | .char c => charBuiltin? name c args
  | .int n => intBuiltin? name n args
  | .float x => floatBuiltin? name x args
  | .array xs => arrayBuiltin? name xs args
  | .map m => mapBuiltin? name m args
  | .record r => recordBuiltin? name r args
  | .range a b closed => rangeBuiltin? name a b closed args
  | .function f _ =>
    match name, args with
    | "name", [] => Reply.keep self (.string f)
    | "is_anonymous", [] => Reply.keep self (.bool (f.startsWith "anon$"))
    | _, _ => none
  | _ => none

/-- Built-ins that every value has. -/
def commonBuiltin? (name : String) (self : Datum) (args : List Datum) : Option (Computed Reply) :=
  match name, args with
  | "to_string", [] => Reply.keep self (.string self.printText)
  | "to_debug", [] => Reply.keep self (.string self.debugText)
  | _, _ => none

/-- Built-ins that touch nothing but their arguments. -/
def plainBuiltin? (name : String) (self : Datum) (args : List Datum) : Option (Computed Reply) :=
  match ownBuiltin? name self args with
  | some r => some r
  | none => commonBuiltin? name self args

/-- Write a line to the log. -/
def logLine (e : LogEvent) : Run Unit := .update fun m => { m with log := m.log.push e }

def printLine (text : String) : Run Unit := logLine ⟨.info, text, []⟩

def debugLine (text : String) (pos : Position) : Run Unit :=
  logLine ⟨.debug, text, [("source", ""), ("pos", pos.text)]⟩

/-- Emit a row through a collector. -/
def emit (h : CollectorHandle) (values : List Datum) : Run Unit :=
  .update fun m => { m with collectors := m.collectors.put h (Datum.itemValues values) }

/-- Built-ins that call no functions. -/
def basicBuiltin? (name : String) (pos : Position) (self : Datum) (args : List Datum) :
    Option (Run Reply) :=
  match plainBuiltin? name self args with
  | some r => some (Run.ofComputed r)
  | none =>
    match name, self, args with
    | "print", d, [] => some do
      printLine d.printText
      return ⟨.unit, d⟩
    | "debug", d, [] => some do
      debugLine d.debugText pos
      return ⟨.unit, d⟩
    | "put_row", .collector h, [.array row] => some do
      emit h row
      return ⟨.unit, self⟩
    | "put_values", .collector h, values =>
      if values.length ≤ maxEmitted then some do
        emit h values
        return ⟨.unit, self⟩
      else none
    | _, _, _ => none

/-- Call a built-in that calls no functions by its name. -/
def callBasic (name : String) (args : List Datum) (pos : Position) : Run Datum :=
  let missing : Run Datum := Run.raise (.functionNotFound (Datum.signature name args)) pos
  match args with
  | [] => missing
  | self :: rest => match basicBuiltin? name pos self rest with
    | some run => do return (← run).value
    | none => missing

/-! ### Functions as arguments -/

/-- Values that a function value already has, followed by further ones. -/
def withBound (bound args : List Datum) : Run (List Datum) := do
  return (← bound.mapM Run.load) ++ args

/-- A function of the script by name, however many parameters it has of those in `arities`. -/
def firstFunction? (env : Env) (name : String) (arities : List Nat) : Option Function :=
  arities.findSome? (env.script.function? name)

/-- Call a function for one item. It takes the values before the item and then nothing more, in which
case the item is its receiver, or the item, or the item and its index. -/
def callback (env : Env) (f : Datum) (before : List Datum) (item : Datum) (index : Nat)
    (pos : Position) : Run Datum :=
  match f with
  | .function name bound =>
    let n := bound.length + before.length
    match firstFunction? env name [n, n + 1, n + 2] with
    | some g =>
      let extra := [item, .int (Int64.ofNat index)].take (g.arity - n)
      let args := bound ++ before ++ extra
      if g.arity == n then Run.onValue item (Run.callOn env g args pos) else Run.callFree env g args pos
    | none => do callBasic name (← withBound bound (before ++ [item])) pos
  | d => Run.raise (.wrongKind d.kindName "Fn") pos

def isTrue : Datum → Bool
  | .bool b => b
  | _ => false

def mapItems (env : Env) (f : Datum) (pos : Position) : Nat → List Datum → Run (List Datum)
  | _, [] => pure []
  | i, x :: xs => do
    let y ← callback env f [] x i pos
    return y :: (← mapItems env f pos (i + 1) xs)

def filterItems (env : Env) (f : Datum) (pos : Position) : Nat → List Datum → Run (List Datum)
  | _, [] => pure []
  | i, x :: xs => do
    let keep := isTrue (← callback env f [] x i pos)
    let rest ← filterItems env f pos (i + 1) xs
    return if keep then x :: rest else rest

def reduceItems (env : Env) (f : Datum) (pos : Position) (acc : Datum) :
    Nat → List Datum → Run Datum
  | _, [] => pure acc
  | i, x :: xs => do reduceItems env f pos (← callback env f [acc] x i pos) (i + 1) xs

/-- The place of the first item that a function accepts. -/
def findItem (env : Env) (f : Datum) (pos : Position) : Nat → List Datum → Run (Option Nat)
  | _, [] => pure none
  | i, x :: xs => do
    if isTrue (← callback env f [] x i pos) then return some i else findItem env f pos (i + 1) xs

/-- Insert an item into a sorted array, after all that do not come later. -/
def insertSortedBy (later : Datum → Datum → Run Bool) (x : Datum) : List Datum → Run (List Datum)
  | [] => pure [x]
  | y :: ys => do
    if ← later y x then return x :: y :: ys else return y :: (← insertSortedBy later x ys)

def sortItemsBy (later : Datum → Datum → Run Bool) : List Datum → List Datum → Run (List Datum)
  | acc, [] => pure acc
  | acc, x :: xs => do sortItemsBy later (← insertSortedBy later x acc) xs

/-- Whether the first item comes later, as a function says by the sign of its answer. -/
def laterBy (env : Env) (f : Datum) (pos : Position) (a b : Datum) : Run Bool := do
  match ← callback env f [a] b 0 pos with
  | .int n => return n > 0
  | .bool t => return !t
  | _ => return false

/-- Built-ins on arrays that call functions. -/
def callingBuiltin? (env : Env) (name : String) (pos : Position) (xs : List Datum)
    (args : List Datum) : Option (Run Reply) :=
  let self : Datum := .array xs
  match name, args with
  | "map", [.function f bound] => some do
    return ⟨.array (← mapItems env (.function f bound) pos 0 xs), self⟩
  | "filter", [.function f bound] => some do
    return ⟨.array (← filterItems env (.function f bound) pos 0 xs), self⟩
  | "reduce", [.function f bound] => some do
    return ⟨← reduceItems env (.function f bound) pos .unit 0 xs, self⟩
  | "reduce", [.function f bound, start] => some do
    return ⟨← reduceItems env (.function f bound) pos start 0 xs, self⟩
  | "some", [.function f bound] => some do
    return ⟨.bool (← findItem env (.function f bound) pos 0 xs).isSome, self⟩
  | "all", [.function f bound] => some do
    return ⟨.bool ((← filterItems env (.function f bound) pos 0 xs).length == xs.length), self⟩
  | "find", [.function f bound] => some do
    return ⟨((← findItem env (.function f bound) pos 0 xs).bind (xs[·]?)).getD .unit, self⟩
  | "index_of", [.function f bound] => some do
    let i ← findItem env (.function f bound) pos 0 xs
    return ⟨.int ((i.map Int64.ofNat).getD (-1)), self⟩
  | "index_of", [d] => some do
    let i ← Run.ofComputed (findEqual d 0 xs)
    return ⟨.int ((i.map Int64.ofNat).getD (-1)), self⟩
  | "sort", [.function f bound] => some do
    return ⟨.unit, .array (← sortItemsBy (laterBy env (.function f bound) pos) [] xs)⟩
  | _, _ => none

/-- What a name means for a value and further arguments. -/
def builtin? (env : Env) (name : String) (pos : Position) (self : Datum) (args : List Datum) :
    Option (Run Reply) :=
  match basicBuiltin? name pos self args with
  | some run => some run
  | none =>
    match self with
    | .array xs => callingBuiltin? env name pos xs args
    | _ => none

/-- Built-ins that change what they are called on. -/
def changesSelf : List String :=
  ["push", "append", "insert", "pop", "shift", "remove", "set", "reverse", "clear", "truncate", "chop",
    "pad", "sort", "mixin", "fill_with", "trim", "make_upper", "make_lower", "crop", "replace"]

/-- Call a built-in on the value at hand. -/
def callBuiltin (env : Env) (name : String) (args : List Datum) (pos : Position) : RunOn Datum := do
  .lift (Run.tick env pos)
  let self ← RunOn.self
  match builtin? env name pos self args with
  | some run =>
    let reply ← .lift (Run.locating pos run)
    RunOn.setSelf reply.self
    .lift (Run.checkSize env reply.value pos)
    return reply.value
  | none => RunOn.raise (.functionNotFound (Datum.signature name (self :: args))) pos

end RowScript.Script
