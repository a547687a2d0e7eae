import RowScript.Attempt
import RowScript.Interpreter
import RowScript.Script.Operators

/-!
# The state of a running script

A `Run` changes a `Machine` and ends with a value or with a `Signal`: a fault, or a jump out of a
loop or a function. What a run changed before its signal stays changed.

* `tick` counts an operation and stops at the limits of operations and of time.
* `lookup` and `assignVariable` reach through cells, which closures share with their surroundings, and
  so do `receiver` and `keepReceiver`.
* `inBlock` drops the variables of a block, however the block ended.
-/

namespace RowScript.Script

structure Variable where
  name : String
  /-- The value, or the cell that holds it. -/
  value : Datum
  isConst : Bool := false
  deriving Inhabited

structure Machine where
  /-- The variables of the running function, innermost first. -/
  scope : List Variable := []
  /-- What the running function was called on: the value, or the cell that holds it. -/
  receiver : Option Datum := none
  cells : Array Datum := #[]
  operations : Nat := 0
  collectors : Collectors := .empty
  log : Array LogEvent := #[]
  deriving Inhabited

/-- Why a run did not give a value. -/
inductive Signal
  | fault (f : Fault)
  /-- Leave the loop with a value. -/
  | leave (value : Datum)
  /-- Go on with the next round of the loop. -/
  | next
  /-- Leave the function with a value. -/
  | give (value : Datum)
  deriving Inhabited

abbrev Run := Attempt Machine Signal

/-- A run on a value that it can change too. -/
abbrev RunOn := Attempt (Machine × Datum) Signal

/-- What surrounds a run: the script, its limits, and how its functions are called. The receiver of a
called function is kept as the call left it, also when the call failed. -/
structure Env where
  script : Program
  maxOperations : Option Nat
  /-- The operations for which there is time; it is looked at where a watch looks at its clock. -/
  timedOperations : Option Nat
  maxText : Option Nat
  call : Function → List Datum → Position → Attempt (Machine × Option Datum) Signal Datum

namespace Run

variable {α : Type}

def raise (cause : Cause) (pos : Position := .unknown) : Run α := .fail (.fault { cause, pos })

def ofComputed : Computed α → Run α
  | .ok a => pure a
  | .error cause => raise cause

/-- Give a place to faults that have none. -/
def locating (pos : Position) (x : Run α) : Run α :=
  x.mapError fun
    | .fault f => .fault (f.locate pos)
    | s => s

/-- Count an operation. -/
def tick (env : Env) (pos : Position) : Run Unit := fun m =>
  let n := m.operations + 1
  let m := { m with operations := n }
  let exceeds (limit : Option Nat) : Bool := match limit with
    | some max => n > max
    | none => false
  if exceeds env.maxOperations then (.error (.fault { cause := .tooManyOperations, pos }), m)
  else if n % Watch.interval == 0 && exceeds env.timedOperations then
    (.error (.fault { cause := .terminated, pos }), m)
  else (.ok (), m)

/-- Within the limit of operations it is only the time that can stop a run. -/
theorem tick_within {env : Env} (pos : Position) {m : Machine}
    (room : ∀ max, env.maxOperations = some max → m.operations < max) :
    (tick env pos m).1 =
      if (m.operations + 1) % Watch.interval == 0 &&
          env.timedOperations.any (· < m.operations + 1) then
        .error (.fault { cause := .terminated, pos })
      else .ok () := by
  cases hmax : env.maxOperations with
  | none => cases htime : env.timedOperations <;> simp [tick, hmax, htime, apply_ite Prod.fst]
  | some max =>
    have within : ¬ m.operations + 1 > max := Nat.not_lt.mpr (room max hmax)
    cases htime : env.timedOperations <;>
      simp only [tick, hmax, htime, within, decide_false, Bool.false_eq_true, if_false,
        apply_ite Prod.fst, Option.any_none, Option.any_some, gt_iff_lt]

/-- Texts in a value must not be longer than the limit. -/
def checkSize (env : Env) (d : Datum) (pos : Position) : Run Unit :=
  match env.maxText with
  | some max => if d.textSize > max then raise (.tooLarge "Length of string") pos else pure ()
  | none => pure ()

/-! ### Variables -/

/-- The value that a variable, a bound argument or a receiver holds. -/
def load (d : Datum) : Run Datum := do return d.loadFrom (← .read).cells

def find? (name : String) : Run (Option Variable) := do
  return (← .read).scope.find? (·.name == name)

def lookup (name : String) (pos : Position) : Run Datum := do
  match ← find? name with
  | some v => load v.value
  | none => raise (.variableNotFound name) pos

/-- The scope with a new value for a variable. -/
def replaceIn (name : String) (value : Datum) : List Variable → List Variable
  | [] => []
  | v :: rest => if v.name == name then { v with value } :: rest else v :: replaceIn name value rest

def assignVariable (name : String) (value : Datum) : Run Unit := do
  match ← find? name with
  | some ⟨_, .cell i, _⟩ => .update fun m => { m with cells := m.cells.modify i fun _ => value }
  | _ => .update fun m => { m with scope := replaceIn name value m.scope }

def declare (name : String) (value : Datum) (isConst : Bool := false) : Run Unit :=
  .update fun m => { m with scope := ⟨name, value, isConst⟩ :: m.scope }

/-- Make a variable one that can be shared, and give the cell that holds it. -/
def share (name : String) (pos : Position) : Run Datum := do
  match ← find? name with
  | none => raise (.variableNotFound name) pos
  | some v => match v.value with
    | .cell i => return .cell i
    | d => do
      let i := (← .read).cells.size
      .update fun m => { m with cells := m.cells.push d, scope := replaceIn name (.cell i) m.scope }
      return .cell i

/-- Drop what was declared since the scope had `size` variables. -/
def dropTo (size : Nat) (m : Machine) : Machine :=
  { m with scope := m.scope.drop (m.scope.length - size) }

/-- A run whose variables end with it. -/
def inBlock (x : Run α) : Run α := fun m =>
  let (o, after) := x m
  (o, dropTo m.scope.length after)

/-! ### Receivers -/

def receiver (pos : Position) : Run Datum := do
  match (← .read).receiver with
  | some d => load d
  | none => raise .noReceiver pos

/-- The receiver, or the cell that holds it. -/
def held : Run (Option Datum) := do return (← .read).receiver

/-- A new value for the receiver. A cell that holds the receiver keeps doing so. -/
def keepReceiver (value : Datum) (m : Machine) : Machine :=
  match m.receiver with
  | some (.cell i) => { m with cells := m.cells.modify i fun _ => value }
  | _ => { m with receiver := some value }

/-! ### Working on a value -/

/-- Work on a value that is not kept. -/
def onValue (d : Datum) (x : RunOn α) : Run α := fun m =>
  let (o, m, _) := x (m, d)
  (o, m)

/-- Work on a variable. -/
def onVariable (name : String) (d : Datum) (x : RunOn α) : Run α := fun m =>
  let (o, m, d) := x (m, d)
  (o, (assignVariable name d m).2)

/-- Work on the receiver. -/
def onReceiver (d : Datum) (x : RunOn α) : Run α := fun m =>
  let (o, m, d) := x (m, d)
  (o, keepReceiver d m)

/-- Call a function of the script, with a receiver that the call may change. -/
def callOn (env : Env) (f : Function) (args : List Datum) (pos : Position) : RunOn Datum :=
  fun (m, d) =>
  let (o, m, r) := env.call f args pos (m, some d)
  (o, m, r.getD d)

/-- Call a function of the script without a receiver. -/
def callFree (env : Env) (f : Function) (args : List Datum) (pos : Position) : Run Datum := fun m =>
  let (o, m, _) := env.call f args pos (m, none)
  (o, m)

end Run

namespace RunOn

variable {α : Type}

/-- A run that leaves the value alone. -/
def lift (x : Run α) : RunOn α := fun (m, d) =>
  let (o, m) := x m
  (o, m, d)

def self : RunOn Datum := fun (m, d) => (.ok d, m, d)

def setSelf (d : Datum) : RunOn Unit := fun (m, _) => (.ok (), m, d)

/-- Work on a part of the value; `put` says what a changed part makes of the whole. -/
def onPart (part : Datum) (put : Datum → Datum) (x : RunOn α) : RunOn α := fun (m, _) =>
  let (o, m, part) := x (m, part)
  (o, m, put part)

/-- Work on a value apart from this one, and keep what became of it. -/
def onCopy (copy : Datum) (x : RunOn α) : RunOn (α × Datum) := fun (m, d) =>
  let (o, m, copy) := x (m, copy)
  (o.bind fun a => .ok (a, copy), m, d)

def raise (cause : Cause) (pos : Position := .unknown) : RunOn α := lift (Run.raise cause pos)

/-- Give a place to faults that have none. -/
def locating (pos : Position) (x : RunOn α) : RunOn α :=
  x.mapError fun
    | .fault f => .fault (f.locate pos)
    | s => s

end RunOn

end RowScript.Script
