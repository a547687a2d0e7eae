import RowScript.Interpreter
import RowScript.Script.Eval
import RowScript.Script.Parser
import RowScript.Script.Simplify

/-!
# The script engine

`Script.interpreter` runs scripts under limits, and `scriptEngine` is the engine that it gives
(`Interpreter.engine`), on a thread that is at rest whenever a step begins.

Time is counted in operations. The state of this interpreter is its clock, which stands where the
operations done so far have moved it to (`elapsed`). The deadline of a run stands in the thread, where the
engine sets it and puts it back; a run stops at the count of operations at which the watch of that
deadline stops it (`tick_eq_stops`).
-/

namespace RowScript

namespace Script

/-- Read a source as a script. -/
def Program.ofSource? (limits : Limits) (source : String) : Except SyntaxFault Program := do
  let tokens ← lex (limits.maxStringSize.bind nonZero) source
  return (← ofTokens? tokens).simplify

/-- The functions that a host can find, by name and count of parameters. -/
def Program.entryPoints (p : Program) : List EntryPoint :=
  (p.functions.filter fun f => !f.isAnonymous).map fun f => ⟨f.name, f.arity⟩

/-- The environment of a call by a host, with the time that there is for it. -/
def Program.env (p : Program) (limits : Limits) (time : Option Nat) : Env :=
  (Env.start p limits time).atDepth limits.maxCallLevels.toNat

/-! ### Time -/

/-- The milliseconds that are over when an operation begins. -/
def elapsed (operations : Nat) : Nat := (operations - 1) / operationsPerMillisecond

/-- The time until a deadline. -/
def timeLeft (watch : Option Watch) (now : Nat) : Option Nat :=
  watch.bind fun w => w.deadline.map (· - now)

theorem timedOperations_env (p : Program) (limits : Limits) (time : Option Nat) :
    (p.env limits time).timedOperations = time.map (· * operationsPerMillisecond) := by
  unfold Program.env
  cases limits.maxCallLevels.toNat <;> rfl

/-- A deadline is over for an operation that there was no time for. -/
theorem deadline_le_iff (deadline now operations : Nat) :
    deadline ≤ now + elapsed (operations + 1) ↔
      (deadline - now) * operationsPerMillisecond < operations + 1 := by
  rw [elapsed, Nat.add_sub_cancel, Nat.lt_succ_iff, ← Nat.le_div_iff_mul_le (by decide),
    Nat.sub_le_iff_le_add']

/-- An operation that is within the limit of operations stops the run if the watch says so. -/
theorem tick_eq_stops (p : Program) (limits : Limits) (watch : Option Watch) (now : Nat)
    (pos : Position) {m : Machine}
    (room : ∀ max, (p.env limits (timeLeft watch now)).maxOperations = some max → m.operations < max) :
    (Run.tick (p.env limits (timeLeft watch now)) pos m).1 =
      if watch.any (·.stops (m.operations + 1) (now + elapsed (m.operations + 1))) then
        .error (.fault { cause := .terminated, pos })
      else .ok () := by
  have time := timedOperations_env p limits (timeLeft watch now)
  generalize p.env limits (timeLeft watch now) = env at room time ⊢
  rw [Run.tick_within pos room, time]
  rcases watch with _ | ⟨_ | deadline⟩
  · simp [timeLeft]
  · simp [timeLeft, Watch.stops]
  · simp [timeLeft, Watch.stops, deadline_le_iff]

end Script

/-- A compiled script. -/
abbrev ScriptUnit := CompiledScript Script.Program

@[match_pattern] abbrev ScriptUnit.mk (script : Script.Program) (limits : Limits) : ScriptUnit :=
  ⟨script, limits⟩

namespace CompiledScript

/-- The functions that a host can find. -/
def functions (u : ScriptUnit) : List EntryPoint := u.script.entryPoints

def defines (u : ScriptUnit) (entry : EntryPoint) : Bool := u.functions.contains entry

/-- The environment of a call by a host. -/
def env (u : ScriptUnit) : Script.Env := u.script.env u.limits (u.limits.timeout.map (·.millis))

end CompiledScript

/-- A live script. -/
abbrev ScriptInstance := LiveScript Script.Program

namespace Script

/-! ### Runs -/

/-- A fault as the halt of a run. -/
def Fault.toHalt (f : Fault) : Halt where
  terminated := match f.cause with
    | .terminated => true
    | _ => false
  message := f.message

/-- A fault on its way out of an entry point. -/
def Fault.leavingEntry (f : Fault) : Fault :=
  if f.cause.isCatchable then f else { f with pos := .unknown }

/-- What a run that a host asked for ends with. -/
def outcomeOf (toHalt : Fault → Halt) : Outcome Signal Datum → Outcome Halt Datum
  | .ok d => .ok d
  | .error (.fault f) => .error (toHalt f)
  | .error (.give d) => .ok d
  | .error _ => .ok .unit
  | .aborted => .aborted

/-- The machine at the start of a run. -/
def Machine.start {σ : Type} (s : Scene σ) (receiver : Option Datum) (cells : Array Datum) :
    Machine :=
  { receiver, cells, collectors := s.collectors }

/-- What a run changed of the scene. -/
def Machine.store {σ : Type} (m : Machine) (s : Scene σ) : Scene σ :=
  { s with collectors := m.collectors, log := s.log ++ m.log }

/-- What a run changed of the heap: the clock has gone on. -/
def Machine.leave (m : Machine) (h : Heap Nat) : Heap Nat :=
  { m.store h.toScene with engine := h.engine + elapsed m.operations, cells := m.cells }

/-- Run the statements outside the functions. -/
def runTopOf (limits : Limits) (watch : Option Watch) (p : Program) : Attempt (Heap Nat) Halt Unit :=
  fun h =>
    let env := p.env limits (timeLeft watch h.engine)
    let (o, m) := runAll env p.body (Machine.start h.toScene none h.cells)
    ((outcomeOf Fault.toHalt o).map fun _ => (), m.leave h)

/-- Call a function by its name. -/
def callFunctionOf (limits : Limits) (watch : Option Watch) (p : Program) (name : String)
    (args : List Datum) : Attempt (Heap Nat × Datum) Halt Datum := fun (h, this) =>
  let toHalt (f : Fault) : Halt := f.leavingEntry.toHalt
  match p.function? name args.length with
  | none => (.error (toHalt { cause := .functionNotFound name }), h, this)
  | some f =>
    let env := p.env limits (timeLeft watch h.engine)
    match Run.tick env .unknown (Machine.start h.toScene none h.cells) with
    | (.ok (), start) =>
      let (o, m, handle) := runFunction env f args (start, some this)
      (outcomeOf toHalt o, m.leave h, handle.getD this)
    | (o, m) => (outcomeOf toHalt (o.bind fun _ => .ok .unit), m.leave h, this)

/-- The interpreter for scripts. Besides them it only knows the time. -/
def interpreter : Interpreter Nat Program where
  clock now := now
  compile limits source := .ofOutcome <|
    match Program.ofSource? limits source with
    | .ok p => .ok p
    | .error fault => .error fault.message
  functions := Program.entryPoints
  runTop := runTopOf
  callFunction := callFunctionOf

end Script

/-- Call an entry point, on a thread at rest. -/
def Script.runEntry {σ : Type} (access : Access) (entry : EntryPoint) (args : List Arg)
    (i : ScriptInstance) (s : Scene σ) : Outcome ScriptError Value × ScriptInstance × Scene σ :=
  let (o, i, after) := Script.interpreter.runEntry access entry args i (s.withEngine { outside := 0 })
  (o, i, after.withEngine s.engine)

/-- The engine for scripts under limits, with an example for each kind of transformer. -/
def scriptEngine (limits : Limits) (example? : Kind → Option String) :
    Engine Unit ScriptUnit ScriptInstance :=
  (Script.interpreter.engine limits example?).resting { outside := 0 }

end RowScript
