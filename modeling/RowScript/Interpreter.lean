import RowScript.Config
import RowScript.Engine.Basic
import RowScript.Script.Datum

/-!
# Engines made from an interpreter

The interpreter of a script language is a library of its own. An `Interpreter` is what an engine uses of
it, whatever the language is, and `Interpreter.engine` is all that lies between it and a host:

* An instance keeps a handle to its receiver, which is a shared value. A caller beside others works on a
  copy of the handle and drops it behind the call; a caller that is alone works on the handle of the
  instance (`LiveScript.behind`).
* The statements outside the functions run when an instance is made, and not again when its functions
  are called (`Interpreter.callWith`).
* Under a limit of time, the deadline of a run stands in the thread as long as the run lasts
  (`Interpreter.arm`), and then what stood there before stands there again (`Scene.disarm`). The
  interpreter asks its `Watch` at each count of operations whether to stop.

Shared values belong to an instance: a function reaches those that it finds in its receiver, and whatever
else an interpreter keeps, between calls or for all its scripts, is part of the state of the engine.
-/

namespace RowScript

open Script (Datum)

/-! ### Interpreters -/

/-- Why a run stopped without a value. -/
structure Halt where
  /-- It was stopped by its watch. -/
  terminated : Bool
  message : String
  deriving Repr, DecidableEq, Inhabited

/-- A halt as the error of a call, whose limit of time is known. -/
def Halt.toError (halt : Halt) (limit : Option Duration) (entry : String)
    (other : String → ScriptError) : ScriptError :=
  match halt.terminated, limit with
  | true, some limit => .timeout entry limit
  | _, _ => other halt.message

/-- Who can stop a run from without. -/
structure Watch where
  /-- When to stop it, in milliseconds of the clock. -/
  deadline : Option Nat
  deriving Repr, DecidableEq, Inhabited

/-- Operations between two looks at the clock. -/
def Watch.interval : Nat := 256

/-- Whether a run is stopped after that many operations. -/
def Watch.stops (w : Watch) (operations now : Nat) : Bool :=
  operations % interval == 0 && w.deadline.any (· ≤ now)

/-- What a run finds and changes: a scene, and the values that are shared through cells. -/
structure Heap (σ : Type) extends Scene σ where
  cells : Array Datum

/-- How to call a function of a script, in a scope of its own. -/
structure CallOptions where
  /-- Run the statements outside the functions before. -/
  evalTop : Bool := true
  deriving Repr, DecidableEq, Inhabited

/-- An interpreter. Its scripts are an `α`, and `σ` is what it knows and keeps besides them: the time,
and all that outlasts a run. -/
structure Interpreter (σ α : Type) where
  clock : σ → Nat
  /-- Read a source text. -/
  compile : Limits → String → Attempt σ String α
  functions : α → List EntryPoint
  /-- Run the statements outside the functions. -/
  runTop : Limits → Option Watch → α → Attempt (Heap σ) Halt Unit
  /-- Run the function of a name and a count of arguments on a receiver, which stays as the run left it,
  also when the run failed. -/
  callFunction : Limits → Option Watch → α → String → List Datum → Attempt (Heap σ × Datum) Halt Datum

/-- Call a function, as the options say. -/
def Interpreter.callWith {σ α : Type} (I : Interpreter σ α) (options : CallOptions) (limits : Limits)
    (watch : Option Watch) (script : α) (name : String) (args : List Datum) :
    Attempt (Heap σ × Datum) Halt Datum := do
  if options.evalTop then (I.runTop limits watch script).zoom Prod.fst fun h p => (h, p.2)
  I.callFunction limits watch script name args

/-! ### Threads -/

/-- What the runs on a thread find there. -/
structure Thread (σ : Type) where
  /-- The deadline of the run that is going on. -/
  deadline : Option Nat := none
  outside : σ

/-- The watch of a run under a limit of time; without a limit nobody watches. -/
def Thread.watch {σ : Type} (limit : Option Duration) (t : Thread σ) : Option Watch :=
  limit.map fun _ => ⟨t.deadline⟩

/-- What a run on the thread of a scene finds. -/
def Scene.heap {σ : Type} (s : Scene (Thread σ)) (cells : Array Datum) : Heap σ :=
  { engine := s.engine.outside, collectors := s.collectors, log := s.log, cells }

/-- The scene that a run left. -/
def Heap.scene {σ : Type} (h : Heap σ) (t : Thread σ) : Scene (Thread σ) :=
  { engine := { t with outside := h.engine }, collectors := h.collectors, log := h.log }

/-- Put back the deadline from before a run. -/
def Scene.disarm {σ : Type} (before : Thread σ) (s : Scene (Thread σ)) : Scene (Thread σ) :=
  { s with engine := { s.engine with deadline := before.deadline } }

/-- Set the deadline of a run that begins. -/
def Interpreter.arm {σ α : Type} (I : Interpreter σ α) (limit : Option Duration)
    (s : Scene (Thread σ)) : Scene (Thread σ) :=
  match limit with
  | some limit =>
    { s with engine := { s.engine with
      deadline := some (I.clock s.engine.outside + limit.millis) } }
  | none => s

/-! ### Scripts -/

/-- A script that was read, and the limits under which it runs. -/
structure CompiledScript (α : Type) where
  script : α
  limits : Limits
  deriving Inhabited

/-- A live script. -/
structure LiveScript (α : Type) where
  compiled : CompiledScript α
  /-- What entry points are called on: the cell that holds it. -/
  receiver : Datum := .cell 0
  cells : Array Datum := #[.map []]
  deriving Inhabited

namespace LiveScript

variable {α : Type}

/-- The value that entry points are called on. -/
def content (i : LiveScript α) : Datum := i.receiver.loadFrom i.cells

/-- The receiver as a value. -/
def state (i : LiveScript α) : Value := i.content.toValue

/-- The instance behind a call that left `handle` as its receiver. A caller beside others had a copy
of the instance's own handle, so it is only the cells that can have changed. -/
def behind (i : LiveScript α) (access : Access) (handle : Datum) (cells : Array Datum) :
    LiveScript α :=
  match access with
  | .shared => { i with cells }
  | .exclusive => { i with cells, receiver := handle }

end LiveScript

/-- An argument of an entry point. -/
def Script.argDatum : Arg → Datum
  | .values m => .record m
  | .collector h => .collector h

/-! ### Engines -/

namespace Interpreter

variable {σ α : Type} (I : Interpreter σ α)

/-- The run of the statements outside the functions: how it ends, and what it leaves of the heap. -/
def visitTop (u : CompiledScript α) (s : Scene (Thread σ)) : Outcome Halt Unit × Heap σ :=
  let armed := I.arm u.limits.timeout s
  I.runTop u.limits (armed.engine.watch u.limits.timeout) u.script (armed.heap #[])

/-- Run the statements outside the functions, and make an instance whose receiver is the empty map. -/
def makeInstance (u : CompiledScript α) :
    Attempt (Scene (Thread σ)) ScriptError (LiveScript α) := fun s =>
  let limit := u.limits.timeout
  let (o, h) := I.visitTop u s
  ((o.mapError fun halt => halt.toError limit "<top level>" .instantiation).map fun _ =>
      { compiled := u, receiver := .cell h.cells.size, cells := h.cells.push (.map []) },
    (h.scene (I.arm limit s).engine).disarm s.engine)

/-- The run of an entry point of an instance: how it ends, and what it leaves of the heap and of the
handle of the receiver. -/
def visit (entry : EntryPoint) (args : List Arg) (i : LiveScript α) (s : Scene (Thread σ)) :
    Outcome Halt Datum × Heap σ × Datum :=
  let limits := i.compiled.limits
  let armed := I.arm limits.timeout s
  I.callWith { evalTop := false } limits (armed.engine.watch limits.timeout) i.compiled.script
    entry.name (args.map Script.argDatum) (armed.heap i.cells, i.receiver)

/-- Call an entry point. -/
def runEntry (access : Access) (entry : EntryPoint) (args : List Arg) (i : LiveScript α)
    (s : Scene (Thread σ)) : Outcome ScriptError Value × LiveScript α × Scene (Thread σ) :=
  let limit := i.compiled.limits.timeout
  let (o, h, handle) := I.visit entry args i s
  ((o.map Datum.toValue).mapError fun halt => halt.toError limit entry.name (.invocation entry.name),
    i.behind access handle h.cells, (h.scene (I.arm limit s).engine).disarm s.engine)

/-- The engine for scripts under limits, with an example for each kind of transformer. -/
def engine (limits : Limits) (example? : Kind → Option String) :
    Engine (Thread σ) (CompiledScript α) (LiveScript α) where
  example? := example?
  compileUnit source := fun s =>
    let (o, outside) := I.compile limits source s.engine.outside
    ((o.mapError .compilation).map (⟨·, limits⟩), { s with engine := { s.engine with outside } })
  defines u entry := .ok ((I.functions u.script).contains entry)
  makeInstance := I.makeInstance
  runEntry := I.runEntry

variable {I}

/-! ### Instances -/

/-- The receiver of a new instance is a cell of its own, behind those that the statements outside the
functions have left. -/
theorem of_makeInstance {u : CompiledScript α} {s s' : Scene (Thread σ)} {i : LiveScript α}
    (made : I.makeInstance u s = (.ok i, s')) : ∃ cells : Array Datum,
      i = { compiled := u, receiver := .cell cells.size, cells := cells.push (.map []) } := by
  have ended : (I.makeInstance u s).1 = .ok i := congrArg Prod.fst made
  rcases ran : I.visitTop u s with ⟨o, h⟩
  simp only [makeInstance, ran] at ended
  cases o <;> cases ended
  exact ⟨h.cells, rfl⟩

theorem content_of_makeInstance {u : CompiledScript α} {s s' : Scene (Thread σ)} {i : LiveScript α}
    (made : I.makeInstance u s = (.ok i, s')) : i.content = .map [] := by
  obtain ⟨cells, rfl⟩ := of_makeInstance made
  simp [LiveScript.content, Datum.loadFrom]

theorem compiled_runEntry (access : Access) (entry : EntryPoint) (args : List Arg)
    (i : LiveScript α) (s : Scene (Thread σ)) :
    (I.runEntry access entry args i s).2.1.compiled = i.compiled := by
  cases access <;> rfl

/-! ### Deadlines -/

/-- The watch of a run under a limit of time that begins in a state. -/
def watchFrom (I : Interpreter σ α) (limit : Option Duration) (outside : σ) : Option Watch :=
  limit.map fun limit => ⟨some (I.clock outside + limit.millis)⟩

theorem watch_arm (limit : Option Duration) (s : Scene (Thread σ)) :
    (I.arm limit s).engine.watch limit = I.watchFrom limit s.engine.outside := by
  cases limit <;> rfl

theorem heap_arm (limit : Option Duration) (s : Scene (Thread σ)) (cells : Array Datum) :
    (I.arm limit s).heap cells = s.heap cells := by
  cases limit <;> rfl

/-- Run the statements outside the functions, with a deadline from now on. -/
def topFrom (I : Interpreter σ α) (limits : Limits) (script : α) : Attempt (Heap σ) Halt Unit :=
  fun h => I.runTop limits (I.watchFrom limits.timeout h.engine) script h

/-- Run a function, with a deadline from now on. -/
def callFrom (I : Interpreter σ α) (limits : Limits) (script : α) (name : String)
    (args : List Datum) : Attempt (Heap σ × Datum) Halt Datum :=
  fun x => I.callFunction limits (I.watchFrom limits.timeout x.1.engine) script name args x

/-- What stood in the thread as a deadline before a run is not found by it. -/
theorem visitTop_eq (u : CompiledScript α) (s : Scene (Thread σ)) :
    I.visitTop u s = I.topFrom u.limits u.script (s.heap #[]) := by
  simp only [visitTop, topFrom, watch_arm, heap_arm]
  rfl

/-- A call runs its function, and nothing else. -/
theorem visit_eq (entry : EntryPoint) (args : List Arg) (i : LiveScript α) (s : Scene (Thread σ)) :
    I.visit entry args i s =
      I.callFrom i.compiled.limits i.compiled.script entry.name (args.map Script.argDatum)
        (s.heap i.cells, i.receiver) := by
  have only (limits watch) : I.callWith { evalTop := false } limits watch = I.callFunction limits watch :=
    rfl
  simp only [visit, callFrom, watch_arm, heap_arm, only]
  rfl

/-- Behind a run only its outside has changed in the thread. -/
theorem disarm_scene (limit : Option Duration) (s : Scene (Thread σ)) (h : Heap σ) :
    (h.scene (I.arm limit s).engine).disarm s.engine = h.scene s.engine := by
  cases limit <;> rfl

end Interpreter

/-! ### Engines on a thread at rest -/

/-- The scene with another state of the engine. -/
def Scene.withEngine {σ τ : Type} (s : Scene σ) (engine : τ) : Scene τ :=
  { engine, collectors := s.collectors, log := s.log }

/-- The engine whose own state is the same whenever a step begins. -/
def Engine.resting {σ υ ι : Type} (E : Engine σ υ ι) (rest : σ) : Engine Unit υ ι where
  example? := E.example?
  compileUnit source := fun s =>
    let (o, after) := E.compileUnit source (s.withEngine rest)
    (o, after.withEngine ())
  defines := E.defines
  makeInstance u := fun s =>
    let (o, after) := E.makeInstance u (s.withEngine rest)
    (o, after.withEngine ())
  runEntry access entry args i s :=
    let (o, i, after) := E.runEntry access entry args i (s.withEngine rest)
    (o, i, after.withEngine ())

theorem Engine.of_resting_made {σ υ ι : Type} {E : Engine σ υ ι} {rest : σ} {unit : υ} {inst : ι}
    {s s' : Scene Unit} (made : (E.resting rest).makeInstance unit s = (.ok inst, s')) :
    ∃ after, E.makeInstance unit (s.withEngine rest) = (.ok inst, after) := by
  have ended : (E.makeInstance unit (s.withEngine rest)).1 = .ok inst := congrArg Prod.fst made
  exact ⟨_, Prod.ext ended rfl⟩

end RowScript
