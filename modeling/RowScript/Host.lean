import RowScript.Gate

/-!
# Hosts

A host owns one script through its life: it is unloaded, then ready, then closed, and a closed host
can be loaded again.

* `load` compiles and instantiates a source and runs the opening hook. If any of it fails, the host
  stays in the state it was in.
* `transform` calls the script for one record and never changes the state.
* `close` runs the closing hook and ends in the closed state even when the hook fails.
-/

namespace RowScript

/-- The entry points of a unit, looked up once when it is loaded. -/
structure EntryPoints where
  opening : Option EntryPoint
  transform : EntryPoint
  closing : Option EntryPoint
  deriving Repr, DecidableEq, Inhabited

/-- Look up the entry points of a unit, of which `transform` is required. -/
def EntryPoints.resolve (defines : EntryPoint → Outcome ScriptError Bool) (transform : EntryPoint) :
    Outcome ScriptError EntryPoints := do
  let optional (entry : EntryPoint) : Outcome ScriptError (Option EntryPoint) := do
    return if ← defines entry then some entry else none
  if ← defines transform then
    return ⟨← optional .opening, transform, ← optional .closing⟩
  else .error (.missingEntry transform)

/-- The states of a host. -/
inductive Lifecycle (ι : Type)
  | unloaded
  | ready (entries : EntryPoints) (gate : Gate ι)
  | closed
  deriving Inhabited

namespace Lifecycle

variable {ι : Type}

def isReady : Lifecycle ι → Bool
  | ready _ _ => true
  | _ => false

def isClosed : Lifecycle ι → Bool
  | closed => true
  | _ => false

theorem exists_of_isReady {life : Lifecycle ι} (h : life.isReady) :
    ∃ entries gate, life = .ready entries gate := by
  cases life with
  | ready entries gate => exact ⟨entries, gate, rfl⟩
  | unloaded => cases h
  | closed => cases h

end Lifecycle

/-- How a script is hosted. -/
structure Host (σ υ ι : Type) where
  engine : Engine σ υ ι
  /-- The entry point called per record. -/
  entry : EntryPoint
  policy : ExecutionPolicy
  /-- Whether the opening and closing hooks are called. -/
  hooks : Bool := true

/-- What a host changes: the state of its script, and the world. -/
structure Hosted (σ ι : Type) where
  lifecycle : Lifecycle ι
  world : World σ

namespace Host

variable {σ υ ι : Type} (h : Host σ υ ι)

/-- Call a hook, if there is one and hooks are on. -/
def runHook (hook : Option EntryPoint) (gate : Gate ι) (w : World σ) :
    Outcome ScriptError Unit × Gate ι × World σ :=
  match hook with
  | some entry =>
    if h.hooks then
      let (o, gate, w) := gate.callAlone h.engine entry [] w
      (o.bind fun _ => .ok (), gate, w)
    else (.ok (), gate, w)
  | none => (.ok (), gate, w)

/-- Call the opening hook. The gate of a failed hook is dropped. -/
def runOpening (entries : EntryPoints) (gate : Gate ι) : Attempt (World σ) ScriptError (Gate ι) :=
  fun w =>
    let (o, gate, w) := h.runHook entries.opening gate w
    (o.bind fun _ => .ok gate, w)

/-- Bring a source to life: compile it, look up its entry points, make an instance, and run the
opening hook. -/
def start (source : String) : Attempt (World σ) ScriptError (EntryPoints × Gate ι) := do
  let compiled ← h.engine.compile source
  let entries ← .ofOutcome (EntryPoints.resolve (h.engine.defines compiled) h.entry)
  let inst ← h.engine.instantiate compiled
  let gate ← h.runOpening entries ⟨h.policy, inst⟩
  return (entries, gate)

/-- Load a source, unless the host is ready. -/
def load (source : String) : Attempt (Hosted σ ι) HostError Unit := fun s =>
  if s.lifecycle.isReady then (.error .alreadyInitialized, s)
  else
    match h.start source s.world with
    | (.ok (entries, gate), w) => (.ok (), ⟨.ready entries gate, w⟩)
    | (.error e, w) => (.error (.script e), { s with world := w })
    | (.aborted, w) => (.aborted, { s with world := w })

/-- Call the script for one record. -/
def transform (args : List Arg) : Attempt (Hosted σ ι) HostError Value := fun s =>
  match s.lifecycle with
  | .ready entries gate =>
    let (o, gate, w) := gate.call h.engine entries.transform args s.world
    (o.mapError .script, ⟨.ready entries gate, w⟩)
  | .unloaded => (.error .notInitialized, s)
  | .closed => (.error .closed, s)

/-- Run the closing hook and release the script. Closing twice does nothing. -/
def close : Attempt (Hosted σ ι) HostError Unit := fun s =>
  match s.lifecycle with
  | .ready entries gate =>
    let (o, _, w) := h.runHook entries.closing gate s.world
    (o.mapError .script, ⟨.closed, w⟩)
  | .unloaded => (.error .notInitialized, s)
  | .closed => (.ok (), s)

end Host

end RowScript
