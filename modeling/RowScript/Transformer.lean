import RowScript.Config
import RowScript.Host
import RowScript.Sink

/-!
# Transformers

A transformer runs a script once per record. Simple and standard ones give one field per record;
advanced ones send any number of rows to a sink, and send them only after the call succeeded and all
rows passed the shape policy.
-/

namespace RowScript

/-- A configured script on an engine. -/
structure Transformer (σ υ ι : Type) where
  engine : Engine σ υ ι
  config : TransformerConfig

/-- What a transformer changes: its host's state, the world, and its sink. -/
structure Pipeline (σ ι τ : Type) extends Hosted σ ι where
  sink : τ

namespace Pipeline

variable {σ ι τ : Type}

/-- Nothing loaded yet. -/
def new (world : World σ) (sink : τ) : Pipeline σ ι τ := ⟨⟨.unloaded, world⟩, sink⟩

/-- Run a step of the host. -/
def onHost {ε α : Type} (x : Attempt (Hosted σ ι) ε α) : Attempt (Pipeline σ ι τ) ε α :=
  x.zoom Pipeline.toHosted fun hosted p => { p with toHosted := hosted }

/-- Change the world. -/
def onWorld {ε : Type} (f : World σ → World σ) : Attempt (Pipeline σ ι τ) ε Unit :=
  .update fun p => { p with world := f p.world }

/-- Put rows into the sink, all or none. -/
def send [RowSink τ] :
    Except HostError (List OutputRow) → Attempt (Pipeline σ ι τ) HostError Unit
  | .error e => .fail e
  | .ok rows => .update fun p => { p with sink := RowSink.putRows p.sink rows }

theorem onHost_apply {ε α : Type} (x : Attempt (Hosted σ ι) ε α) (s : Hosted σ ι) (sink : τ) :
    onHost x ⟨s, sink⟩ = ((x s).1, ⟨(x s).2, sink⟩) := rfl

@[simp] theorem onWorld_apply {ε : Type} (f : World σ → World σ) (life : Lifecycle ι) (w : World σ)
    (sink : τ) : (onWorld f : Attempt (Pipeline σ ι τ) ε Unit) ⟨⟨life, w⟩, sink⟩ =
      (.ok (), ⟨⟨life, f w⟩, sink⟩) := rfl

end Pipeline

namespace Transformer

variable {σ υ ι τ : Type} (t : Transformer σ υ ι)

def kind : Kind := t.config.kind

/-- The host a variant asks for: only simple scripts have no hooks, and only advanced ones collect. -/
def host : Host σ υ ι :=
  match t.config.variant with
  | .simple => { engine := t.engine, entry := .transform, policy := .reentrant, hooks := false }
  | .standard concurrent =>
    { engine := t.engine, entry := .transform, policy := .ofConcurrent concurrent }
  | .advanced config =>
    { engine := t.engine, entry := .transformCollecting, policy := .ofConcurrent config.concurrent }

/-- The names of the output columns, which depend on the configuration only. -/
def outputColumns : List String :=
  match t.config.variant with
  | .simple | .standard _ => ["Script output"]
  | .advanced config =>
    (List.range config.outputFields.toNat).map fun i => s!"Script output ({i + 1})"

/-- Check the configuration and load the script. -/
def load : Attempt (Pipeline σ ι τ) HostError Unit :=
  match t.config.source t.engine.example? with
  | .error fault => .fail (.config fault)
  | .ok source => Pipeline.onHost (t.host.load source)

/-- Run the closing hook and release the script. -/
def close : Attempt (Pipeline σ ι τ) HostError Unit := Pipeline.onHost t.host.close

/-- One record through a script that returns one value. -/
def transformSingle (row : Row) : Attempt (Pipeline σ ι τ) HostError OutputRow := do
  let v ← Pipeline.onHost (t.host.transform [.values (toValueMap t.config.inputs row)])
  return [outputField v]

/-- The rows of one record before the shape policy. -/
def collectedRows (config : AdvancedConfig) (emitted : List (List Value)) (returned : Value) :
    List OutputRow :=
  emitted.map (·.map outputField) ++
    if config.emitReturned then outputRows config.outputFields.toNat returned else []

/-- One record through a script that emits rows. -/
def transformCollecting [RowSink τ] (config : AdvancedConfig) (row : Row) :
    Attempt (Pipeline σ ι τ) HostError Unit := do
  let width := config.outputFields.toNat
  let (handle, collectors) := (← .read).world.collectors.fresh
  Pipeline.onWorld fun w => { w with collectors }
  let returned ← Pipeline.onHost
    (t.host.transform [.values (toValueMap t.config.inputs row), .collector handle])
  let (emitted, collectors) := (← .read).world.collectors.take handle
  Pipeline.onWorld fun w => { w with collectors }
  let rows := collectedRows config emitted returned
  Pipeline.onWorld (World.logAll (rows.flatMap (config.shape.warnings width)))
  Pipeline.send (config.shape.applyAll width rows)

/-- One record: the row it gives, or none for a variant that emits to its sink. -/
def transform [RowSink τ] (row : Row) : Attempt (Pipeline σ ι τ) HostError (Option OutputRow) :=
  match t.config.variant with
  | .simple | .standard _ => do return some (← t.transformSingle row)
  | .advanced config => do
    t.transformCollecting config row
    return none

end Transformer

end RowScript
