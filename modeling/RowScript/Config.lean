import RowScript.Policy

/-!
# Configuration

What is configured of a transformer, and the limits under which scripts run.

* `Variant` holds what only one kind of transformer has.
* `TransformerConfig.check` says what keeps a configuration from being loaded.
-/

namespace RowScript

/-- What only advanced transformers have. -/
structure AdvancedConfig where
  /-- Callers may enter the script at once. -/
  concurrent : Bool := true
  /-- The declared count of output fields. -/
  outputFields : UInt64 := 2
  /-- What becomes of emitted rows of another width. -/
  shape : ShapePolicy := .unchecked
  /-- The returned value is emitted too. -/
  emitReturned : Bool := false
  deriving Repr, DecidableEq, Inhabited

/-- The settings that depend on the kind of transformer. -/
inductive Variant
  | simple
  | standard (concurrent : Bool)
  | advanced (config : AdvancedConfig)
  deriving Repr, DecidableEq, Inhabited

/-- The configuration of a transformer. -/
structure TransformerConfig where
  inputs : List InputColumn
  /-- The source of the script; the engine's example if there is none. -/
  code : Option String := none
  variant : Variant
  deriving Repr, DecidableEq, Inhabited

namespace Variant

def kind : Variant → Kind
  | simple => .simple
  | standard _ => .standard
  | advanced _ => .advanced

/-- The configured policy; a simple transformer has none to configure. -/
def policy? : Variant → Option ExecutionPolicy
  | simple => none
  | standard concurrent => some (.ofConcurrent concurrent)
  | advanced config => some (.ofConcurrent config.concurrent)

theorem single_or_advanced (v : Variant) :
    (∀ config, v ≠ advanced config) ∨ ∃ config, v = advanced config := by
  cases v <;> simp

end Variant

namespace TransformerConfig

def kind (c : TransformerConfig) : Kind := c.variant.kind

/-- What is wrong with the input columns, if anything. -/
def inputFault? (inputs : List InputColumn) : Option ConfigFault :=
  if inputs.isEmpty then some .noInputs
  else (inputs.find? (·.name.isEmpty)).map fun c => .unnamedInput c.type

/-- The source to load, given the engine's examples. -/
def source (c : TransformerConfig) (example? : Kind → Option String) : Except ConfigFault String :=
  match inputFault? c.inputs with
  | some fault => .error fault
  | none =>
    match c.code with
    | some code => .ok code
    | none =>
      match example? c.kind with
      | some code => .ok code
      | none => .error (.noCode c.kind)

end TransformerConfig

/-- Limits of one script. -/
structure Limits where
  /-- Operations per call; unlimited if absent or zero. -/
  maxOperations : Option UInt64 := none
  /-- Calls below an entry point. -/
  maxCallLevels : UInt64 := 64
  /-- The longest string in bytes; unlimited if absent or zero. -/
  maxStringSize : Option UInt64 := none
  /-- Time per call in milliseconds. -/
  timeoutMs : Option UInt64 := none
  deriving Repr, DecidableEq, Inhabited

def Limits.timeout (l : Limits) : Option Duration := l.timeoutMs.map fun ms => ⟨ms.toNat⟩

end RowScript
