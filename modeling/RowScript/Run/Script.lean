import RowScript.Run.Process
import RowScript.Script.Examples
import RowScript.Script.Program

/-!
# Running jobs on the script engine

The transformer of a job, and a run of it from its beginning.
-/

namespace RowScript.PlacedJob

/-- The transformer of a job, with `defaults` for limits that the job does not set. -/
def transformer (p : PlacedJob) (defaults : Option Limits) :
    Transformer Unit ScriptUnit ScriptInstance where
  engine := scriptEngine (p.limits defaults) (some ∘ exampleScript)
  config := p.job.transformer

/-- Run a job. -/
def run {φ : Type} (store : Store φ) (files : φ) (p : PlacedJob) (defaults : Option Limits)
    (options : RunOptions) : Outcome RunFault Unit × Running φ Unit ScriptInstance :=
  Run.complete store (p.transformer defaults) p options (.new { engine := () } files)

end RowScript.PlacedJob
