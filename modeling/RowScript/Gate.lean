import RowScript.Engine.Basic
import RowScript.Policy

/-!
# Gates

A live instance together with the policy under which callers enter it. Under either policy a call
reaches the instance that the call before left, whatever that call's outcome was.
-/

namespace RowScript

/-- An instance behind its execution policy. -/
structure Gate (ι : Type) where
  policy : ExecutionPolicy
  inst : Live ι
  deriving Inhabited

/-- The access that a policy grants to a caller. -/
def ExecutionPolicy.access : ExecutionPolicy → Access
  | reentrant => .shared
  | exclusive => .exclusive

namespace Gate

variable {σ υ ι : Type}

/-- Call an entry point with the given access. -/
def enter (E : Engine σ υ ι) (g : Gate ι) (access : Access) (entry : EntryPoint) (args : List Arg)
    (w : World σ) : Outcome ScriptError Value × Gate ι × World σ :=
  let (o, inst, w) := E.call access entry args g.inst w
  (o, { g with inst }, w)

/-- Call an entry point as the policy says. -/
def call (E : Engine σ υ ι) (g : Gate ι) (entry : EntryPoint) (args : List Arg) (w : World σ) :
    Outcome ScriptError Value × Gate ι × World σ :=
  g.enter E g.policy.access entry args w

/-- Call an entry point alone, whatever the policy. -/
def callAlone (E : Engine σ υ ι) (g : Gate ι) (entry : EntryPoint) (args : List Arg) (w : World σ) :
    Outcome ScriptError Value × Gate ι × World σ :=
  g.enter E .exclusive entry args w

theorem call_noted {E : Engine σ υ ι} {g g' : Gate ι} {entry : EntryPoint} {args : List Arg}
    {o : Outcome ScriptError Value} {w w' : World σ} (h : g.call E entry args w = (o, g', w')) :
    ∃ inst, g' = { g with inst } ∧ inst.number = g.inst.number ∧
      w'.events = w.events.push (.call g.inst.number entry g.policy.access (args.map w.see)) ∧
      w'.instances = w.instances := by
  rcases hcall : E.call g.policy.access entry args g.inst w with ⟨o', inst, w''⟩
  rw [call, enter, hcall] at h
  cases h
  obtain ⟨hevents, hinstances, hnumber⟩ := Engine.call_noted hcall
  exact ⟨inst, rfl, hnumber, hevents, hinstances⟩

end Gate

end RowScript
