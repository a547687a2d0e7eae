import RowScript.Gate

/-!
# Locks

A value behind a lock, which one caller can hold at a time. A holder that is aborted leaves the lock
poisoned; who gets at the value later is told so and can go on with it all the same.

`LockedGate` is a gate with the lock that its policy asks for: calls of an exclusive gate hold a lock,
those of a reentrant one do not. Two ways lead past the lock, which only its single owner has: a call
alone, and taking the instance out.
-/

namespace RowScript

/-- A value that one caller at a time can hold. -/
structure Lock (α : Type) where
  content : α
  held : Bool := false
  /-- A holder was aborted. -/
  poisoned : Bool := false
  deriving Inhabited

/-- A value behind a lock, as one who gets at it finds it. -/
inductive Found (α : Type)
  | sound (a : α)
  | poisoned (a : α)
  deriving Inhabited

/-- The value, whether or not a holder was aborted. -/
def Found.recover {α : Type} : Found α → α
  | sound a | poisoned a => a

namespace Lock

variable {α : Type}

/-- What the owner of a lock finds behind it without holding it. -/
def found (l : Lock α) : Found α := if l.poisoned then .poisoned l.content else .sound l.content

/-- Hold the lock. One who asks for a lock that is held waits, here without end. -/
def acquire (l : Lock α) : Option (Found α × Lock α) :=
  if l.held then none else some (l.found, { l with held := true })

/-- The end of a hold, with the value that the holder leaves. -/
def release (l : Lock α) (content : α) (aborted : Bool) : Lock α :=
  { content, held := false, poisoned := l.poisoned || aborted }

@[simp] theorem recover_found (l : Lock α) : l.found.recover = l.content := by
  unfold found
  split <;> rfl

/-- A lock that nobody holds is granted, poisoned or not. -/
theorem acquire_of_free {l : Lock α} (free : l.held = false) :
    l.acquire = some (l.found, { l with held := true }) := by
  rw [acquire, free]
  rfl

end Lock

namespace Outcome

def isAborted {ε α : Type} : Outcome ε α → Bool
  | aborted => true
  | ok _ | error _ => false

end Outcome

/-- An instance behind its execution policy, with the lock of an exclusive one. -/
inductive LockedGate (ι : Type)
  | reentrant (inst : Live ι)
  | exclusive (lock : Lock (Live ι))
  deriving Inhabited

namespace LockedGate

variable {σ υ ι : Type}

def new (inst : Live ι) : ExecutionPolicy → LockedGate ι
  | .reentrant => reentrant inst
  | .exclusive => exclusive { content := inst }

def policy : LockedGate ι → ExecutionPolicy
  | reentrant _ => .reentrant
  | exclusive _ => .exclusive

/-- Call an entry point as the policy says, unless the call has to wait without end. However the call
ends, its hold ends with it. -/
def call (E : Engine σ υ ι) (g : LockedGate ι) (entry : EntryPoint) (args : List Arg) (w : World σ) :
    Option (Outcome ScriptError Value × LockedGate ι × World σ) :=
  match g with
  | reentrant inst =>
    let (o, inst, w) := E.call .shared entry args inst w
    some (o, reentrant inst, w)
  | exclusive lock =>
    match lock.acquire with
    | none => none
    | some (found, lock) =>
      let (o, inst, w) := E.call .exclusive entry args found.recover w
      some (o, exclusive (lock.release inst o.isAborted), w)

/-- Call an entry point as the owner of the gate, without its lock. -/
def callAlone (E : Engine σ υ ι) (g : LockedGate ι) (entry : EntryPoint) (args : List Arg)
    (w : World σ) : Outcome ScriptError Value × LockedGate ι × World σ :=
  match g with
  | reentrant inst =>
    let (o, inst, w) := E.call .exclusive entry args inst w
    (o, reentrant inst, w)
  | exclusive lock =>
    let (o, inst, w) := E.call .exclusive entry args lock.found.recover w
    (o, exclusive { lock with content := inst }, w)

/-- Give up the gate for the instance behind it. -/
def intoInner : LockedGate ι → Live ι
  | reentrant inst => inst
  | exclusive lock => lock.found.recover

end LockedGate

end RowScript
