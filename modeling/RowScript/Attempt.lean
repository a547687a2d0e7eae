/-!
# Attempts

An attempt changes a state and ends with a value, with an error, or by being aborted from below. The
state is kept in each case: what an attempt did before it failed is not undone.
-/

namespace RowScript

/-- How an attempt ends. -/
inductive Outcome (ε α : Type)
  | ok (a : α)
  | error (e : ε)
  | aborted
  deriving Repr, DecidableEq, Inhabited

namespace Outcome

variable {ε δ α β : Type}

def bind (x : Outcome ε α) (f : α → Outcome ε β) : Outcome ε β :=
  match x with
  | ok a => f a
  | error e => error e
  | aborted => aborted

instance : Monad (Outcome ε) where
  pure := ok
  bind := bind

def map (f : α → β) : Outcome ε α → Outcome ε β
  | ok a => ok (f a)
  | error e => error e
  | aborted => aborted

def mapError (f : ε → δ) : Outcome ε α → Outcome δ α
  | ok a => ok a
  | error e => error (f e)
  | aborted => aborted

def isOk : Outcome ε α → Bool
  | ok _ => true
  | _ => false

@[simp] theorem isOk_map (f : α → β) (o : Outcome ε α) : (o.map f).isOk = o.isOk := by
  cases o <;> rfl

@[simp] theorem isOk_mapError (f : ε → δ) (o : Outcome ε α) : (o.mapError f).isOk = o.isOk := by
  cases o <;> rfl

theorem eq_ok_of_isOk {o : Outcome ε Unit} (h : o.isOk) : o = ok () := by
  cases o with
  | ok _ => rfl
  | error _ => cases h
  | aborted => cases h

theorem ok_or_fails (o : Outcome ε α) : (∃ a, o = ok a) ∨ ¬ o.isOk := by
  cases o <;> simp [isOk]

@[simp] theorem bind_ok (a : α) (f : α → Outcome ε β) : (ok a : Outcome ε α).bind f = f a := rfl

@[simp] theorem bind_error (e : ε) (f : α → Outcome ε β) :
    (error e : Outcome ε α).bind f = error e := rfl

@[simp] theorem bind_aborted (f : α → Outcome ε β) : (aborted : Outcome ε α).bind f = aborted := rfl

end Outcome

/-- A change of a state `s` that may fail with an `ε`. -/
def Attempt (s ε α : Type) : Type := s → Outcome ε α × s

namespace Attempt

variable {s t ε δ α β : Type}

def run (x : Attempt s ε α) (state : s) : Outcome ε α × s := x state

def bind (x : Attempt s ε α) (f : α → Attempt s ε β) : Attempt s ε β := fun state =>
  match x state with
  | (.ok a, state) => f a state
  | (.error e, state) => (.error e, state)
  | (.aborted, state) => (.aborted, state)

instance : Monad (Attempt s ε) where
  pure a := fun state => (.ok a, state)
  bind := bind

/-- End without touching the state. -/
def ofOutcome (o : Outcome ε α) : Attempt s ε α := fun state => (o, state)

def fail (e : ε) : Attempt s ε α := ofOutcome (.error e)

def read : Attempt s ε s := fun state => (.ok state, state)

def update (f : s → s) : Attempt s ε Unit := fun state => (.ok (), f state)

def mapError (f : ε → δ) (x : Attempt s ε α) : Attempt s δ α := fun state =>
  let (o, state) := x state
  (o.mapError f, state)

/-- Run on a part of a larger state. -/
def zoom (get : t → s) (set : s → t → t) (x : Attempt s ε α) : Attempt t ε α := fun whole =>
  let (o, part) := x (get whole)
  (o, set part whole)

/-- The outcome as a value. -/
def outcome (x : Attempt s ε α) : Attempt s δ (Outcome ε α) := fun state =>
  let (o, state) := x state
  (.ok o, state)

/-! ### One step of a chain -/

variable {x : Attempt s ε α} {f : α → Attempt s ε β} {state state' : s}

@[simp] theorem pure_apply (a : α) : (pure a : Attempt s ε α) state = (.ok a, state) := rfl

@[simp] theorem ofOutcome_apply (o : Outcome ε α) :
    (ofOutcome o : Attempt s ε α) state = (o, state) := rfl

@[simp] theorem fail_apply (e : ε) : (fail e : Attempt s ε α) state = (.error e, state) := rfl

@[simp] theorem read_apply : (read : Attempt s ε s) state = (.ok state, state) := rfl

@[simp] theorem update_apply (g : s → s) : (update g : Attempt s ε Unit) state = (.ok (), g state) :=
  rfl

theorem mapError_apply_of (g : ε → δ) {o : Outcome ε α} (h : x state = (o, state')) :
    (x.mapError g) state = (o.mapError g, state') := by
  rw [mapError, h]

theorem zoom_apply_of (get : t → s) (set : s → t → t) {whole : t} {o : Outcome ε α} {part : s}
    (h : x (get whole) = (o, part)) : (x.zoom get set) whole = (o, set part whole) := by
  rw [zoom, h]

theorem outcome_apply_of {o : Outcome ε α} (h : x state = (o, state')) :
    (x.outcome : Attempt s δ _) state = (.ok o, state') := by
  rw [outcome, h]

theorem bind_apply_of_ok {a : α} (h : x state = (.ok a, state')) :
    (x >>= f) state = f a state' := by
  show Attempt.bind x f state = _
  rw [Attempt.bind, h]

theorem bind_apply_of_error {e : ε} (h : x state = (.error e, state')) :
    (x >>= f) state = (.error e, state') := by
  show Attempt.bind x f state = _
  rw [Attempt.bind, h]

theorem bind_apply_of_aborted (h : x state = (.aborted, state')) :
    (x >>= f) state = (.aborted, state') := by
  show Attempt.bind x f state = _
  rw [Attempt.bind, h]

theorem bind_eq_ok {b : β} {last : s} : (x >>= f) state = (.ok b, last) ↔
    ∃ a between, x state = (.ok a, between) ∧ f a between = (.ok b, last) := by
  rcases h : x state with ⟨o, between⟩
  cases o with
  | ok a =>
    rw [bind_apply_of_ok h]
    refine ⟨fun hf => ⟨a, between, rfl, hf⟩, ?_⟩
    rintro ⟨_, _, heq, hf⟩
    cases heq
    exact hf
  | error e =>
    rw [bind_apply_of_error h]
    simp
  | aborted =>
    rw [bind_apply_of_aborted h]
    simp

theorem mapError_eq_ok {g : ε → δ} {a : α} :
    (x.mapError g) state = (.ok a, state') ↔ x state = (.ok a, state') := by
  rcases h : x state with ⟨o, between⟩
  rw [mapError_apply_of g h]
  cases o <;> simp [Outcome.mapError]

theorem zoom_eq_ok {get : t → s} {set : s → t → t} {whole whole' : t} {a : α} :
    (x.zoom get set) whole = (.ok a, whole') ↔
      ∃ part, x (get whole) = (.ok a, part) ∧ set part whole = whole' := by
  rcases h : x (get whole) with ⟨o, part⟩
  rw [zoom_apply_of get set h]
  constructor
  · intro heq
    cases heq
    exact ⟨part, rfl, rfl⟩
  · rintro ⟨_, heq, rfl⟩
    cases heq
    rfl

/-- What holds behind a step, and is kept by what follows, holds behind both. -/
theorem bind_keeps {P : s → Prop} (hx : P (x state).2) (hf : ∀ a state, P state → P (f a state).2) :
    P ((x >>= f) state).2 := by
  rcases h : x state with ⟨o, between⟩
  rw [h] at hx
  cases o with
  | ok a =>
    rw [bind_apply_of_ok h]
    exact hf a between hx
  | error e =>
    rw [bind_apply_of_error h]
    exact hx
  | aborted =>
    rw [bind_apply_of_aborted h]
    exact hx

theorem bind_pure_apply (g : α → β) :
    (x >>= fun a => pure (g a)) state = ((x state).1.map g, (x state).2) := by
  rcases h : x state with ⟨o, state'⟩
  cases o with
  | ok a => exact bind_apply_of_ok h
  | error e => exact bind_apply_of_error h
  | aborted => exact bind_apply_of_aborted h

end Attempt

end RowScript
