import RowScript.Attempt

/-!
# Simulation of attempts

Two attempts on two kinds of states simulate each other if from related states they end alike and leave
related states (`Attempt.Sim`). `Attempt.Sim.bind` puts the steps of two programs together, so a
relation of the states that each step keeps is kept by the whole.
-/

namespace RowScript

/-- Two attempts end alike, with values that stand in a relation if there are any. -/
inductive Outcome.Sim {ε α β : Type} (V : α → β → Prop) : Outcome ε α → Outcome ε β → Prop
  | ok {a b} (h : V a b) : Sim V (.ok a) (.ok b)
  | error (e : ε) : Sim V (.error e) (.error e)
  | aborted : Sim V .aborted .aborted

namespace Outcome.Sim

variable {ε α : Type}

theorem of_eq {o o' : Outcome ε α} (h : o = o') : Sim Eq o o' := by
  subst h
  cases o with
  | ok a => exact .ok rfl
  | error e => exact .error e
  | aborted => exact .aborted

theorem eq {o o' : Outcome ε α} (h : Sim Eq o o') : o = o' := by
  cases h with
  | ok h => rw [h]
  | error e => rfl
  | aborted => rfl

theorem mapError {ε' β : Type} {V : α → β → Prop} {o : Outcome ε α} {o' : Outcome ε β}
    (h : Sim V o o') (f : ε → ε') : Sim V (o.mapError f) (o'.mapError f) := by
  cases h with
  | ok h => exact .ok h
  | error e => exact .error (f e)
  | aborted => exact .aborted

end Outcome.Sim

/-- From related states two attempts end alike and leave related states. -/
def Attempt.Sim {s t ε α β : Type} (R : s → t → Prop) (V : α → β → Prop) (x : Attempt s ε α)
    (y : Attempt t ε β) : Prop :=
  ∀ a b, R a b → Outcome.Sim V (x a).1 (y b).1 ∧ R (x a).2 (y b).2

namespace Attempt.Sim

variable {s t ε α β γ δ : Type} {R : s → t → Prop} {V : α → β → Prop} {W : γ → δ → Prop}

theorem refl (x : Attempt s ε α) : Sim Eq Eq x x := by
  rintro a _ rfl
  exact ⟨.of_eq rfl, rfl⟩

theorem pure {a : α} {b : β} (h : V a b) :
    Sim R V (Pure.pure a : Attempt s ε α) (Pure.pure b : Attempt t ε β) :=
  fun _ _ hr => ⟨.ok h, hr⟩

theorem ofOutcome {o : Outcome ε α} {o' : Outcome ε β} (h : Outcome.Sim V o o') :
    Sim R V (Attempt.ofOutcome o) (Attempt.ofOutcome o') :=
  fun _ _ hr => ⟨h, hr⟩

theorem read : Sim R R (Attempt.read : Attempt s ε s) (Attempt.read : Attempt t ε t) :=
  fun _ _ hr => ⟨.ok hr, hr⟩

theorem update {f : s → s} {g : t → t} (h : ∀ a b, R a b → R (f a) (g b)) :
    Sim R Eq (Attempt.update f : Attempt s ε Unit) (Attempt.update g) :=
  fun a b hr => ⟨.ok rfl, h a b hr⟩

/-- The rule for two steps one after the other, at two states. -/
theorem bind_at {x : Attempt s ε α} {y : Attempt t ε β} {f : α → Attempt s ε γ}
    {g : β → Attempt t ε δ} {a : s} {b : t}
    (hx : Outcome.Sim V (x a).1 (y b).1 ∧ R (x a).2 (y b).2)
    (hf : ∀ a b, V a b → Sim R W (f a) (g b)) :
    Outcome.Sim W ((x >>= f) a).1 ((y >>= g) b).1 ∧ R ((x >>= f) a).2 ((y >>= g) b).2 := by
  obtain ⟨ho, hnext⟩ := hx
  rcases hxa : x a with ⟨o, a'⟩
  rcases hyb : y b with ⟨o', b'⟩
  rw [hxa, hyb] at ho hnext
  cases ho with
  | ok h =>
    rw [bind_apply_of_ok hxa, bind_apply_of_ok hyb]
    exact hf _ _ h _ _ hnext
  | error e =>
    rw [bind_apply_of_error hxa, bind_apply_of_error hyb]
    exact ⟨.error e, hnext⟩
  | aborted =>
    rw [bind_apply_of_aborted hxa, bind_apply_of_aborted hyb]
    exact ⟨.aborted, hnext⟩

theorem bind {x : Attempt s ε α} {y : Attempt t ε β} {f : α → Attempt s ε γ}
    {g : β → Attempt t ε δ} (hx : Sim R V x y) (hf : ∀ a b, V a b → Sim R W (f a) (g b)) :
    Sim R W (x >>= f) (y >>= g) :=
  fun a b hr => bind_at (hx a b hr) hf

theorem mapError {ε' : Type} {x : Attempt s ε α} {y : Attempt t ε β} (h : Sim R V x y)
    (f : ε → ε') : Sim R V (x.mapError f) (y.mapError f) := by
  intro a b hr
  obtain ⟨ho, hnext⟩ := h a b hr
  exact ⟨ho.mapError f, hnext⟩

theorem outcome {ε' : Type} {x : Attempt s ε α} {y : Attempt t ε α} (h : Sim R Eq x y) :
    Sim R Eq (x.outcome : Attempt s ε' (Outcome ε α)) y.outcome := by
  intro a b hr
  obtain ⟨ho, hnext⟩ := h a b hr
  exact ⟨.ok ho.eq, hnext⟩

end Attempt.Sim

end RowScript
