import RowScript.Proofs.Delivery
import RowScript.Settings

/-!
# What records give

`Transformer.given` is what one record gives for the output: the row it returned, or the rows that
it sent to a sink of its own. `Transformer.passed` lets records pass one after the other, up to the
first that ends the run: one that failed if failing records end it, or one that was aborted.

A ready script stays ready, and a record of it that fails leaves nothing in the sink and did not
come at the wrong time (`transform_gives`).
-/

namespace RowScript

/-! ### States without their log -/

def World.silent {σ : Type} (w : World σ) : World σ := { w with log := #[] }

def Hosted.silent {σ ι : Type} (s : Hosted σ ι) : Hosted σ ι := { s with world := s.world.silent }

variable {σ υ ι : Type}

theorem Hosted.lifecycle_of_silent_eq {s s' : Hosted σ ι} (h : s'.silent = s.silent) :
    s'.lifecycle = s.lifecycle := by
  have hlifecycle : s'.silent.lifecycle = s.silent.lifecycle := by rw [h]
  exact hlifecycle

/-! ### One record -/

namespace Transformer

variable (t : Transformer σ υ ι)

/-- What a record gives for the output, and the state behind it. -/
def given (row : Row) (s : Hosted σ ι) : Outcome HostError (List OutputRow) × Hosted σ ι :=
  let (o, p) := t.transform row (⟨s, .empty⟩ : Pipeline σ ι RowBuffer)
  (match t.config.variant with
    | .simple | .standard _ => o.map Option.toList
    | .advanced _ => o.map fun _ => p.sink.rows,
  p.toHosted)

/-- How a record ends in a pipeline whose sink was empty, and what it gave: its rows came back or
are in the sink, or it failed and the sink is still empty. -/
inductive Gives : Outcome HostError (Option OutputRow) × Pipeline σ ι RowBuffer →
    Outcome HostError (List OutputRow) × Hosted σ ι → Prop
  | rows (back : Option OutputRow) (sink : RowBuffer) (after : Hosted σ ι) :
    Gives (.ok back, ⟨after, sink⟩) (.ok (back.toList ++ sink.rows), after)
  | error (e : HostError) (after : Hosted σ ι) (hproper : e.isUsageError = false) :
    Gives (.error e, ⟨after, .empty⟩) (.error e, after)
  | aborted (after : Hosted σ ι) : Gives (.aborted, ⟨after, .empty⟩) (.aborted, after)

theorem given_of_single (hvariant : ∀ config, t.config.variant ≠ .advanced config) (row : Row)
    (s : Hosted σ ι) :
    let result := t.host.transform [.values (toValueMap t.config.inputs row)] s
    t.given row s = (result.1.map fun returned => [[outputField returned]], result.2) := by
  intro result
  have hmap : t.given row s =
      ((t.transform row (⟨s, .empty⟩ : Pipeline σ ι RowBuffer)).1.map Option.toList,
        (t.transform row (⟨s, .empty⟩ : Pipeline σ ι RowBuffer)).2.toHosted) := by
    unfold given
    cases hconfig : t.config.variant with
    | simple => rfl
    | standard concurrent => rfl
    | advanced config => exact absurd hconfig (hvariant config)
  rw [hmap, t.transform_of_single hvariant]
  show (Outcome.map _ (Outcome.map _ result.1), result.2) = _
  cases result.1 <;> rfl

theorem given_of_advanced {config : AdvancedConfig} (hvariant : t.config.variant = .advanced config)
    (row : Row) (s : Hosted σ ι) :
    let result := t.transformCollecting config row (⟨s, .empty⟩ : Pipeline σ ι RowBuffer)
    t.given row s = (result.1.map fun _ => result.2.sink.rows, result.2.toHosted) := by
  intro result
  unfold given
  rw [t.transform_of_advanced hvariant, hvariant]
  show (Outcome.map _ (Outcome.map _ result.1), result.2.toHosted) = _
  cases result.1 <;> rfl

/-- A record of a ready script, which stays ready. -/
theorem transform_gives (row : Row) {s : Hosted σ ι} (hready : s.lifecycle.isReady) :
    Gives (t.transform row ⟨s, .empty⟩) (t.given row s) ∧
      (t.given row s).2.lifecycle.isReady := by
  obtain ⟨⟨⟩ | ⟨entries, gate⟩ | ⟨⟩, w⟩ := s
  · cases hready
  · rcases t.config.variant.single_or_advanced with hsingle | ⟨config, hvariant⟩
    · rw [t.given_of_single hsingle, t.transform_of_single hsingle]
      simp only [Host.transform]
      generalize gate.call t.host.engine entries.transform
        [.values (toValueMap t.config.inputs row)] w = call
      obtain ⟨o, after, w'⟩ := call
      cases o with
      | error e => exact ⟨.error _ _ rfl, rfl⟩
      | aborted => exact ⟨.aborted _, rfl⟩
      | ok returned => exact ⟨.rows (some [outputField returned]) .empty _, rfl⟩
    · rw [t.given_of_advanced hvariant, t.transform_of_advanced hvariant,
        t.transformCollecting_ready]
      generalize t.collectingCall entries gate row w = call
      cases call.outcome with
      | error e => exact ⟨.error _ _ rfl, rfl⟩
      | aborted => exact ⟨.aborted _, rfl⟩
      | ok returned =>
        cases config.refused? call.emitted with
        | some values => exact ⟨.error _ _ rfl, rfl⟩
        | none => exact ⟨.rows none _ _, rfl⟩
  · cases hready

end Transformer

/-! ### Records one after the other -/

namespace Outcome

variable {ε α : Type}

/-- A record with this outcome ends the run. -/
def ends (onError : OnError) : Outcome ε α → Bool
  | ok _ => false
  | error _ => onError == .fail
  | aborted => true

def isError : Outcome ε α → Bool
  | error _ => true
  | ok _ | aborted => false

/-- The rows for the output. A record that failed gives none. -/
def rows : Outcome ε (List OutputRow) → List OutputRow
  | ok rows => rows
  | error _ | aborted => []

end Outcome

namespace Transformer

variable (t : Transformer σ υ ι) (onError : OnError)

/-- What records give one after the other, up to the first that ends the run, and the state behind
the last of these. -/
def passed : List Row → Hosted σ ι → List (Outcome HostError (List OutputRow)) × Hosted σ ι
  | [], s => ([], s)
  | row :: rest, s =>
    if (t.given row s).1.ends onError then ([(t.given row s).1], (t.given row s).2)
    else ((t.given row s).1 :: (passed rest (t.given row s).2).1, (passed rest (t.given row s).2).2)

theorem length_passed_of_ends {rows : List Row} {s : Hosted σ ι} {k : Nat}
    {o : Outcome HostError (List OutputRow)} (h : (t.passed onError rows s).1[k]? = some o)
    (hends : o.ends onError) : (t.passed onError rows s).1.length = k + 1 := by
  induction rows generalizing s k with
  | nil => simp [passed] at h
  | cons row rest ih =>
    rw [passed] at h ⊢
    split at h
    · next hfirst =>
      rw [if_pos hfirst]
      cases k with
      | zero => rfl
      | succ k => simp at h
    · next hfirst =>
      rw [if_neg hfirst]
      cases k with
      | zero =>
        cases h
        exact absurd hends hfirst
      | succ k =>
        rw [List.getElem?_cons_succ] at h
        rw [List.length_cons, ih h]

theorem length_passed_of_none_ends {rows : List Row} {s : Hosted σ ι}
    (h : ∀ o ∈ (t.passed onError rows s).1, o.ends onError = false) :
    (t.passed onError rows s).1.length = rows.length := by
  induction rows generalizing s with
  | nil => rfl
  | cons row rest ih =>
    rw [passed] at h ⊢
    split at h
    · next hfirst => simp [h _ List.mem_cons_self] at hfirst
    · next hfirst =>
      rw [if_neg hfirst, List.length_cons, List.length_cons,
        ih fun o ho => h o (List.mem_cons_of_mem _ ho)]

end Transformer

end RowScript
