import RowScript.Transformer

/-!
# What a record delivers

One record of an advanced transformer is one call of its script with a fresh collector
(`Transformer.collectingCall`). What the call left in that collector and what it returned decide all
that follows: `AdvancedConfig.refused?` is the first emitted record that the shape policy does not
let pass, and `AdvancedConfig.delivered` are the rows for the sink.

`transform_advanced`: a record delivers all of its rows in one piece or fails and delivers none. The
proof runs the steps of `transformCollecting` once (`transformCollecting_ready`) and then needs only
that rows of a returned value have the declared width, so no policy touches them
(`refused?_collectedRows`, `map_shaped_collectedRows`).
-/

namespace RowScript

/-! ### Rows of a record -/

namespace AdvancedConfig

variable (config : AdvancedConfig)

/-- The declared count of output fields. -/
def width : Nat := config.outputFields.toNat

/-- The first emitted record that the shape policy does not let pass. -/
def refused? (emitted : List (List Value)) : Option (List Value) :=
  match config.shape with
  | .reject => emitted.find? (·.length != config.width)
  | .unchecked | .fit => none

/-- The rows of a record: those emitted, each as the shape policy leaves it, then those of the
returned value. -/
def delivered (emitted : List (List Value)) (returned : Value) : List OutputRow :=
  emitted.map (fun values => config.shape.shaped config.width (values.map outputField)) ++
    if config.emitReturned then outputRows config.width returned else []

theorem refused?_eq_some_iff (emitted : List (List Value)) :
    (∃ values, config.refused? emitted = some values) ↔
      config.shape = .reject ∧ ∃ values ∈ emitted, values.length ≠ config.width := by
  cases h : config.shape <;> simp [refused?, h, ← Option.isSome_iff_exists]

end AdvancedConfig

theorem length_of_mem_outputRows {width : Nat} {v : Value} {row : OutputRow}
    (h : row ∈ outputRows width v) : row.length = width := by
  unfold outputRows at h
  split at h
  · simp at h
  · split at h
    · obtain ⟨item, _, rfl⟩ := List.mem_map.mp h
      exact length_outputRow _ _
    · rw [List.mem_singleton.mp h]
      exact length_outputRow _ _
  · rw [List.mem_singleton.mp h]
    exact length_outputRow _ _

namespace Transformer

/-- The rows of the returned value have the declared width, so only emitted rows are refused. -/
theorem refused?_collectedRows (config : AdvancedConfig) (emitted : List (List Value))
    (returned : Value) :
    config.shape.refused? config.width (collectedRows config emitted returned) =
      (config.refused? emitted).map (·.map outputField) := by
  have hreturned : (if config.emitReturned then outputRows config.width returned else []).find?
      (·.length != config.width) = none := by
    rw [List.find?_eq_none]
    intro row hrow
    split at hrow
    · simpa using length_of_mem_outputRows hrow
    · simp at hrow
  unfold collectedRows AdvancedConfig.refused? ShapePolicy.refused?
  cases config.shape with
  | unchecked => rfl
  | fit => rfl
  | reject =>
    simp only [List.find?_append, List.find?_map, Function.comp_def, List.length_map]
    rw [AdvancedConfig.width] at hreturned
    simp [AdvancedConfig.width, hreturned]

theorem map_shaped_collectedRows (config : AdvancedConfig) (emitted : List (List Value))
    (returned : Value) :
    (collectedRows config emitted returned).map (config.shape.shaped config.width) =
      config.delivered emitted returned := by
  have hreturned : (if config.emitReturned then outputRows config.width returned else []).map
      (config.shape.shaped config.width) =
        if config.emitReturned then outputRows config.width returned else [] := by
    split
    · refine (List.map_congr_left fun row hrow => ?_).trans (List.map_id _)
      exact ShapePolicy.shaped_of_length _ (length_of_mem_outputRows hrow)
    · rfl
  unfold collectedRows AdvancedConfig.delivered
  rw [List.map_append, List.map_map]
  exact congrArg _ hreturned

end Transformer

/-! ### The call of a record -/

/-- A call of the script for one record: how it ended, what it left, and the rows in the record's
collector when it was over. -/
structure RecordCall (σ ι : Type) where
  outcome : Outcome ScriptError Value
  gate : Gate ι
  world : World σ
  handle : CollectorHandle
  emitted : List (List Value)

namespace Transformer

open Attempt

variable {σ υ ι τ : Type} (t : Transformer σ υ ι)

/-- The call that a record makes of a script which emits rows. -/
def collectingCall (entries : EntryPoints) (gate : Gate ι) (row : Row) (w : World σ) :
    RecordCall σ ι :=
  let (handle, collectors) := w.collectors.fresh
  let (o, gate, after) := gate.call t.engine entries.transform
    [.values (toValueMap t.config.inputs row), .collector handle] { w with collectors }
  ⟨o, gate, after, handle, after.collectors.rows handle⟩

/-- The world after a call that returned: its collector is emptied, and misfits are logged. -/
def collected (config : AdvancedConfig) (call : RecordCall σ ι) (returned : Value) : World σ :=
  { call.world with collectors := (call.world.collectors.take call.handle).2 }.logAll
    ((collectedRows config call.emitted returned).flatMap (config.shape.warnings config.width))

theorem host_engine : t.host.engine = t.engine := by
  unfold host
  split <;> rfl

theorem transform_hosted (entries : EntryPoints) (gate : Gate ι) (row : Row) (w : World σ) :
    let call := t.collectingCall entries gate row w
    t.host.transform [.values (toValueMap t.config.inputs row), .collector call.handle]
      ⟨.ready entries gate, { w with collectors := w.collectors.fresh.2 }⟩ =
        (call.outcome.mapError .script, ⟨.ready entries call.gate, call.world⟩) := by
  simp only [Host.transform, host_engine]
  rfl

/-- What one record of a ready script does, by how its call ended. -/
theorem transformCollecting_ready [RowSink τ] (config : AdvancedConfig) (entries : EntryPoints)
    (gate : Gate ι) (row : Row) (w : World σ) (sink : τ) :
    let call := t.collectingCall entries gate row w
    t.transformCollecting config row ⟨⟨.ready entries gate, w⟩, sink⟩ =
      match call.outcome with
      | .error e => (.error (.script e), ⟨⟨.ready entries call.gate, call.world⟩, sink⟩)
      | .aborted => (.aborted, ⟨⟨.ready entries call.gate, call.world⟩, sink⟩)
      | .ok returned =>
        match config.refused? call.emitted with
        | some values => (.error (.shapeMismatch config.width values.length),
            ⟨⟨.ready entries call.gate, collected config call returned⟩, sink⟩)
        | none => (.ok (), ⟨⟨.ready entries call.gate, collected config call returned⟩,
            RowSink.putRows sink (config.delivered call.emitted returned)⟩) := by
  intro call
  have hcall : Pipeline.onHost
      (t.host.transform [.values (toValueMap t.config.inputs row), .collector w.collectors.fresh.1])
      ⟨⟨.ready entries gate, { w with collectors := w.collectors.fresh.2 }⟩, sink⟩ =
        (call.outcome.mapError .script, ⟨⟨.ready entries call.gate, call.world⟩, sink⟩) := by
    rw [Pipeline.onHost_apply]
    exact congrArg (fun r => (r.1, (⟨r.2, sink⟩ : Pipeline σ ι τ)))
      (t.transform_hosted entries gate row w)
  unfold transformCollecting
  simp only
  rw [bind_apply_of_ok read_apply, bind_apply_of_ok (Pipeline.onWorld_apply _ _ _ _)]
  cases hout : call.outcome with
  | error e =>
    rw [hout] at hcall
    exact bind_apply_of_error hcall
  | aborted =>
    rw [hout] at hcall
    exact bind_apply_of_aborted hcall
  | ok returned =>
    rw [hout] at hcall
    rw [bind_apply_of_ok hcall, bind_apply_of_ok read_apply,
      bind_apply_of_ok (Pipeline.onWorld_apply _ _ _ _),
      bind_apply_of_ok (Pipeline.onWorld_apply _ _ _ _)]
    have happly := ShapePolicy.applyAll_eq config.shape config.width
      (collectedRows config call.emitted returned)
    rw [refused?_collectedRows, map_shaped_collectedRows] at happly
    show Pipeline.send (config.shape.applyAll config.width
      (collectedRows config call.emitted returned))
        ⟨⟨.ready entries call.gate, collected config call returned⟩, sink⟩ = _
    rw [happly]
    cases config.refused? call.emitted with
    | some values =>
      simp only [Option.map_some, List.length_map]
      rfl
    | none => rfl

theorem transformCollecting_idle [RowSink τ] (config : AdvancedConfig) (row : Row)
    (life : Lifecycle ι) (w : World σ) (sink : τ) {e : HostError}
    (hidle : ∀ args w, t.host.transform args ⟨life, w⟩ = (.error e, ⟨life, w⟩)) :
    t.transformCollecting config row ⟨⟨life, w⟩, sink⟩ =
      (.error e, ⟨⟨life, { w with collectors := w.collectors.fresh.2 }⟩, sink⟩) := by
  unfold transformCollecting
  simp only
  rw [bind_apply_of_ok read_apply, bind_apply_of_ok (Pipeline.onWorld_apply _ _ _ _)]
  refine bind_apply_of_error ?_
  rw [Pipeline.onHost_apply, hidle]

theorem transform_of_advanced [RowSink τ] {config : AdvancedConfig}
    (hvariant : t.config.variant = .advanced config) (row : Row) (p : Pipeline σ ι τ) :
    t.transform row p = ((t.transformCollecting config row p).1.map fun _ => none,
      (t.transformCollecting config row p).2) := by
  rw [transform, hvariant]
  exact bind_pure_apply fun _ => none

theorem transform_of_single [RowSink τ] (hvariant : ∀ config, t.config.variant ≠ .advanced config)
    (row : Row) (s : Hosted σ ι) (sink : τ) :
    let result := t.host.transform [.values (toValueMap t.config.inputs row)] s
    t.transform row ⟨s, sink⟩ =
      (result.1.map fun returned => some [outputField returned], ⟨result.2, sink⟩) := by
  intro result
  have hsingle : t.transformSingle row (⟨s, sink⟩ : Pipeline σ ι τ) =
      (result.1.map fun returned => [outputField returned], ⟨result.2, sink⟩) :=
    bind_pure_apply fun returned => [outputField returned]
  have hmap : t.transform row (⟨s, sink⟩ : Pipeline σ ι τ) =
      ((t.transformSingle row ⟨s, sink⟩).1.map some, (t.transformSingle row ⟨s, sink⟩).2) := by
    unfold transform
    cases hconfig : t.config.variant with
    | simple => exact bind_pure_apply some
    | standard concurrent => exact bind_pure_apply some
    | advanced config => exact absurd hconfig (hvariant config)
  rw [hmap, hsingle]
  cases result.1 <;> rfl

/-- How a record may end whose script was called: all of its rows reach the sink, or it fails and
the sink is as it was. It fails if the call failed, or if the policy is `reject` and the call
emitted a row that has not the declared width. -/
structure AllOrNone [KeepsRows τ] (config : AdvancedConfig) (call : RecordCall σ ι) (sink : τ)
    (result : Outcome HostError (Option OutputRow) × Pipeline σ ι τ) : Prop where
  ends : (result.1 = .ok none ∧ ∃ returned, call.outcome = .ok returned ∧
        result.2.sink = RowSink.putRows sink (config.delivered call.emitted returned) ∧
        KeepsRows.rows result.2.sink =
          KeepsRows.rows sink ++ config.delivered call.emitted returned) ∨
      ((∃ e, result.1 = .error e) ∧ result.2.sink = sink) ∨
      (result.1 = .aborted ∧ call.outcome = .aborted ∧ result.2.sink = sink)
  fails_iff : (∃ e, result.1 = .error e) ↔ (∃ e, call.outcome = .error e) ∨
      (∃ returned, call.outcome = .ok returned) ∧ config.shape = .reject ∧
        ∃ values ∈ call.emitted, values.length ≠ config.width
  of_error : ∀ e, call.outcome = .error e → result.1 = .error (.script e)
  of_misfit : ∀ returned values, call.outcome = .ok returned → config.shape = .reject →
      call.emitted.find? (·.length != config.width) = some values →
        result.1 = .error (.shapeMismatch config.width values.length)

theorem allOrNone_ready [KeepsRows τ] {config : AdvancedConfig}
    (hvariant : t.config.variant = .advanced config) (entries : EntryPoints) (gate : Gate ι)
    (row : Row) (w : World σ) (sink : τ) :
    AllOrNone config (t.collectingCall entries gate row w) sink
      (t.transform row ⟨⟨.ready entries gate, w⟩, sink⟩) := by
  rw [t.transform_of_advanced hvariant, t.transformCollecting_ready]
  have hiff := config.refused?_eq_some_iff (t.collectingCall entries gate row w).emitted
  generalize t.collectingCall entries gate row w = call at hiff ⊢
  cases hout : call.outcome with
  | error e =>
    refine ⟨.inr (.inl ⟨⟨_, rfl⟩, rfl⟩), ⟨fun _ => .inl ⟨e, hout⟩, fun _ => ⟨_, rfl⟩⟩, ?_, ?_⟩
    · intro e' he'
      rw [hout] at he'
      cases he'
      rfl
    · intro returned _ hreturned
      rw [hout] at hreturned
      cases hreturned
  | aborted =>
    refine ⟨.inr (.inr ⟨rfl, hout, rfl⟩), ⟨?_, ?_⟩, ?_, ?_⟩
    · rintro ⟨_, h⟩
      cases h
    · rintro (⟨_, h⟩ | ⟨⟨_, h⟩, _⟩) <;> rw [hout] at h <;> cases h
    · intro e he
      rw [hout] at he
      cases he
    · intro returned _ hreturned
      rw [hout] at hreturned
      cases hreturned
  | ok returned =>
    cases hrefused : config.refused? call.emitted with
    | some values =>
      refine ⟨.inr (.inl ⟨⟨_, rfl⟩, rfl⟩),
        ⟨fun _ => .inr ⟨⟨returned, hout⟩, hiff.mp ⟨values, hrefused⟩⟩, fun _ => ⟨_, rfl⟩⟩, ?_, ?_⟩
      · intro e he
        rw [hout] at he
        cases he
      · intro _ first _ hshape hfirst
        have : values = first := by
          simpa [AdvancedConfig.refused?, hshape, hfirst] using hrefused.symm
        subst this
        rfl
    | none =>
      refine ⟨.inl ⟨rfl, returned, hout, rfl, KeepsRows.rows_putRows _ _⟩, ⟨?_, ?_⟩, ?_, ?_⟩
      · rintro ⟨_, h⟩
        cases h
      · rintro (⟨_, h⟩ | ⟨_, h⟩)
        · rw [hout] at h
          cases h
        · obtain ⟨values, hvalues⟩ := hiff.mpr h
          rw [hrefused] at hvalues
          cases hvalues
      · intro e he
        rw [hout] at he
        cases he
      · intro _ values _ hshape hvalues
        simp [AdvancedConfig.refused?, hshape, hvalues] at hrefused

theorem emitted_collectingCall (entries : EntryPoints) (gate : Gate ι) (row : Row) (w : World σ)
    (puts : List (CollectorHandle × List Value))
    (hputs : (t.collectingCall entries gate row w).world.collectors =
      w.collectors.fresh.2.putAll puts) :
    (t.collectingCall entries gate row w).emitted =
      (puts.filter (·.1 = (t.collectingCall entries gate row w).handle)).map (·.2) := by
  have hrows := Collectors.rows_putAll puts w.collectors.fresh.2 (Collectors.made_fresh _)
  rw [Collectors.rows_fresh, List.nil_append] at hrows
  show (t.collectingCall entries gate row w).world.collectors.rows _ = _
  rw [hputs]
  exact hrows

/-- **A record delivers all of its rows or none.** If the script's call returns and the shape policy
lets every emitted row pass, the sink gets the shaped rows in the order of emission and then the
rows of the returned value, as they are. Otherwise the record fails and the sink is as it was: with
the script's error, or, under `reject`, with the width of the first emitted row that has not the
declared one. The emitted rows are those that were put through handles of the record's own
collector. A transformer that is not ready fails without calling the script. -/
theorem transform_advanced [KeepsRows τ] (engine : Engine σ υ ι) (inputs : List InputColumn)
    (code : Option String) (config : AdvancedConfig) (row : Row) (w : World σ) (sink : τ) :
    let t : Transformer σ υ ι := ⟨engine, inputs, code, .advanced config⟩
    (∀ entries gate,
      let call := t.collectingCall entries gate row w
      AllOrNone config call sink (t.transform row ⟨⟨.ready entries gate, w⟩, sink⟩) ∧
      ∀ puts, call.world.collectors = w.collectors.fresh.2.putAll puts →
        call.emitted = (puts.filter (·.1 = call.handle)).map (·.2)) ∧
    t.transform row ⟨⟨.unloaded, w⟩, sink⟩ = (.error .notInitialized,
      ⟨⟨.unloaded, { w with collectors := w.collectors.fresh.2 }⟩, sink⟩) ∧
    t.transform row ⟨⟨.closed, w⟩, sink⟩ = (.error .closed,
      ⟨⟨.closed, { w with collectors := w.collectors.fresh.2 }⟩, sink⟩) := by
  intro t
  have hvariant : t.config.variant = .advanced config := rfl
  refine ⟨?_, ?_, ?_⟩
  · intro entries gate call
    exact ⟨t.allOrNone_ready hvariant entries gate row w sink,
      t.emitted_collectingCall entries gate row w⟩
  · rw [t.transform_of_advanced hvariant, t.transformCollecting_idle config row .unloaded w
      sink fun _ _ => rfl]
    rfl
  · rw [t.transform_of_advanced hvariant, t.transformCollecting_idle config row .closed w
      sink fun _ _ => rfl]
    rfl

end Transformer

end RowScript
