import RowScript.Proofs.Columns
import RowScript.Proofs.Lifetimes
import RowScript.Proofs.Outflow

/-!
# Configurations that can be loaded

A configuration can be loaded if it has input columns, each of which has a name, and a source: its own
or the engine's example (`TransformerConfig.Loadable`). Every load checks this before it looks at the
state of the transformer, and before anything is asked of the engine.

`loadable_after` says what follows for every state that a run can reach. Its invariant is
`Transformer.Vetted`: a transformer with a configuration that cannot be loaded has never left the state
in which it was made, and all maps that the script was given have names and no empty one. An operation
keeps it (`vetted_perform`), hence a run does (`vetted_after`).
-/

namespace RowScript

/-! ### Configurations -/

namespace TransformerConfig

/-- There is something to read, each column of it has a name, and there is a source to run. -/
structure Loadable (c : TransformerConfig) (example? : Kind → Option String) : Prop where
  inputs : c.inputs ≠ []
  named : ∀ column ∈ c.inputs, column.name ≠ ""
  source : c.code ≠ none ∨ example? c.kind ≠ none

theorem inputFault?_eq_none_iff (inputs : List InputColumn) :
    inputFault? inputs = none ↔ inputs ≠ [] ∧ ∀ column ∈ inputs, column.name ≠ "" := by
  cases inputs with
  | nil => simp [inputFault?]
  | cons first rest =>
    simp [inputFault?, List.find?_eq_none, Option.map_eq_none_iff]

/-- The check of a configuration gives a source if and only if it can be loaded. -/
theorem source_ok_iff (c : TransformerConfig) (example? : Kind → Option String) :
    (∃ source, c.source example? = .ok source) ↔ c.Loadable example? := by
  have hinputs := inputFault?_eq_none_iff c.inputs
  unfold source
  cases hfault : inputFault? c.inputs with
  | some fault =>
    simp only [hfault, reduceCtorEq, false_iff] at hinputs
    refine ⟨?_, fun h => absurd ⟨h.inputs, h.named⟩ hinputs⟩
    rintro ⟨_, h⟩
    cases h
  | none =>
    obtain ⟨hsome, hnamed⟩ := hinputs.mp hfault
    cases hcode : c.code with
    | some code => exact ⟨fun _ => ⟨hsome, hnamed, by simp [hcode]⟩, fun _ => ⟨code, rfl⟩⟩
    | none =>
      cases hexample : example? c.kind with
      | some code => exact ⟨fun _ => ⟨hsome, hnamed, by simp [hexample]⟩, fun _ => ⟨code, rfl⟩⟩
      | none =>
        refine ⟨?_, fun h => by simpa [hcode, hexample] using h.source⟩
        rintro ⟨_, h⟩
        cases h

theorem not_loadable_iff (c : TransformerConfig) (example? : Kind → Option String) :
    ¬ c.Loadable example? ↔ c.inputs = [] ∨ (∃ column ∈ c.inputs, column.name = "") ∨
      c.code = none ∧ example? c.kind = none := by
  constructor
  · intro h
    by_contra hnone
    simp only [not_or, not_exists, not_and] at hnone
    obtain ⟨hinputs, hnamed, hsource⟩ := hnone
    refine h ⟨hinputs, hnamed, ?_⟩
    by_contra hcode
    simp only [not_or, not_not] at hcode
    exact hsource hcode.1 hcode.2
  · rintro (hinputs | ⟨column, hmem, hname⟩ | ⟨hcode, hexample⟩) h
    · exact h.inputs hinputs
    · exact h.named column hmem hname
    · exact h.source.elim (· hcode) (· hexample)

theorem source_of_not_loadable {c : TransformerConfig} {example? : Kind → Option String}
    (h : ¬ c.Loadable example?) : ∃ fault, c.source example? = .error fault := by
  cases hsource : c.source example? with
  | error fault => exact ⟨fault, rfl⟩
  | ok source => exact absurd ((c.source_ok_iff example?).mp ⟨source, hsource⟩) h

end TransformerConfig

/-- A map that has names, none of them empty. -/
def ValueMap.Named (m : ValueMap) : Prop := m ≠ [] ∧ ∀ name ∈ Entries.keys m, name ≠ ""

/-- All maps that a call is given have names. -/
def EngineEvent.Named : EngineEvent → Prop
  | call _ _ _ args => ∀ m, ArgSeen.values m ∈ args → m.Named
  | compile _ | instantiate _ => True

theorem named_toValueMap {inputs : List InputColumn} (hsome : inputs ≠ [])
    (hnamed : ∀ c ∈ inputs, c.name ≠ "") (row : Row) : (toValueMap inputs row).Named := by
  have hkeys := keys_toValueMap inputs row
  constructor
  · intro hnil
    rw [hnil, Entries.keys_nil] at hkeys
    obtain ⟨c, hc⟩ := List.exists_mem_of_ne_nil inputs hsome
    have hmem : c.name ∈ columnNames inputs := mem_columnNames.mpr ⟨c, hc, rfl⟩
    rw [← hkeys] at hmem
    cases hmem
  · rw [hkeys]
    intro name hname
    obtain ⟨c, hc, rfl⟩ := mem_columnNames.mp hname
    exact hnamed c hc

/-! ### Loads -/

namespace Host

variable {σ υ ι : Type} {h : Host σ υ ι}

theorem Loading.named {source : String} {w w' : World σ} {es : List EngineEvent}
    {r : Outcome ScriptError (EntryPoints × Gate ι)} (hl : h.Loading source w es r w') :
    ∀ e ∈ es, e.Named := by
  cases hl <;> simp [EngineEvent.Named]

end Host

namespace Transformer

variable {σ υ ι τ : Type} (t : Transformer σ υ ι)

theorem load_of_not_loadable (h : ¬ t.config.Loadable t.engine.example?) (p : Pipeline σ ι τ) :
    ∃ fault, t.load p = (.error (.config fault), p) := by
  obtain ⟨fault, hfault⟩ := TransformerConfig.source_of_not_loadable h
  exact ⟨fault, by rw [load, hfault]; rfl⟩

theorem load_of_ready (h : t.config.Loadable t.engine.example?) {p : Pipeline σ ι τ}
    (hready : p.lifecycle.isReady) : t.load p = (.error .alreadyInitialized, p) := by
  obtain ⟨source, hsource⟩ := (t.config.source_ok_iff t.engine.example?).mpr h
  rw [load, hsource]
  show ((t.host.load source p.toHosted).1,
    (⟨(t.host.load source p.toHosted).2, p.sink⟩ : Pipeline σ ι τ)) = _
  rw [(t.host.loadContract p.toHosted source).of_ready hready]

/-! ### The invariant -/

/-- What holds of a transformer since it was made in the world `w`. -/
structure Vetted (w : World σ) (p : Pipeline σ ι τ) : Prop where
  suits : t.Suits p.lifecycle
  unloaded : ¬ t.config.Loadable t.engine.example? → p.lifecycle = .unloaded
  named : ∃ es, p.world.events.toList = w.events.toList ++ es ∧ ∀ e ∈ es, e.Named

theorem vetted_new (w : World σ) (sink : τ) : t.Vetted w (.new w sink : Pipeline σ ι τ) where
  suits := by rintro _ _ ⟨⟩
  unloaded _ := rfl
  named := ⟨[], by simp [Pipeline.new], by simp⟩

variable {t}

theorem Vetted.loadable {w : World σ} {p : Pipeline σ ι τ} (h : t.Vetted w p)
    (hready : p.lifecycle.isReady) : t.config.Loadable t.engine.example? := by
  by_contra hnot
  rw [h.unloaded hnot] at hready
  cases hready

/-- The events that a vetted state has pending give the script only maps that have names. -/
theorem Vetted.named_pending {w : World σ} {p : Pipeline σ ι τ} (h : t.Vetted w p)
    {ops : List Operation} : ∀ e ∈ t.pending p.lifecycle ops, e.Named := by
  intro e he
  obtain ⟨entries, gate, hlife, ⟨row, rfl⟩ | ⟨hook, rfl⟩⟩ := t.mem_pending he
  · have hloadable := h.loadable (by rw [hlife]; rfl)
    have hmap := named_toValueMap hloadable.inputs hloadable.named row
    simp only [recordEvent, EngineEvent.Named]
    cases t.config.variant <;> simp [hmap]
  · simp [EngineEvent.Named]

theorem Turns.unloaded {life life' : Lifecycle ι} {op : Operation} (turns : t.Turns life op life')
    (hnot : ¬ t.config.Loadable t.engine.example?) (h : life = .unloaded) : life' = .unloaded := by
  cases turns with
  | kept => exact h
  | began _ configured => exact absurd ((t.config.source_ok_iff _).mp ⟨_, configured⟩) hnot
  | called => cases h
  | ended => cases h

variable [RowSink τ]

theorem noted_perform {w : World σ} {p : Pipeline σ ι τ} (h : t.Vetted w p) (op : Operation) :
    ∃ es, (t.perform op p).2.world.events.toList = p.world.events.toList ++ es ∧
      ∀ e ∈ es, e.Named := by
  by_cases hbegins : t.begins ⟨p, op⟩
  · obtain ⟨-, -, source, es, r, w', -, hl, hrun⟩ := t.perform_begins hbegins
    refine ⟨es, ?_, hl.named⟩
    rw [hrun, ← hl.noted.1]
    exact congrArg (·.events.toList) (Host.world_loadEnd p.lifecycle w' r)
  · obtain ⟨es, hevents, -, -, hpending⟩ := t.perform_continues hbegins h.suits
    refine ⟨es, hevents, fun e he => ?_⟩
    have hmem : e ∈ t.pending p.lifecycle [op] := by
      rw [hpending]
      exact List.mem_append_left _ he
    exact h.named_pending e hmem

theorem vetted_perform {w : World σ} {p : Pipeline σ ι τ} (h : t.Vetted w p) (op : Operation) :
    t.Vetted w (t.perform op p).2 := by
  have turns := t.turns_perform op p
  obtain ⟨before, hbefore, hnamed⟩ := h.named
  obtain ⟨es, hevents, hes⟩ := noted_perform h op
  refine ⟨turns.suits h.suits, fun hnot => turns.unloaded hnot (h.unloaded hnot), before ++ es, ?_, ?_⟩
  · rw [hevents, hbefore, List.append_assoc]
  · intro e he
    rcases List.mem_append.mp he with he | he
    · exact hnamed e he
    · exact hes e he

theorem vetted_after {w : World σ} {p : Pipeline σ ι τ} (h : t.Vetted w p) (ops : List Operation) :
    t.Vetted w (t.after ops p) := by
  induction ops generalizing p with
  | nil => exact h
  | cons op rest ih => exact ih (vetted_perform h op)

end Transformer

/-! ### Widths -/

theorem AdvancedConfig.length_of_mem_delivered {config : AdvancedConfig}
    (hshape : config.shape ≠ .unchecked) {emitted : List (List Value)}
    (hwidth : config.shape = .reject → ∀ values ∈ emitted, values.length = config.width)
    {returned : Value} : ∀ row ∈ config.delivered emitted returned, row.length = config.width := by
  intro row hrow
  rcases List.mem_append.mp hrow with hrow | hrow
  · obtain ⟨values, hvalues, rfl⟩ := List.mem_map.mp hrow
    cases h : config.shape with
    | unchecked => exact absurd h hshape
    | fit => exact length_fitRow _ _
    | reject => simpa [ShapePolicy.shaped] using hwidth h values hvalues
  · split at hrow
    · exact length_of_mem_outputRows hrow
    · cases hrow

namespace Transformer

variable {σ υ ι τ : Type} (t : Transformer σ υ ι)

theorem length_outputColumns_of_single (h : ∀ config, t.config.variant ≠ .advanced config) :
    t.outputColumns.length = 1 := by
  unfold outputColumns
  cases hvariant : t.config.variant with
  | simple => rfl
  | standard concurrent => rfl
  | advanced config => exact absurd hvariant (h config)

theorem length_outputColumns_of_advanced {config : AdvancedConfig}
    (h : t.config.variant = .advanced config) : t.outputColumns.length = config.width := by
  simp [outputColumns, h, AdvancedConfig.width]

/-- What a record gives in a state: one row of the header's width from a transformer that gives one
value per record, which leaves the sink alone, and no row but those in the sink from one that emits. -/
structure FitsHeader [KeepsRows τ] (row : Row) (p : Pipeline σ ι τ) : Prop where
  single : (∀ config, t.config.variant ≠ .advanced config) →
    (t.transform row p).2.sink = p.sink ∧ ∀ back, (t.transform row p).1 = .ok back →
      ∃ fields, back = some fields ∧ fields.length = t.outputColumns.length
  unreturned : ∀ config, t.config.variant = .advanced config →
    ∀ back, (t.transform row p).1 = .ok back → back = none
  /-- Rows that a returned value becomes have the width under each policy; all rows that are
  delivered have it if the policy does not let others pass. -/
  delivered : ∀ config, t.config.variant = .advanced config →
    (t.transform row p).2.sink = p.sink ∨
      ∃ entries gate returned, p.lifecycle = .ready entries gate ∧
        (t.collectingCall entries gate row p.world).outcome = .ok returned ∧
        KeepsRows.rows (t.transform row p).2.sink = KeepsRows.rows p.sink ++
          config.delivered (t.collectingCall entries gate row p.world).emitted returned ∧
        (∀ r ∈ outputRows config.width returned, r.length = t.outputColumns.length) ∧
        (config.shape ≠ .unchecked → ∀ r ∈ config.delivered
          (t.collectingCall entries gate row p.world).emitted returned,
            r.length = t.outputColumns.length)

theorem fitsHeader [KeepsRows τ] (row : Row) (p : Pipeline σ ι τ) : t.FitsHeader row p := by
  obtain ⟨⟨life, w⟩, sink⟩ := p
  refine ⟨fun hsingle => ?_, fun config hvariant back hback => ?_, fun config hvariant => ?_⟩
  · rw [t.transform_of_single hsingle]
    refine ⟨rfl, fun back hback => ?_⟩
    generalize t.host.transform [.values (toValueMap t.config.inputs row)] ⟨life, w⟩ = result at hback
    obtain ⟨o, s⟩ := result
    cases o with
    | ok returned =>
      cases hback
      exact ⟨_, rfl, (t.length_outputColumns_of_single hsingle).symm⟩
    | error e => cases hback
    | aborted => cases hback
  · rw [t.transform_of_advanced hvariant] at hback
    generalize t.transformCollecting config row ⟨⟨life, w⟩, sink⟩ = result at hback
    obtain ⟨o, s⟩ := result
    cases o with
    | ok _ =>
      cases hback
      rfl
    | error e => cases hback
    | aborted => cases hback
  · by_cases hready : life.isReady
    · obtain ⟨entries, gate, rfl⟩ := Lifecycle.exists_of_isReady hready
      have all := t.allOrNone_ready hvariant entries gate row w sink
      rcases all.ends with ⟨hok, returned, hreturned, -, hrows⟩ | ⟨-, hsink⟩ | ⟨-, -, hsink⟩
      · refine .inr ⟨entries, gate, returned, rfl, hreturned, hrows, ?_⟩
        rw [t.length_outputColumns_of_advanced hvariant]
        refine ⟨fun r => length_of_mem_outputRows, fun hshape => ?_⟩
        refine AdvancedConfig.length_of_mem_delivered hshape fun hreject values hvalues => ?_
        by_contra hwidth
        obtain ⟨e, he⟩ :=
          all.fails_iff.mpr (.inr ⟨⟨returned, hreturned⟩, hreject, values, hvalues, hwidth⟩)
        rw [hok] at he
        cases he
      · exact .inl hsink
      · exact .inl hsink
    · obtain ⟨e, w', hrun, -⟩ := t.transform_unnoted hready row w sink
      rw [hrun]
      exact .inl rfl

theorem sink_load (p : Pipeline σ ι τ) : (t.load p).2.sink = p.sink := by
  unfold load
  cases t.config.source t.engine.example? <;> rfl

theorem sink_close (p : Pipeline σ ι τ) : (t.close p).2.sink = p.sink := rfl

theorem transform_of_unloaded [RowSink τ] (row : Row) {p : Pipeline σ ι τ}
    (h : p.lifecycle = .unloaded) : (t.transform row p).1 = .error .notInitialized ∧
      (t.transform row p).2.world.events = p.world.events := by
  obtain ⟨⟨life, w⟩, sink⟩ := p
  obtain rfl : life = .unloaded := h
  have idle : ¬ (Lifecycle.unloaded : Lifecycle ι).isReady := nofun
  obtain ⟨e, w', hrun, hevents, -, rfl⟩ := t.transform_unnoted idle row w sink
  rw [hrun]
  exact ⟨rfl, hevents⟩

/-- **Only a configuration that can be loaded is ever ready.** In each state that a run can reach:
with a configuration at fault every load says so and asks nothing of the engine, and every other
operation finds no script. A ready transformer refuses to be loaded again, and its configuration is
not at fault any more. The script was given maps with names only, and what a record gives has the width
of the header. -/
theorem loadable_after [KeepsRows τ] (engine : Engine σ υ ι) (config : TransformerConfig)
    (ops : List Operation) (w : World σ) (sink : τ) :
    let t : Transformer σ υ ι := ⟨engine, config⟩
    let p := t.after ops (.new w sink)
    (config.inputs = [] ∨ (∃ column ∈ config.inputs, column.name = "") ∨
        config.code = none ∧ engine.example? config.kind = none →
      ¬ p.lifecycle.isReady ∧ (∃ fault, t.load p = (.error (.config fault), p)) ∧
      (∀ row, (t.transform row p).1 = .error .notInitialized ∧
        (t.transform row p).2.world.events = p.world.events) ∧
      t.close p = (.error .notInitialized, p)) ∧
    (p.lifecycle.isReady →
      config.Loadable engine.example? ∧ t.load p = (.error .alreadyInitialized, p)) ∧
    (∃ es, p.world.events.toList = w.events.toList ++ es ∧ ∀ e ∈ es, e.Named) ∧
    (∀ row, t.FitsHeader row p) ∧ (t.load p).2.sink = p.sink ∧ (t.close p).2.sink = p.sink := by
  intro t p
  have vetted : t.Vetted w p := vetted_after (t.vetted_new w sink) ops
  refine ⟨fun hfault => ?_, fun hready => ?_, vetted.named, fun row => t.fitsHeader row p,
    t.sink_load p, t.sink_close p⟩
  · have hnot := (config.not_loadable_iff engine.example?).mpr hfault
    have hunloaded := vetted.unloaded hnot
    refine ⟨by simp [hunloaded, Lifecycle.isReady], t.load_of_not_loadable hnot p,
      fun row => t.transform_of_unloaded row hunloaded, ?_⟩
    have hclose := (t.host.closeContract p.toHosted).of_unloaded hunloaded
    show ((t.host.close p.toHosted).1,
      (⟨(t.host.close p.toHosted).2, p.sink⟩ : Pipeline σ ι τ)) = _
    rw [hclose]
  · have hloadable := vetted.loadable hready
    exact ⟨hloadable, t.load_of_ready hloadable hready⟩

end Transformer

end RowScript
