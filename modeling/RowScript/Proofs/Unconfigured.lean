import RowScript.Proofs.Examples
import RowScript.Proofs.Validity

/-!
# Transformers without code of their own

A transformer without code of its own runs the example script of its kind. A live instance of it is one
of the unit that the example compiles to, whatever has happened since it was loaded
(`Transformer.Turns.runs`), so what the calls of that unit do (`Script.simple_gives`,
`Script.standard_gives`, `Script.advanced_gives`) is what the transformer does with every record, in
every state that it can get into (`Transformer.exemplary_after`).
-/

namespace RowScript

open Script

/-! ### The unit of live instances -/

/-- Every live instance is one of the unit. -/
def Lifecycle.Runs (u : ScriptUnit) (life : Lifecycle ScriptInstance) : Prop :=
  ∀ entries gate, life = .ready entries gate → gate.inst.state.compiled = u

section Runs

variable {limits : Limits} {example? : Kind → Option String}

theorem compile_eq {source : String} {script : Program}
    (h : Program.ofSource? limits source = .ok script) (w : World Unit) :
    ((scriptEngine limits example?).compile source w).1 = .ok ⟨script, limits⟩ := by
  simp only [Engine.compile, scriptEngine, Engine.resting, Interpreter.engine, interpreter, h]
  rfl

theorem compiled_of_call {access : Access}
    {entry : EntryPoint} {args : List Arg} {inst inst' : Live ScriptInstance} {w w' : World Unit}
    {o : Outcome ScriptError Value}
    (called : (scriptEngine limits example?).call access entry args inst w = (o, inst', w')) :
    inst'.state.compiled = inst.state.compiled := by
  obtain rfl : _ = inst' := congrArg (·.2.1) called
  exact Interpreter.compiled_runEntry (I := interpreter) access entry args inst.state _

theorem compiled_of_instantiate {u : ScriptUnit} {inst : Live ScriptInstance} {w w' : World Unit}
    (made : (scriptEngine limits example?).instantiate u w = (.ok inst, w')) :
    inst.state.compiled = u := by
  obtain ⟨scene, ran, -⟩ := Engine.of_instantiate made
  obtain ⟨scene', ran'⟩ := Engine.of_resting_made ran
  obtain ⟨cells, hinst⟩ := Interpreter.of_makeInstance (I := interpreter) ran'
  rw [hinst]

theorem runs_of_loading {h : Host Unit ScriptUnit ScriptInstance}
    (hengine : h.engine = scriptEngine limits example?) {source : String} {script : Program}
    (hscript : Program.ofSource? limits source = .ok script) {w w' : World Unit}
    {es : List EngineEvent} {entries : EntryPoints} {gate : Gate ScriptInstance}
    (hl : h.Loading source w es (.ok (entries, gate)) w') :
    gate.inst.state.compiled = ⟨script, limits⟩ := by
  obtain ⟨unit, fresh, w₁, w₂, compiled, -, made, -, hcame⟩ := hl.of_ok
  rw [hengine] at compiled made hcame
  have ended : ((scriptEngine limits example?).compile source w).1 = _ := compile_eq hscript w
  rw [compiled] at ended
  cases ended
  obtain ⟨-, rfl, -⟩ | ⟨hook, v, -, called⟩ := hcame
  · exact compiled_of_instantiate made
  · exact (compiled_of_call called).trans (compiled_of_instantiate made)

theorem Transformer.Turns.runs {t : Transformer Unit ScriptUnit ScriptInstance}
    (hengine : t.engine = scriptEngine limits example?) {source : String} {script : Program}
    (hsource : t.config.source t.engine.example? = .ok source)
    (hscript : Program.ofSource? limits source = .ok script)
    {life life' : Lifecycle ScriptInstance} {op : Operation} (turns : t.Turns life op life')
    (h : life.Runs ⟨script, limits⟩) : life'.Runs ⟨script, limits⟩ := by
  have hengine' : t.host.engine = scriptEngine limits example? := t.host_engine.trans hengine
  cases turns with
  | kept => exact h
  | began _ configured loading =>
    rintro _ _ ⟨⟩
    obtain rfl := Except.ok.inj (hsource.symm.trans configured)
    exact runs_of_loading hengine' hscript loading
  | @called entries gate _ _ _ _ _ _ called =>
    rintro _ _ ⟨⟩
    rw [hengine'] at called
    exact (compiled_of_call called).trans (h entries gate rfl)
  | ended => rintro _ _ ⟨⟩

end Runs

/-! ### Loading an example -/

theorem loads_example {h : Host Unit ScriptUnit ScriptInstance}
    (hengine : h.engine = scriptEngine {} (some ∘ exampleScript)) {kind : Kind}
    (hentry : (ScriptUnit.mk (exampleProgram kind) {}).defines h.entry = true)
    (hhooks : h.hooks → kind ≠ .simple) (w : World Unit) : h.Loads (exampleScript kind) w := by
  have compiled : ((scriptEngine {} (some ∘ exampleScript)).compile (exampleScript kind) w).1 = _ :=
    compile_eq (ofSource?_example kind) w
  have made (w : World Unit) : ((scriptEngine {} (some ∘ exampleScript)).instantiate
      ⟨exampleProgram kind, {}⟩ w).1 = .ok ⟨w.instances, { compiled := ⟨exampleProgram kind, {}⟩ }⟩ := by
    cases kind <;> rfl
  have opened (hkind : kind ≠ .simple) (n : Nat) (w : World Unit) :
      ((scriptEngine {} (some ∘ exampleScript)).call .exclusive .opening []
        ⟨n, { compiled := ⟨exampleProgram kind, {}⟩ }⟩ w).1 = .ok .null :=
    opening_gives .exclusive w.scene kind hkind
  rw [Host.Loads, hengine]
  refine ⟨_, _, _, _, _, _, Prod.ext compiled rfl, congrArg _ hentry, rfl, rfl,
    Prod.ext (made _) rfl, fun hon _ => ⟨_, _, _, Prod.ext (opened (hhooks hon) _ _) rfl⟩⟩

/-- The transformer of a kind that has no code of its own. -/
def exampleTransformer (inputs : List InputColumn) (variant : Variant) :
    Transformer Unit ScriptUnit ScriptInstance :=
  ⟨scriptEngine {} (some ∘ exampleScript), ⟨inputs, none, variant⟩⟩

namespace Transformer

variable {inputs : List InputColumn} {variant : Variant}

theorem source_example (hinputs : inputs ≠ []) (hnames : ∀ c ∈ inputs, c.name ≠ "") :
    (exampleTransformer inputs variant).config.source
      (exampleTransformer inputs variant).engine.example? = .ok (exampleScript variant.kind) := by
  have hfault := (TransformerConfig.inputFault?_eq_none_iff inputs).mpr ⟨hinputs, hnames⟩
  simp only [TransformerConfig.source, exampleTransformer, hfault]
  rfl

/-- What is known of a live instance of an example. -/
structure Settled (t : Transformer Unit ScriptUnit ScriptInstance) (life : Lifecycle ScriptInstance) :
    Prop where
  suits : t.Suits life
  hooked : Hooked life
  runs : life.Runs ⟨exampleProgram t.kind, {}⟩

section Records

variable {τ : Type} {entries : EntryPoints} {gate : Gate ScriptInstance} {w : World Unit}

theorem transform_of_text [RowSink τ] (t : Transformer Unit ScriptUnit ScriptInstance)
    (hvariant : ∀ config, t.config.variant ≠ .advanced config) (row : Row) (sink : τ) {s : String}
    (h : (t.engine.runEntry gate.policy.access entries.transform
      [.values (toValueMap t.config.inputs row)] gate.inst.state w.scene).1 = .ok (.string s)) :
    (t.transform row ⟨⟨.ready entries gate, w⟩, sink⟩).1 = .ok (some [some s]) := by
  have hcall : (t.host.transform [.values (toValueMap t.config.inputs row)]
      ⟨.ready entries gate, w⟩).1 = .ok (.string s) := by
    simp only [Host.transform, host_engine, Gate.call, Gate.enter, Engine.call, h]
    rfl
  rw [t.transform_of_single hvariant]
  simp only [hcall]
  rfl

theorem get_toValueMap (row : Row) {name : String} (h : name ∈ columnNames inputs) :
    Record.get (toValueMap inputs row) name = .ofValue (row.get name) := by
  rw [Record.get, toValueMap_eq, Entries.get?, List.lookup_graph _ h]
  rfl

/-- A call for a record emits a row of name and value for each column, and gives nothing back. -/
theorem collectingCall_example {config : AdvancedConfig}
    (hentry : entries.transform = .transformCollecting)
    (hruns : gate.inst.state.compiled = ⟨exampleProgram .advanced, {}⟩) (row : Row) :
    let call := (exampleTransformer inputs (.advanced config)).collectingCall entries gate row w
    call.outcome = .ok .null ∧
      call.emitted = (columnNames inputs).map fun name => [.string name, row.get name] := by
  intro call
  obtain ⟨inst, scene, hrun, hputs⟩ := advanced_gives gate.policy.access
    ({ w with collectors := w.collectors.fresh.2 } : World Unit).scene hruns
    (toValueMap inputs row) w.collectors.fresh.1
  rw [← hentry] at hrun
  have hcall : (exampleTransformer inputs (.advanced config)).engine.runEntry gate.policy.access
      entries.transform [.values (toValueMap inputs row), .collector w.collectors.fresh.1]
        gate.inst.state ({ w with collectors := w.collectors.fresh.2 } : World Unit).scene =
          (.ok .null, inst, scene) := hrun
  have houtcome : call.outcome = .ok .null := congrArg Prod.fst hcall
  have hcollectors : call.world.collectors = scene.collectors :=
    congrArg (fun r => r.2.2.collectors) hcall
  refine ⟨houtcome, ?_⟩
  rw [emitted_collectingCall _ entries gate row w _ (hcollectors.trans hputs), keys_toValueMap,
    List.filter_eq_self.mpr fun put hput => ?_, List.map_map]
  · refine List.map_congr_left fun name hname => ?_
    simp [get_toValueMap row hname]
  · obtain ⟨name, -, rfl⟩ := List.mem_map.mp hput
    exact decide_eq_true rfl

/-- A record of the advanced example delivers a row of name and value for each column. -/
theorem transform_emits [KeepsRows τ] {config : AdvancedConfig} (hwidth : config.outputFields = 2)
    (hreturned : config.emitReturned = false) (hentry : entries.transform = .transformCollecting)
    (hruns : gate.inst.state.compiled = ⟨exampleProgram .advanced, {}⟩) (row : Row) (sink : τ) :
    let result := (exampleTransformer inputs (.advanced config)).transform row
      ⟨⟨.ready entries gate, w⟩, sink⟩
    result.1 = .ok none ∧ KeepsRows.rows result.2.sink = KeepsRows.rows sink ++
      (columnNames inputs).map fun name => [some name, outputField (row.get name)] := by
  intro result
  have hwidth' : config.width = 2 := by simp [AdvancedConfig.width, hwidth]
  let call := (exampleTransformer inputs (.advanced config)).collectingCall entries gate row w
  obtain ⟨houtcome, hemitted⟩ : call.outcome = .ok .null ∧ call.emitted = _ :=
    collectingCall_example hentry hruns row
  have hrefused : config.refused? call.emitted = none := by
    rw [hemitted, AdvancedConfig.refused?, hwidth']
    cases config.shape <;> simp [List.find?_eq_none]
  have hdelivered : config.delivered call.emitted .null =
      (columnNames inputs).map fun name => [some name, outputField (row.get name)] := by
    rw [hemitted, AdvancedConfig.delivered, hwidth', hreturned, List.map_map]
    simp only [Bool.false_eq_true, if_false, List.append_nil]
    refine List.map_congr_left fun name _ => ?_
    exact ShapePolicy.shaped_of_length _ rfl
  have hresult : result = _ := transform_of_advanced _ rfl row _
  have hready : (exampleTransformer inputs (.advanced config)).transformCollecting config row
      ⟨⟨.ready entries gate, w⟩, sink⟩ = _ := transformCollecting_ready _ config entries gate row w sink
  simp only [show ((exampleTransformer inputs (.advanced config)).collectingCall entries gate row w) =
    call from rfl, houtcome, hrefused] at hready
  rw [hresult, hready]
  refine ⟨rfl, ?_⟩
  rw [← hdelivered]
  exact KeepsRows.rows_putRows _ _

end Records

/-! ### Every state -/

theorem settled_after {τ : Type} [RowSink τ] (hinputs : inputs ≠ [])
    (hnames : ∀ c ∈ inputs, c.name ≠ "") (ops : List Operation) {p : Pipeline Unit ScriptInstance τ}
    (h : Settled (exampleTransformer inputs variant) p.lifecycle) :
    Settled (exampleTransformer inputs variant)
      ((exampleTransformer inputs variant).after ops p).lifecycle := by
  induction ops generalizing p with
  | nil => exact h
  | cons op rest ih =>
    have turns := (exampleTransformer inputs variant).turns_perform op p
    exact ih ⟨turns.suits h.suits, turns.hooked h.hooked,
      turns.runs rfl (source_example hinputs hnames) (ofSource?_example _) h.runs⟩

/-- What a transformer without code of its own does in a state. -/
structure Exemplary {τ : Type} [KeepsRows τ] (inputs : List InputColumn) (variant : Variant)
    (p : Pipeline Unit ScriptInstance τ) : Prop where
  loads : ¬ p.lifecycle.isReady → ((exampleTransformer inputs variant).load p).1 = .ok () ∧
    ((exampleTransformer inputs variant).load p).2.lifecycle.isReady
  closes : p.lifecycle.isReady → ((exampleTransformer inputs variant).close p).1 = .ok ()
  /-- A standard one writes the record. -/
  writes : ∀ concurrent, variant = .standard concurrent → p.lifecycle.isReady → ∀ row,
    ((exampleTransformer inputs variant).transform row p).1 =
      .ok (some [some (ValueMap.text (toValueMap inputs row))])
  /-- An advanced one emits a row for each name. -/
  emits : ∀ config, variant = .advanced config → config.outputFields = 2 →
    config.emitReturned = false → p.lifecycle.isReady → ∀ row,
      ((exampleTransformer inputs variant).transform row p).1 = .ok none ∧
      KeepsRows.rows ((exampleTransformer inputs variant).transform row p).2.sink =
        KeepsRows.rows p.sink ++
          (columnNames inputs).map fun name => [some name, outputField (row.get name)]
  /-- A simple one greets by the first column with a name in its name. -/
  greets : variant = .simple → p.lifecycle.isReady → ∀ row name s,
    (columnNames inputs).find? mentionsName = some name → row.get name = .string s →
      ((exampleTransformer inputs variant).transform row p).1 = .ok (some [some ("Hello " ++ s)])
  greets_nobody : variant = .simple → p.lifecycle.isReady →
    (∀ c ∈ inputs, ¬ mentionsName c.name) → ∀ row,
      ((exampleTransformer inputs variant).transform row p).1 = .ok (some [some "Hello"])

theorem defines_example :
    (ScriptUnit.mk (exampleProgram variant.kind) {}).defines
      (exampleTransformer inputs variant).host.entry = true := by
  have defined : (ScriptUnit.mk (exampleProgram .simple) {}).defines .transform = true ∧
      (ScriptUnit.mk (exampleProgram .standard) {}).defines .transform = true ∧
      (ScriptUnit.mk (exampleProgram .advanced) {}).defines .transformCollecting = true := by
    decide +kernel
  cases variant with
  | simple => exact defined.1
  | standard concurrent => exact defined.2.1
  | advanced config => exact defined.2.2

theorem hooked_kind (h : (exampleTransformer inputs variant).host.hooks) : variant.kind ≠ .simple := by
  cases variant with
  | simple => cases h
  | standard concurrent => nofun
  | advanced config => nofun

theorem loads_settled {τ : Type} (hinputs : inputs ≠ []) (hnames : ∀ c ∈ inputs, c.name ≠ "")
    {p : Pipeline Unit ScriptInstance τ} (hidle : ¬ p.lifecycle.isReady) :
    ((exampleTransformer inputs variant).load p).1 = .ok () ∧
      ((exampleTransformer inputs variant).load p).2.lifecycle.isReady := by
  have hloads : (exampleTransformer inputs variant).host.Loads (exampleScript variant.kind)
      p.world :=
    loads_example (host_engine _) defines_example hooked_kind p.world
  have contract := (exampleTransformer inputs variant).host.loadContract p.toHosted
    (exampleScript variant.kind)
  rw [load, source_example hinputs hnames]
  exact ⟨(contract.ok_iff hidle).mpr hloads, (contract.ready_iff hidle).mpr hloads⟩

theorem close_settled {τ : Type} {p : Pipeline Unit ScriptInstance τ}
    (h : Settled (exampleTransformer inputs variant) p.lifecycle) (hready : p.lifecycle.isReady) :
    ((exampleTransformer inputs variant).close p).1 = .ok () := by
  obtain ⟨⟨life, w⟩, sink⟩ := p
  obtain ⟨entries, gate, rfl⟩ := Lifecycle.exists_of_isReady hready
  have contract := (exampleTransformer inputs variant).host.closeContract ⟨.ready entries gate, w⟩
  show ((exampleTransformer inputs variant).host.close ⟨.ready entries gate, w⟩).1 = .ok ()
  rcases hhook : (exampleTransformer inputs variant).host.hook? entries.closing with _ | hook
  · rw [contract.of_unhooked rfl hhook]
  · obtain ⟨hhooks, hclosing⟩ := hook?_eq_some hhook
    obtain rfl := h.hooked entries gate rfl hook hclosing
    rcases hcall : (exampleTransformer inputs variant).host.engine.call .exclusive .closing []
      gate.inst w with ⟨o, inst, w'⟩
    obtain rfl : o = .ok .null := by
      have hgives := closing_gives .exclusive w.scene (hooked_kind hhooks) (h.runs entries gate rfl)
      rw [host_engine] at hcall
      exact (congrArg Prod.fst hcall).symm.trans hgives
    rw [contract.of_hook rfl hhook hcall]
    rfl

/-- **The example scripts do what they say, whatever the columns and the records are.** In every state
that a run gets into, a transformer without code of its own that is not ready can be loaded, and one
that is ready can be closed and takes every record: it writes the record, or emits a row of name and
value for each distinct name, or greets, as its kind says. -/
theorem exemplary_after {τ : Type} [KeepsRows τ] (inputs : List InputColumn) (variant : Variant)
    (hinputs : inputs ≠ []) (hnames : ∀ c ∈ inputs, c.name ≠ "") (ops : List Operation)
    (w : World Unit) (sink : τ) :
    Exemplary inputs variant ((exampleTransformer inputs variant).after ops (.new w sink)) := by
  have settled : Settled (exampleTransformer inputs variant)
      ((exampleTransformer inputs variant).after ops (.new w sink)).lifecycle :=
    settled_after hinputs hnames ops ⟨by rintro _ _ ⟨⟩, by rintro _ _ ⟨⟩, by rintro _ _ ⟨⟩⟩
  generalize (exampleTransformer inputs variant).after ops (.new w sink) = p at settled
  have alive (hready : p.lifecycle.isReady) :
      ∃ entries gate, p = ⟨⟨.ready entries gate, p.world⟩, p.sink⟩ ∧
        entries.transform = (exampleTransformer inputs variant).host.entry ∧
        gate.inst.state.compiled = ⟨exampleProgram variant.kind, {}⟩ := by
    obtain ⟨⟨life, world⟩, sink⟩ := p
    obtain ⟨entries, gate, rfl⟩ := Lifecycle.exists_of_isReady hready
    exact ⟨entries, gate, rfl, (settled.suits entries gate rfl).1, settled.runs entries gate rfl⟩
  have single (hsimple : variant = .simple) (hready : p.lifecycle.isReady) (row : Row) :
      ((exampleTransformer inputs variant).transform row p).1 = .ok (some [some
        (((columnNames inputs).find? mentionsName).elim "Hello"
          (greeting (toValueMap inputs row)))]) := by
    subst hsimple
    obtain ⟨entries, gate, hp, hentry, hruns⟩ := alive hready
    rw [hp]
    refine transform_of_text (exampleTransformer inputs .simple) (by simp [exampleTransformer]) row
      _ ?_
    rw [hentry, ← keys_toValueMap inputs row]
    exact simple_gives _ _ hruns _
  refine ⟨loads_settled hinputs hnames, close_settled settled, ?_, ?_, ?_, ?_⟩
  · rintro concurrent rfl hready row
    obtain ⟨entries, gate, hp, hentry, hruns⟩ := alive hready
    rw [hp]
    refine transform_of_text (exampleTransformer inputs (.standard concurrent))
      (by simp [exampleTransformer]) row _ ?_
    rw [hentry]
    exact standard_gives _ _ hruns _
  · rintro config rfl hwidth hreturned hready row
    obtain ⟨entries, gate, hp, hentry, hruns⟩ := alive hready
    rw [hp]
    exact transform_emits hwidth hreturned hentry hruns row _
  · intro hsimple hready row name s hfirst hvalue
    have hgreeting : greeting (toValueMap inputs row) name = "Hello " ++ s := by
      rw [greeting, get_toValueMap row (List.mem_of_find?_eq_some hfirst), hvalue]
      rfl
    rw [single hsimple hready, hfirst, Option.elim, hgreeting]
  · intro hsimple hready hnobody row
    have hnone : (columnNames inputs).find? mentionsName = none := by
      rw [List.find?_eq_none]
      intro name hname
      obtain ⟨c, hc, rfl⟩ := mem_columnNames.mp hname
      exact hnobody c hc
    rw [single hsimple hready, hnone, Option.elim]

theorem Exemplary.greets_after_load {τ : Type} [KeepsRows τ] {p : Pipeline Unit ScriptInstance τ}
    (h : Exemplary inputs .simple p) (hidle : ¬ p.lifecycle.isReady)
    (loaded : Exemplary inputs .simple ((exampleTransformer inputs .simple).after [.load] p))
    (row : Row) {name s : String} (hfirst : (columnNames inputs).find? mentionsName = some name)
    (hvalue : row.get name = .string s) :
    ((exampleTransformer inputs .simple).transform row
      ((exampleTransformer inputs .simple).after [.load] p)).1 =
        .ok (some [some ("Hello " ++ s)]) := by
  refine loaded.greets rfl ?_ row name s hfirst hvalue
  show ((exampleTransformer inputs .simple).perform .load p).2.lifecycle.isReady
  rw [perform_load]
  exact (h.loads hidle).2

/-- A simple transformer of two columns, the second of which has a name in its name. -/
theorem exemplary_two_columns :
    let inputs : List InputColumn := [⟨"age", .integer⟩, ⟨"First name", .string⟩]
    let p : Pipeline Unit ScriptInstance RowBuffer :=
      (exampleTransformer inputs .simple).after [.load] (.new { engine := () } .empty)
    (inputs ≠ [] ∧ ∀ c ∈ inputs, c.name ≠ "") ∧ Exemplary inputs .simple p ∧
      ((exampleTransformer inputs .simple).transform
        ⟨[("First name", .string "Ada"), ("age", .int 36)]⟩ p).1 =
          .ok (some [some "Hello Ada"]) := by
  intro inputs p
  have hinputs : inputs ≠ [] := by decide
  have hnames : ∀ c ∈ inputs, c.name ≠ "" := by decide
  have new : Exemplary inputs .simple (.new { engine := () } RowBuffer.empty) :=
    exemplary_after inputs .simple hinputs hnames [] _ _
  have loaded : Exemplary inputs .simple p := exemplary_after inputs .simple hinputs hnames [.load] _ _
  have hfirst : (columnNames inputs).find? mentionsName = some "First name" := by decide +kernel
  exact ⟨⟨hinputs, hnames⟩, loaded,
    new.greets_after_load nofun loaded ⟨[("First name", .string "Ada"), ("age", .int 36)]⟩ hfirst rfl⟩

end Transformer

end RowScript
