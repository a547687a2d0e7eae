import Mathlib.Tactic.SplitIfs
import RowScript.Proofs.Crossing
import RowScript.Proofs.Delivery

/-!
# Ways to emit a row

A script emits a row by handing an array to its collector, by handing it the values one by one, or by
returning an array.

* The two kinds of call are one and the same: each counts as an operation, and if that is granted the
  record stands behind those that the collector had (`emission`). Only so many values fit into one
  call, and a call with more of them fails and emits nothing (`callMethod_overfull`). A run of such calls
  leaves its records in their order (`collectors_callEach`).
* What a script left in the collector of a record and what it gave are what the record emitted and
  returned (`collectingCall_runsTo`), and these decide which rows reach the sink (`Delivers`). A record
  that is fitted to the declared width is the row that a returned array gives under any policy, for
  returned rows have that width already (`outputRows_array`, `outputRows_arrays`).

`emission_alike` puts these together.
-/

namespace RowScript

namespace Script

open Attempt

/-! ### Calls that emit a record -/

/-- What a call does that emits a record. -/
def emission (env : Env) (pos : Position) (h : CollectorHandle) (values : List Value) (m : Machine) :
    Outcome Signal (Datum × Bool) × Machine × Datum :=
  match Run.tick env pos m with
  | (.ok (), m) =>
    (.ok (.unit, true), { m with collectors := m.collectors.put h values }, .collector h)
  | (.error s, m) => (.error s, m, .collector h)
  | (.aborted, m) => (.aborted, m, .collector h)

/-- A signal of a limit, which no script can handle. -/
def Signal.IsLimit (s : Signal) : Prop := ∃ f, s = .fault f ∧ f.cause.isCatchable = false

theorem tick_cases (env : Env) (pos : Position) (m : Machine) :
    Run.tick env pos m = (.ok (), m.spent 1) ∨
      ∃ s, s.IsLimit ∧ Run.tick env pos m = (.error s, m.spent 1) := by
  unfold Run.tick
  simp only
  split_ifs
  · exact .inr ⟨_, ⟨_, rfl, rfl⟩, rfl⟩
  · exact .inr ⟨_, ⟨_, rfl, rfl⟩, rfl⟩
  · exact .inl rfl

theorem checkSize_unit (env : Env) (pos : Position) (m : Machine) :
    Run.checkSize env .unit pos m = (.ok (), m) := by
  unfold Run.checkSize
  cases env.maxText with
  | none => rfl
  | some max => exact congrFun (if_neg (Nat.not_lt_zero max)) m

variable {env : Env} {h : CollectorHandle}

/-- The record is there if the operation was granted, and else nothing has been emitted. -/
theorem emission_cases (pos : Position) (values : List Value) (m : Machine) :
    (Run.tick env pos m = (.ok (), m.spent 1) ∧
      emission env pos h values m = (.ok (.unit, true),
        { m.spent 1 with collectors := m.collectors.put h values }, .collector h)) ∨
    ∃ s, Run.tick env pos m = (.error s, m.spent 1) ∧
      emission env pos h values m = (.error s, m.spent 1, .collector h) := by
  rcases tick_cases env pos m with htick | ⟨s, -, htick⟩
  · refine .inl ⟨htick, ?_⟩
    rw [emission, htick]
    rfl
  · refine .inr ⟨s, htick, ?_⟩
    rw [emission, htick]

theorem callBuiltin_emitting {name : String} {args vs : List Datum} {pos : Position}
    (hbuiltin : builtin? env name pos (.collector h) args =
      some (emit h vs >>= fun _ => pure ⟨.unit, .collector h⟩)) (m : Machine) :
    (callBuiltin env name args pos >>= fun d => pure (d, true)) (m, .collector h) =
      emission env pos h (Datum.itemValues vs) m := by
  rcases emission_cases pos (Datum.itemValues vs) m with ⟨htick, hemission⟩ | ⟨s, htick, hemission⟩
  · rw [hemission]
    exact bind_apply_of_ok (callBuiltin_replies htick hbuiltin rfl (checkSize_unit env pos _))
  · rw [hemission]
    exact bind_apply_of_error (bind_apply_of_error (lift_apply_of (.collector h) htick))

theorem callMethod_putRow (hscript : env.script.function? "put_row" 1 = none) (vs : List Datum)
    (pos : Position) (m : Machine) :
    callMethod env "put_row" [.array vs] pos (m, .collector h) =
      emission env pos h (Datum.itemValues vs) m := by
  rw [callMethod_builtin (by decide) rfl hscript]
  exact callBuiltin_emitting rfl m

theorem basicBuiltin?_putValues (vs : List Datum) (pos : Position) :
    basicBuiltin? "put_values" pos (.collector h) vs =
      if vs.length ≤ maxEmitted then some (emit h vs >>= fun _ => pure ⟨.unit, .collector h⟩)
      else none := by
  cases vs <;> rfl

theorem builtin?_putValues (vs : List Datum) (pos : Position) :
    builtin? env "put_values" pos (.collector h) vs =
      if vs.length ≤ maxEmitted then some (emit h vs >>= fun _ => pure ⟨.unit, .collector h⟩)
      else none := by
  unfold builtin?
  rw [basicBuiltin?_putValues]
  by_cases hfits : vs.length ≤ maxEmitted
  · rw [if_pos hfits]
  · rw [if_neg hfits]

theorem callMethod_putValues {vs : List Datum} (hfits : vs.length ≤ maxEmitted)
    (hscript : env.script.function? "put_values" vs.length = none) (pos : Position) (m : Machine) :
    callMethod env "put_values" vs pos (m, .collector h) =
      emission env pos h (Datum.itemValues vs) m := by
  rw [callMethod_builtin (by decide) rfl hscript]
  exact callBuiltin_emitting (by rw [builtin?_putValues, if_pos hfits]) m

theorem callMethod_overfull {vs : List Datum} (hover : maxEmitted < vs.length)
    (hscript : env.script.function? "put_values" vs.length = none) (pos : Position) (m : Machine) :
    ∃ s, callMethod env "put_values" vs pos (m, .collector h) =
      (.error s, m.spent 1, .collector h) := by
  have hnone : builtin? env "put_values" pos (.collector h) vs = none := by
    rw [builtin?_putValues, if_neg (Nat.not_le.mpr hover)]
  rw [callMethod_builtin (by decide) rfl hscript]
  rcases tick_cases env pos m with htick | ⟨s, -, htick⟩
  · have hself : RunOn.self (m.spent 1, Datum.collector h) =
        (.ok (.collector h), m.spent 1, .collector h) := rfl
    let fault : Fault :=
      { cause := .functionNotFound (Datum.signature "put_values" (.collector h :: vs)), pos }
    refine ⟨.fault fault, bind_apply_of_error ?_⟩
    rw [callBuiltin, bind_apply_of_ok (lift_apply_of (.collector h) htick), bind_apply_of_ok hself,
      hnone]
    rfl
  · exact ⟨s, bind_apply_of_error (bind_apply_of_error (lift_apply_of (.collector h) htick))⟩

/-! ### One call after the other -/

/-- Call a method once with each list of arguments. -/
def callEach (env : Env) (name : String) (pos : Position) : List (List Datum) → RunOn Unit
  | [] => pure ()
  | args :: rest => do
    let _ ← callMethod env name args pos
    callEach env name pos rest

theorem collectors_callEach {α : Type} {name : String} {pos : Position} {args : α → List Datum}
    {values : α → List Value} {xs : List α}
    (hcalls : ∀ x ∈ xs, ∀ m, callMethod env name (args x) pos (m, .collector h) =
      emission env pos h (values x) m) {m m' : Machine} {self : Datum}
    (hok : callEach env name pos (xs.map args) (m, .collector h) = (.ok (), m', self)) :
    m'.collectors = m.collectors.putAll (xs.map fun x => (h, values x)) := by
  induction xs generalizing m with
  | nil =>
    cases hok
    rfl
  | cons x rest ih =>
    obtain ⟨hx, hrest⟩ := List.forall_mem_cons.mp hcalls
    rw [List.map_cons, callEach, bind_eq_ok] at hok
    obtain ⟨d, ⟨between, self'⟩, hcall, hok⟩ := hok
    rw [hx] at hcall
    rcases emission_cases pos (values x) m with ⟨-, hemission⟩ | ⟨s, -, hemission⟩
    · rw [hemission] at hcall
      cases hcall
      rw [ih hrest hok]
      rfl
    · rw [hemission] at hcall
      cases hcall

/-- How the calls relate that a script can make to emit through a handle. Where the script declares a
method of the same name and number of parameters, that is called instead. -/
structure EmitsAlike (env : Env) (pos : Position) (h : CollectorHandle) : Prop where
  agree : ∀ (vs : List Datum) (m : Machine), env.script.function? "put_row" 1 = none →
    env.script.function? "put_values" vs.length = none → vs.length ≤ maxEmitted →
    callMethod env "put_values" vs pos (m, .collector h) =
      callMethod env "put_row" [.array vs] pos (m, .collector h)
  /-- Where the operation is granted, there is one record more, and in this collector only. -/
  granted : ∀ (vs : List Datum) (m : Machine), env.script.function? "put_row" 1 = none →
    Run.tick env pos m = (.ok (), m.spent 1) → m.collectors.Made h →
    ∃ m', callMethod env "put_row" [.array vs] pos (m, .collector h) =
        (.ok (.unit, true), m', .collector h) ∧
      m'.collectors.rows h = m.collectors.rows h ++ [Datum.itemValues vs] ∧
      ∀ k, h ≠ k → m'.collectors.rows k = m.collectors.rows k
  /-- Where it is not granted, nothing is emitted. -/
  refused : ∀ (vs : List Datum) (m : Machine) (s : Signal), env.script.function? "put_row" 1 = none →
    Run.tick env pos m = (.error s, m.spent 1) →
    callMethod env "put_row" [.array vs] pos (m, .collector h) = (.error s, m.spent 1, .collector h)
  overfull : ∀ (vs : List Datum) (m : Machine), env.script.function? "put_values" vs.length = none →
    maxEmitted < vs.length → ∃ s m',
      callMethod env "put_values" vs pos (m, .collector h) = (.error s, m', .collector h) ∧
      m'.collectors = m.collectors
  in_order : ∀ (rows : List (List Datum)) (m m' : Machine) (self : Datum),
    env.script.function? "put_row" 1 = none →
    callEach env "put_row" pos (rows.map fun vs => [.array vs]) (m, .collector h) =
      (.ok (), m', self) →
    m'.collectors = m.collectors.putAll (rows.map fun vs => (h, Datum.itemValues vs))

theorem emitsAlike (env : Env) (pos : Position) (h : CollectorHandle) : EmitsAlike env pos h where
  agree vs m hrow hvalues hfits := by
    rw [callMethod_putRow hrow, callMethod_putValues hfits hvalues]
  granted vs m hrow htick hmade := by
    refine ⟨{ m.spent 1 with collectors := m.collectors.put h (Datum.itemValues vs) }, ?_,
      Collectors.rows_put_self hmade _, fun k hk => Collectors.rows_put_of_ne hk _ _⟩
    rw [callMethod_putRow hrow, emission, htick]
    rfl
  refused vs m s hrow htick := by
    rw [callMethod_putRow hrow, emission, htick]
  overfull vs m hvalues hover := by
    obtain ⟨s, hcall⟩ := callMethod_overfull (h := h) hover hvalues pos m
    exact ⟨s, m.spent 1, hcall, rfl⟩
  in_order rows m m' self hrow hok := by
    exact collectors_callEach (fun vs _ => callMethod_putRow hrow vs pos) hok

/-! ### Calls for a record -/

theorem rows_putAll_self {cs : Collectors} {h : CollectorHandle} (hmade : cs.Made h)
    (emitted : List (List Value)) :
    (cs.putAll (emitted.map (h, ·))).rows h = cs.rows h ++ emitted := by
  rw [Collectors.rows_putAll _ _ hmade, List.filter_eq_self.mpr (by simp), List.map_map]
  exact congrArg _ (List.map_id _)

/-- Called for a record, the transforming function of a loaded script gives this value and leaves this
machine. -/
def RunsTo (inputs : List InputColumn) (entries : EntryPoints) (gate : Gate ScriptInstance) (row : Row)
    (w : World Unit) (d : Datum) (m : Machine) : Prop :=
  let (handle, collectors) := w.collectors.fresh
  let i := gate.inst.state
  ∃ f, i.compiled.script.function? entries.transform.name 2 = some f ∧
    ∃ o, (o = .ok d ∨ o = .error (.give d)) ∧
      runAll i.compiled.env f.body (.entering { w.scene with collectors } f
        [.values (toValueMap inputs row), .collector handle] i) = (o, m)

/-- What the function left in the collector that it was given is emitted, and its value is returned. -/
theorem collectingCall_runsTo {limits : Limits} {example? : Kind → Option String}
    {config : TransformerConfig} {entries : EntryPoints} {gate : Gate ScriptInstance} {row : Row}
    {w : World Unit} {d : Datum} {m : Machine} (h : RunsTo config.inputs entries gate row w d m) :
    let t : Transformer Unit ScriptUnit ScriptInstance := ⟨scriptEngine limits example?, config⟩
    let call := t.collectingCall entries gate row w
    call.outcome = .ok d.toValue ∧ call.emitted = m.collectors.rows call.handle := by
  intro t call
  obtain ⟨f, found, o, hgives, hrun⟩ := h
  have hcall : t.engine.runEntry gate.policy.access entries.transform
      [.values (toValueMap config.inputs row), .collector w.collectors.fresh.1] gate.inst.state
      ({ w with collectors := w.collectors.fresh.2 } : World Unit).scene = _ :=
    runEntry_gives gate.policy.access found hrun hgives
  have houtcome : call.outcome = .ok d.toValue := congrArg Prod.fst hcall
  have hcollectors : call.world.collectors = m.collectors :=
    congrArg (fun r => r.2.2.collectors) hcall
  exact ⟨houtcome, congrArg (·.rows call.handle) hcollectors⟩

/-- A script whose transforming function is one expression. -/
def Program.collecting (e : Expr) : Program := .giving "transform" ["map", "output"] e

/-- `output.method(args)` -/
def Expr.emitting (method : String) (args : List Literal) (pos : Position) : Expr :=
  .chain (.var "output" pos) [.method method (args.map (.lit · pos)) false pos pos]

/-- A script of one expression that is loaded and under no limits. -/
def loadedWith (e : Expr) : Gate ScriptInstance :=
  ⟨.exclusive, 0, { compiled := ⟨.collecting e, {}⟩ }⟩

theorem runsTo_expr {e : Expr} {d : Datum} {emitted : List (List Value)} (plain : isCall e = false)
    (heval : ∀ (m : Machine) (h : CollectorHandle),
      m.scope.find? (·.name == "output") = some ⟨"output", .collector h, false⟩ →
      ∃ m', eval (ScriptUnit.mk (.collecting e) {}).env e m = (.ok d, m') ∧
        m'.collectors = m.collectors.putAll (emitted.map (h, ·))) (row : Row) (w : World Unit) :
    ∃ m, RunsTo [] ⟨none, .transformCollecting, none⟩ (loadedWith e) row w d m ∧
      m.collectors.rows w.collectors.fresh.1 = emitted := by
  let f : Function := ⟨"transform", ["map", "output"], [.expr e]⟩
  let i : ScriptInstance := (loadedWith e).inst.state
  let start : Machine := .entering { w.scene with collectors := w.collectors.fresh.2 } f
    [.values (toValueMap [] row), .collector w.collectors.fresh.1] i
  have free : i.compiled.env.Unlimited := unlimited_env (.collecting e)
  obtain ⟨m, hvalue, hputs⟩ := heval ((start.spent 1).spent 1) w.collectors.fresh.1 rfl
  have hrun : runAll i.compiled.env f.body start = (.ok d, m) :=
    (runAll_expr free plain _).trans hvalue
  have hrows := rows_putAll_self (Collectors.made_fresh w.collectors) emitted
  rw [Collectors.rows_fresh, List.nil_append] at hrows
  refine ⟨m, ⟨f, rfl, .ok d, .inl rfl, hrun⟩, ?_⟩
  rw [hputs]
  exact hrows

section Literals

variable (free : env.Unlimited)
include free

theorem evalAll_literals (args : List Literal) (pos : Position) (m : Machine) :
    evalAll env (args.map (.lit · pos)) m =
      (.ok (args.map Literal.datum), m.spent args.length) := by
  induction args generalizing m with
  | nil => rfl
  | cons l rest ih =>
    have hl : counted env pos (eval env (.lit l pos)) m = (.ok l.datum, m.spent 1) := by
      rw [counted_unlimited free, eval]
      rfl
    refine evalAll_cons hl ?_
    rw [ih, Machine.spent_spent, List.length_cons, Nat.add_comm]

theorem eval_emitting {m : Machine} {method : String} {args : List Literal} {values : List Value}
    {pos : Position}
    (hscope : m.scope.find? (·.name == "output") = some ⟨"output", .collector h, false⟩)
    (hargs : args ≠ []) (hcall : ∀ m, callMethod env method (args.map Literal.datum) pos
      (m, .collector h) = emission env pos h values m) :
    ∃ m', eval env (.emitting method args pos) m = (.ok .unit, m') ∧
      m'.collectors = m.collectors.putAll ([values].map (h, ·)) := by
  let start : Machine := (m.spent 1).spent args.length
  have hdirect : isDirect [.method method (args.map (.lit · pos)) false pos pos] = false := by
    cases args with
    | nil => exact absurd rfl hargs
    | cons l rest => rfl
  have hlinks : evalLinks env (isDirect [.method method (args.map (.lit · pos)) false pos pos])
      [.method method (args.map (.lit · pos)) false pos pos] m =
        (.ok [.method method (args.map Literal.datum) false pos pos], start) := by
    rw [hdirect]
    exact evalLinks_method free (evalAll_literals free args pos _) rfl
  have hemits : callMethod env method (args.map Literal.datum) pos (start.spent 1, .collector h) =
      (.ok (.unit, true), { (start.spent 1).spent 1 with collectors := m.collectors.put h values },
        .collector h) := by
    rw [hcall, emission, tick_unlimited free]
    rfl
  have hwalk : walkVariable env "output" pos
      [.method method (args.map Literal.datum) false pos pos] none start = _ :=
    walkVariable_apply (m := start) free hscope (by simp) (walk_method hemits) rfl pos
  exact ⟨_, by rw [Expr.emitting, eval_chain hlinks, hwalk], rfl⟩

end Literals

/-! ### Rows of what was emitted and returned -/

/-- The row of a record that is fitted to a width. -/
def fittedRow (width : Nat) (vs : List Datum) : OutputRow :=
  fitRow width ((Datum.itemValues vs).map outputField)

theorem isSome_asArray?_toValue (d : Datum) :
    d.toValue.asArray?.isSome = true ↔ ∃ xs, d = .array xs := by
  cases d <;> simp [Datum.toValue, Value.asArray?]

theorem outputRows_array {vs : List Datum} (h : ¬ (vs ≠ [] ∧ ∀ d ∈ vs, ∃ xs, d = .array xs))
    (width : Nat) : outputRows width (Datum.array vs).toValue = [fittedRow width vs] := by
  have hnested : ¬ (!(Datum.itemValues vs).isEmpty &&
      (Datum.itemValues vs).all fun v => v.asArray?.isSome) = true := by
    rw [Datum.itemValues_eq_map]
    simpa [isSome_asArray?_toValue] using h
  rw [Datum.toValue, outputRows, if_neg hnested]
  rfl

theorem outputRows_arrays {rows : List (List Datum)} (h : rows ≠ []) (width : Nat) :
    outputRows width (Datum.array (rows.map .array)).toValue = rows.map (fittedRow width) := by
  have hvalues : Datum.itemValues (rows.map .array) =
      rows.map fun vs => .array (Datum.itemValues vs) := by
    rw [Datum.itemValues_eq_map, List.map_map]
    exact List.map_congr_left fun vs _ => by rw [Function.comp, Datum.toValue]
  have hnested : (!(Datum.itemValues (rows.map .array)).isEmpty &&
      (Datum.itemValues (rows.map .array)).all fun v => v.asArray?.isSome) = true := by
    simp [hvalues, Value.asArray?, h]
  rw [Datum.toValue, outputRows, if_pos hnested, hvalues, List.map_map]
  rfl

end Script

namespace AdvancedConfig

open Script

variable (config : AdvancedConfig)

/-- A row whose script emits these records into its collector and returns that value succeeds, and
these rows come to the sink, behind those that were there. -/
def Delivers (emitted : List (List Value)) (returned : Value) (rows : List OutputRow) : Prop :=
  ∀ (σ υ ι τ : Type) [KeepsRows τ] (t : Transformer σ υ ι) (entries : EntryPoints) (gate : Gate ι)
    (row : Row) (w : World σ) (sink : τ), t.config.variant = .advanced config →
    let call := t.collectingCall entries gate row w
    let result := t.transform row ⟨⟨.ready entries gate, w⟩, sink⟩
    call.outcome = .ok returned → call.emitted = emitted →
    result.1 = .ok none ∧ KeepsRows.rows result.2.sink = KeepsRows.rows sink ++ rows

variable {config}

theorem delivers_delivered {emitted : List (List Value)} (hpass : config.refused? emitted = none)
    (returned : Value) : config.Delivers emitted returned (config.delivered emitted returned) := by
  intro σ υ ι τ _ t entries gate row w sink hvariant call result hreturned hemitted
  have hresult : result = (.ok none, ⟨⟨.ready entries call.gate,
      Transformer.collected config call returned⟩,
      RowSink.putRows sink (config.delivered emitted returned)⟩) := by
    have hready := t.transformCollecting_ready config entries gate row w sink
    simp only [show (t.collectingCall entries gate row w).outcome = .ok returned from hreturned,
      show (t.collectingCall entries gate row w).emitted = emitted from hemitted, hpass] at hready
    show t.transform row _ = _
    rw [t.transform_of_advanced hvariant, hready]
    rfl
  rw [hresult]
  exact ⟨rfl, KeepsRows.rows_putRows _ _⟩

theorem delivers_emitted (hshape : config.shape = .fit) {returned : Value}
    (hreturned : config.emitReturned = true → returned = .null) (rows : List (List Datum)) :
    config.Delivers (rows.map Datum.itemValues) returned (rows.map (fittedRow config.width)) := by
  have hpass : config.refused? (rows.map Datum.itemValues) = none := by
    simp only [refused?, hshape]
  have hnothing : (if config.emitReturned then outputRows config.width returned else []) = [] := by
    split_ifs with hemits
    · rw [hreturned hemits, outputRows]
    · rfl
  have hdelivered : config.delivered (rows.map Datum.itemValues) returned =
      rows.map (fittedRow config.width) := by
    rw [delivered, hnothing, hshape, List.append_nil, List.map_map]
    rfl
  rw [← hdelivered]
  exact delivers_delivered hpass returned

theorem delivers_returned (hreturned : config.emitReturned = true) (returned : Value) :
    config.Delivers [] returned (outputRows config.width returned) := by
  have hpass : config.refused? [] = none := by
    cases hshape : config.shape <;> simp [refused?, hshape]
  have hdelivered : config.delivered [] returned = outputRows config.width returned := by
    simp [delivered, hreturned]
  rw [← hdelivered]
  exact delivers_delivered hpass returned

end AdvancedConfig

open Script

/-- **The ways to emit a row agree.** In every environment the two kinds of calls emit the same record
or fail alike, and a call with too many values emits nothing. What a script emitted into the collector of
a record and what it gave is what the record delivers: records that are emitted under `fit` come to the
sink as the rows that a returned array gives under any policy, which is one row for an array that does
not consist of arrays and else a row for each of them. Unit gives no row. -/
theorem emission_alike :
    (∀ (env : Env) (pos : Position) (h : CollectorHandle), EmitsAlike env pos h) ∧
    (∀ (limits : Limits) (example? : Kind → Option String) (config : TransformerConfig)
      (entries : EntryPoints) (gate : Gate ScriptInstance) (row : Row) (w : World Unit) (d : Datum)
      (m : Machine), RunsTo config.inputs entries gate row w d m →
      let t : Transformer Unit ScriptUnit ScriptInstance := ⟨scriptEngine limits example?, config⟩
      let call := t.collectingCall entries gate row w
      call.outcome = .ok d.toValue ∧ call.emitted = m.collectors.rows call.handle) ∧
    ∀ emitting returning : AdvancedConfig, emitting.shape = .fit → returning.emitReturned = true →
      emitting.outputFields = returning.outputFields →
      (∀ (rows : List (List Datum)) (returned : Value),
        (emitting.emitReturned = true → returned = .null) →
        emitting.Delivers (rows.map Datum.itemValues) returned
          (rows.map (fittedRow emitting.width))) ∧
      (∀ vs : List Datum, ¬ (vs ≠ [] ∧ ∀ d ∈ vs, ∃ xs, d = .array xs) →
        returning.Delivers [] (Datum.array vs).toValue [fittedRow emitting.width vs]) ∧
      (∀ rows : List (List Datum), rows ≠ [] →
        returning.Delivers [] (Datum.array (rows.map .array)).toValue
          (rows.map (fittedRow emitting.width))) ∧
      returning.Delivers [] Datum.unit.toValue [] := by
  refine ⟨emitsAlike, fun _ _ _ _ _ _ _ _ _ hruns => collectingCall_runsTo hruns,
    fun emitting returning hshape hreturned hfields => ?_⟩
  have hwidth : emitting.width = returning.width := congrArg UInt64.toNat hfields
  rw [hwidth]
  refine ⟨fun rows returned hnothing => ?_, fun vs hplain => ?_, fun rows hrows => ?_, ?_⟩
  · rw [← hwidth]
    exact AdvancedConfig.delivers_emitted hshape hnothing rows
  · rw [← outputRows_array hplain]
    exact AdvancedConfig.delivers_returned hreturned _
  · rw [← outputRows_arrays hrows]
    exact AdvancedConfig.delivers_returned hreturned _
  · exact AdvancedConfig.delivers_returned hreturned .null

/-- The rows of one record of a loaded script that is one expression. -/
def sentBy (config : AdvancedConfig) (e : Expr) : List OutputRow :=
  let t : Transformer Unit ScriptUnit ScriptInstance :=
    ⟨scriptEngine {} fun _ => none, [], none, .advanced config⟩
  (t.transform .empty ⟨⟨.ready ⟨none, .transformCollecting, none⟩ (loadedWith e), { engine := () }⟩,
    RowBuffer.empty⟩).2.sink.rows

/-- Two values for three columns, in each of the ways; then what an array of arrays and unit give; and
of the calls, one that emits the values into an empty collector and one with a value too many. -/
theorem emission_of_two :
    let emitting : AdvancedConfig := { outputFields := 3, shape := .fit }
    let returning : AdvancedConfig := { outputFields := 3, emitReturned := true }
    let two : List Literal := [.int 1, .string "a"]
    let pos : Position := ⟨1, 1⟩
    sentBy emitting (.emitting "put_values" two pos) = [[some "1", some "a", none]] ∧
    sentBy emitting (.emitting "put_row" [.array two] pos) = [[some "1", some "a", none]] ∧
    sentBy returning (.lit (.array two) pos) = [[some "1", some "a", none]] ∧
    sentBy returning (.lit (.array [.array two, .array []]) pos) =
      [[some "1", some "a", none], [none, none, none]] ∧
    sentBy returning (.lit .unit pos) = [] ∧
    (∃ m', callMethod (ScriptUnit.mk ⟨[], []⟩ {}).env "put_row" [.array (two.map Literal.datum)] pos
      ({ collectors := Collectors.empty.fresh.2 }, .collector ⟨0⟩) =
        (.ok (.unit, true), m', .collector ⟨0⟩) ∧
      m'.collectors.rows ⟨0⟩ = [[.int 1, .string "a"]]) ∧
    ∃ s m', callMethod (ScriptUnit.mk ⟨[], []⟩ {}).env "put_values" (List.replicate 16 .unit) pos
      ({}, .collector ⟨0⟩) = (.error s, m', .collector ⟨0⟩) ∧ m'.collectors = .empty := by
  intro emitting returning two pos
  obtain ⟨hcalls, hran, hways⟩ := emission_alike
  obtain ⟨hemits, harray, harrays, hunit⟩ := hways emitting returning rfl rfl rfl
  have hsent {config : AdvancedConfig} {e : Expr} {d : Datum} {emitted : List (List Value)}
      {rows : List OutputRow} (hdelivers : config.Delivers emitted d.toValue rows)
      (plain : isCall e = false) (heval : ∀ (m : Machine) (h : CollectorHandle),
        m.scope.find? (·.name == "output") = some ⟨"output", .collector h, false⟩ →
        ∃ m', eval (ScriptUnit.mk (.collecting e) {}).env e m = (.ok d, m') ∧
          m'.collectors = m.collectors.putAll (emitted.map (h, ·))) : sentBy config e = rows := by
    obtain ⟨m, hruns, hrows⟩ := runsTo_expr plain heval .empty { engine := () }
    obtain ⟨houtcome, hemitted⟩ := hran {} (fun _ => none) ⟨[], none, .advanced config⟩ _ _ _ _ d m hruns
    exact (hdelivers _ _ _ RowBuffer _ _ _ _ _ _ rfl houtcome (hemitted.trans hrows)).2
  have htwo := hemits [[.int 1, .string "a"]] .null fun _ => rfl
  refine ⟨?_, ?_, ?_, ?_, ?_, ?_, ?_⟩
  · refine hsent (d := .unit) htwo rfl fun m h hscope => ?_
    have free := unlimited_env (.collecting (.emitting "put_values" two pos))
    exact eval_emitting free hscope (by simp [two]) fun m =>
      ((hcalls _ pos h).agree _ m rfl rfl (by decide)).trans (callMethod_putRow rfl _ pos m)
  · refine hsent (d := .unit) htwo rfl fun m h hscope => ?_
    have free := unlimited_env (.collecting (.emitting "put_row" [.array two] pos))
    exact eval_emitting free hscope (by simp) fun m => callMethod_putRow rfl _ pos m
  · exact hsent (harray [.int 1, .string "a"] (by simp)) rfl fun m h _ => ⟨m, by rw [eval]; rfl, rfl⟩
  · exact hsent (harrays [[.int 1, .string "a"], []] (by simp)) rfl fun m h _ =>
      ⟨m, by rw [eval]; rfl, rfl⟩
  · exact hsent (d := .unit) hunit rfl fun m h _ => ⟨m, by rw [eval]; rfl, rfl⟩
  · have free := unlimited_env ⟨[], []⟩
    obtain ⟨m', hcall, hrows, -⟩ := (hcalls _ pos ⟨0⟩).granted (two.map Literal.datum)
      { collectors := Collectors.empty.fresh.2 } rfl (tick_unlimited free pos _)
      (Collectors.made_fresh .empty)
    exact ⟨m', hcall, hrows⟩
  · exact (hcalls _ pos ⟨0⟩).overfull _ {} rfl (by decide)

end RowScript
