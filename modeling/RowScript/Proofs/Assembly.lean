import RowScript.Proofs.Canonical
import RowScript.Proofs.Columns
import RowScript.Proofs.Emission

/-!
# From object maps to rows

Scripts make object maps in the ways that `Making` tells apart: an object map that is written out has
its names set from last to first (`evalEntries_worth`), and one that is filled by assignments has them
set in the order of the assignments (`runAll_setsEntries`). What an expression is worth is told apart
from what it costs by `Worth`.

Of the value that a script gives, a field or rows are written (`Making.fills`, `Making.sends`). They
show the order that the names of an object map have, which is not the order in which they were set:
`Making.canonical`.
-/

namespace RowScript.Script

open Attempt

/-- An expression that is worth `d` where these are the variables, whatever it costs. -/
def Worth (env : Env) (scope : List Variable) (e : Expr) (d : Datum) : Prop :=
  ∀ m : Machine, m.scope = scope → ∃ n, counted env e.pos (eval env e) m = (.ok d, m.spent n)

/-- A link that reaches an entry of an object map, by index or by property, and the step that it is. -/
inductive Reaches (k : String) : Link → Step → Prop
  | index (p q : Position) :
    Reaches k (.index (.lit (.string k) p) false q) (.index (.string k) false p q)
  | property (p q : Position) : Reaches k (.property k false p q) (.property k false p q)

/-- A statement that sets an entry of the object map which the variable `x` holds: `x[k] = e` or
`x.k = e`. What the map holds already does not matter for the value that is set. -/
structure SetsEntry (env : Env) (x : String) (outer : List Variable) (s : Stmt)
    (entry : String × Datum) : Prop where
  assigns : ∃ (link : Link) (step : Step) (e : Expr) (p pos : Position),
    s = .assign none (.chain (.var x p) [link]) e pos ∧ Reaches entry.1 link step ∧
      ∀ es, Worth env (⟨x, .map es, false⟩ :: outer) e entry.2

section Expressions

variable {env : Env} (free : env.Unlimited) {scope : List Variable}
include free

theorem worth_of_eval {e : Expr} {d : Datum}
    (h : ∀ m : Machine, m.scope = scope → ∃ n, eval env e m = (.ok d, m.spent n)) :
    Worth env scope e d := by
  intro m hscope
  obtain ⟨n, hvalue⟩ := h (m.spent 1) hscope
  exact ⟨1 + n, by rw [counted_unlimited free, hvalue, Machine.spent_spent]⟩

theorem worth_lit (l : Literal) (pos : Position) : Worth env scope (.lit l pos) l.datum := by
  refine worth_of_eval free fun m _ => ⟨0, ?_⟩
  rw [eval]
  rfl

theorem worth_var {x : String} {d : Datum} {isConst : Bool}
    (h : scope.find? (·.name == x) = some ⟨x, d, isConst⟩) (plain : ∀ i, d ≠ .cell i)
    (pos : Position) : Worth env scope (.var x pos) d := by
  refine worth_of_eval free fun m hscope => ⟨0, ?_⟩
  rw [eval]
  exact lookup_apply (hscope ▸ h) plain pos

omit free in
theorem evalAll_worth {es : List Expr} {ds : List Datum} (h : List.Forall₂ (Worth env scope) es ds)
    {m : Machine} (hscope : m.scope = scope) : ∃ n, evalAll env es m = (.ok ds, m.spent n) := by
  induction h generalizing m with
  | nil => exact ⟨0, rfl⟩
  | cons hfirst _ ih =>
    obtain ⟨i, hvalue⟩ := hfirst m hscope
    obtain ⟨j, hrest⟩ := @ih (m.spent i) hscope
    exact ⟨i + j, by rw [evalAll_cons hvalue hrest, Machine.spent_spent]⟩

theorem worth_array {es : List Expr} {ds : List Datum} (h : List.Forall₂ (Worth env scope) es ds)
    (pos : Position) : Worth env scope (.array es pos) (.array ds) := by
  refine worth_of_eval free fun m hscope => ?_
  obtain ⟨n, hitems⟩ := evalAll_worth h hscope
  refine ⟨n, ?_⟩
  rw [eval, bind_apply_of_ok hitems, bind_apply_of_ok (checkSize_unlimited free _ pos _)]
  rfl

omit free in
theorem evalEntries_worth {entries : List (String × Expr)} {sets : List (String × Datum)}
    (h : List.Forall₂ (fun e p => e.1 = p.1 ∧ Worth env scope e.2 p.2) entries sets) {m : Machine}
    (hscope : m.scope = scope) :
    ∃ n, evalEntries env entries m = (.ok (Entries.setAll sets.reverse), m.spent n) := by
  induction h generalizing m with
  | nil => exact ⟨0, rfl⟩
  | @cons e p entries sets hfirst _ ih =>
    obtain ⟨k, e⟩ := e
    obtain ⟨rfl, hworth⟩ := hfirst
    obtain ⟨i, hvalue⟩ := hworth m hscope
    obtain ⟨j, hrest⟩ := @ih (m.spent i) hscope
    refine ⟨i + j, ?_⟩
    rw [evalEntries, bind_apply_of_ok hvalue, bind_apply_of_ok hrest, Machine.spent_spent,
      List.reverse_cons, Entries.setAll_concat]
    rfl

theorem worth_map {entries : List (String × Expr)} {sets : List (String × Datum)}
    (h : List.Forall₂ (fun e p => e.1 = p.1 ∧ Worth env scope e.2 p.2) entries sets)
    (pos : Position) :
    Worth env scope (.map entries pos) (.map (Entries.setAll sets.reverse)) := by
  refine worth_of_eval free fun m hscope => ?_
  obtain ⟨n, hentries⟩ := evalEntries_worth h hscope
  refine ⟨n, ?_⟩
  rw [eval, bind_apply_of_ok hentries, bind_apply_of_ok (checkSize_unlimited free _ pos _)]
  rfl

end Expressions

section Statements

variable {env : Env} (free : env.Unlimited)
include free

theorem setIndexed_map (es : ObjectMap) (k : String) (d : Datum) (pos argPos opPos : Position)
    (m : Machine) : setIndexed env ⟨none, d, pos⟩ (.string k) argPos opPos (m, .map es) =
      (.ok (), m.spent 1, .map (es.insertSorted k d)) := by
  rw [setIndexed, bind_apply_of_ok (lift_apply_of _ (tick_unlimited free opPos m))]
  rfl

theorem walk_reaches {k : String} {link : Link} {step : Step} (h : Reaches k link step)
    (es : ObjectMap) (d : Datum) (pos : Position) (m : Machine) :
    walk env (some ⟨none, d, pos⟩) [step] (m, .map es) =
      (.ok (.unit, true), m.spent 1, .map (es.insertSorted k d)) := by
  have hself : RunOn.self (m, Datum.map es) = (.ok (.map es), m, .map es) := rfl
  rw [walk, bind_apply_of_ok hself]
  cases h with
  | index p q =>
    refine mapError_apply_of _ (o := .ok (Datum.unit, true)) ?_
    simp only
    rw [bind_apply_of_ok (setIndexed_map free es k d pos p q m)]
    rfl
  | property p q =>
    have hset : setProperty env ⟨none, d, pos⟩ k p q (m, .map es) =
        (.ok (), m.spent 1, .map (es.insertSorted k d)) := by
      rw [setProperty, bind_apply_of_ok hself]
      exact setIndexed_map free es k d pos p q m
    refine mapError_apply_of _ (o := .ok (Datum.unit, true)) ?_
    simp only
    rw [bind_apply_of_ok hset]
    rfl

omit free in
theorem evalLinks_reaches {k : String} {link : Link} {step : Step} (h : Reaches k link step)
    (m : Machine) : evalLinks env (isDirect [link]) [link] m = (.ok [step], m) := by
  cases h with
  | index p q =>
    rw [evalLinks, evalLinks, evalLink, isDirect, if_pos rfl, eval]
    rfl
  | property p q =>
    rw [evalLinks, evalLinks, evalLink]
    rfl

/-- The machine in which the variable `x`, the innermost one, holds this object map. -/
def Machine.holding (m : Machine) (x : String) (es : ObjectMap)
    (outer : List Variable) : Machine :=
  { m with scope := ⟨x, .map es, false⟩ :: outer }

theorem walkVariable_reaches {x : String} {outer : List Variable} {es : ObjectMap} {m : Machine}
    (hscope : m.scope = ⟨x, .map es, false⟩ :: outer) {k : String} {link : Link} {step : Step}
    (h : Reaches k link step) (d : Datum) (p pos : Position) :
    walkVariable env x p [step] (some ⟨none, d, pos⟩) m =
      (.ok .unit, (m.spent 2).holding x (es.insertSorted k d) outer) := by
  have hfirst : (m.spent 1).scope.find? (·.name == x) = some ⟨x, .map es, false⟩ := by
    simp [hscope]
  have hlookup := lookup_apply hfirst (by simp) p
  have hfind : Run.find? x (m.spent 1) = (.ok (some ⟨x, .map es, false⟩), m.spent 1) := by
    rw [Run.find?, bind_apply_of_ok read_apply, hfirst]
    rfl
  have hassign := assignVariable_apply (m := (m.spent 1).spent 1) hfirst (by simp)
    (.map (es.insertSorted k d))
  rw [Machine.scope_spent, Machine.scope_spent, hscope, Run.replaceIn, if_pos (by simp)] at hassign
  have hon : Run.onVariable x (.map es) (walk env (some ⟨none, d, pos⟩) [step]) (m.spent 1) =
      (.ok (.unit, true), (m.spent 2).holding x (es.insertSorted k d) outer) := by
    rw [Run.onVariable, walk_reaches free h]
    simp only [hassign]
    rfl
  rw [walkVariable, bind_apply_of_ok (tick_unlimited free p m), bind_apply_of_ok hlookup,
    bind_apply_of_ok hfind]
  exact bind_apply_of_ok hon

theorem run_setsEntry {x : String} {outer : List Variable} {s : Stmt} {entry : String × Datum}
    (h : SetsEntry env x outer s entry) {m : Machine} {es : ObjectMap}
    (hscope : m.scope = ⟨x, .map es, false⟩ :: outer) :
    ∃ n, counted env s.pos (run env s) m =
      (.ok .unit, (m.spent n).holding x (es.insertSorted entry.1 entry.2) outer) := by
  obtain ⟨link, step, e, p, pos, rfl, hreaches, hworth⟩ := h.assigns
  obtain ⟨n, hvalue⟩ := hworth es (m.spent 1) hscope
  have hwalk := walkVariable_reaches free (m := (m.spent 1).spent n) hscope hreaches entry.2 p pos
  refine ⟨1 + n + 2, ?_⟩
  rw [counted_unlimited free, run, bind_apply_of_ok hvalue]
  simp only
  rw [bind_apply_of_ok (evalLinks_reaches hreaches _), bind_apply_of_ok hwalk]
  simp only [Machine.spent_spent]
  rfl

omit free in
theorem runAll_more {s : Stmt} {rest : List Stmt} (hrest : rest ≠ []) {d : Datum} {m m' : Machine}
    (h : counted env s.pos (run env s) m = (.ok d, m')) :
    runAll env (s :: rest) m = runAll env rest m' := by
  cases rest with
  | nil => exact absurd rfl hrest
  | cons s' rest =>
    rw [runAll]
    · exact bind_apply_of_ok h
    · simp

theorem runAll_setsEntries {x : String} {outer : List Variable} {stmts : List Stmt}
    {sets : List (String × Datum)} (h : List.Forall₂ (SetsEntry env x outer) stmts sets)
    {rest : List Stmt} (hrest : rest ≠ []) (m : Machine) (es : ObjectMap) :
    ∃ n, runAll env (stmts ++ rest) (m.holding x es outer) = runAll env rest ((m.spent n).holding x
      (sets.foldl (fun es p => es.insertSorted p.1 p.2) es) outer) := by
  induction h generalizing m es with
  | nil => exact ⟨0, rfl⟩
  | @cons s p stmts sets hfirst _ ih =>
    obtain ⟨i, hrun⟩ := run_setsEntry free hfirst (m := m.holding x es outer) rfl
    obtain ⟨j, hmore⟩ := ih (m.spent i) (es.insertSorted p.1 p.2)
    rw [Machine.spent_spent] at hmore
    exact ⟨i + j, (runAll_more (by simp [hrest]) hrun).trans hmore⟩

/-- A function body that declares an object map, sets entries of it and gives it. -/
theorem runAll_making {x : String} {m : Machine} {stmts : List Stmt} {sets : List (String × Datum)}
    (h : List.Forall₂ (SetsEntry env x m.scope) stmts sets) (p q r : Position) :
    ∃ m', runAll env (.declare x (some (.map [] p)) false q :: (stmts ++ [.expr (.var x r)])) m =
      (.ok (.map (Entries.setAll sets)), m') ∧ m'.collectors = m.collectors := by
  have hempty : Worth env m.scope (.map [] p) (.map []) := worth_map free .nil p
  obtain ⟨i, hinit⟩ := hempty (m.spent 1) rfl
  have hdeclare : counted env q (run env (.declare x (some (.map [] p)) false q)) m =
      (.ok .unit, ((m.spent 1).spent i).holding x [] m.scope) := by
    have hvalue :
        evalIf env (some (.map [] p)) (m.spent 1) = (.ok (.map []), (m.spent 1).spent i) := by
      rw [evalIf]
      exact hinit
    rw [counted_unlimited free, run, bind_apply_of_ok hvalue]
    rfl
  have hmore : [Stmt.expr (.var x r)] ≠ [] := by simp
  obtain ⟨j, hsets⟩ := runAll_setsEntries free h hmore ((m.spent 1).spent i) []
  have hgive (m : Machine) (es : ObjectMap) (outer : List Variable) :
      runAll env [.expr (.var x r)] (m.holding x es outer) =
        (.ok (.map es), ((m.holding x es outer).spent 1).spent 1) := by
    have hfirst : (((m.holding x es outer).spent 1).spent 1).scope.find? (·.name == x) =
        some ⟨x, .map es, false⟩ := by
      simp [Machine.holding]
    rw [runAll_expr free rfl, eval]
    exact lookup_apply hfirst (by simp) r
  refine ⟨_, (runAll_more (by simp) hdeclare).trans (hsets.trans (hgive _ _ _)), rfl⟩

end Statements

/-! ### What is sent -/

theorem runsTo_worth {inputs : List InputColumn} {row : Row} {w : World Unit} {e : Expr} {d : Datum}
    (plain : isCall e = false)
    (h : Worth (ScriptUnit.mk (.collecting e) {}).env
      [⟨"output", .collector w.collectors.fresh.1, false⟩,
        ⟨"map", .record (toValueMap inputs row), false⟩] e d) :
    ∃ last, RunsTo inputs ⟨none, .transformCollecting, none⟩ (loadedWith e) row w d last ∧
      last.collectors.rows w.collectors.fresh.1 = [] := by
  let f : Function := ⟨"transform", ["map", "output"], [.expr e]⟩
  let i : ScriptInstance := (loadedWith e).inst.state
  let start : Machine := .entering { w.scene with collectors := w.collectors.fresh.2 } f
    [.values (toValueMap inputs row), .collector w.collectors.fresh.1] i
  have free : i.compiled.env.Unlimited := unlimited_env (.collecting e)
  obtain ⟨n, hvalue⟩ := h (start.spent 1) rfl
  have hrun : runAll i.compiled.env f.body start = (.ok d, (start.spent 1).spent n) := by
    rw [runAll_one free, run, plain]
    exact hvalue
  exact ⟨_, ⟨f, rfl, .ok d, .inl rfl, hrun⟩, Collectors.rows_fresh w.collectors⟩

namespace Making

/-- A script that gives this value for a record fills the one field of the record with this. -/
def Fills (m : Making) (field : Option String) : Prop :=
  ∀ (σ υ ι τ : Type) [RowSink τ] (t : Transformer σ υ ι) (row : Row) (p : Pipeline σ ι τ),
    (∀ config, t.config.variant ≠ .advanced config) →
    (t.host.transform [.values (toValueMap t.config.inputs row)] p.toHosted).1 = .ok m.value →
    (t.transform row p).1 = .ok (some [field])

theorem fills (m : Making) : m.Fills (outputField m.value) := by
  intro σ υ ι τ _ t row p hvariant hcall
  obtain ⟨s, sink⟩ := p
  rw [t.transform_of_single hvariant]
  simp only [hcall]
  rfl

/-- A script that gives this value for a record, and emits nothing, sends these rows. -/
def Sends (m : Making) (config : AdvancedConfig) (rows : List OutputRow) : Prop :=
  ∀ (τ : Type) [KeepsRows τ] (limits : Limits) (example? : Kind → Option String)
    (inputs : List InputColumn) (code : Option String) (entries : EntryPoints)
    (gate : Gate ScriptInstance) (row : Row) (w : World Unit) (sink : τ) (last : Machine),
    RunsTo inputs entries gate row w m.datum last → last.collectors.rows w.collectors.fresh.1 = [] →
    let t : Transformer Unit ScriptUnit ScriptInstance :=
      ⟨scriptEngine limits example?, inputs, code, .advanced config⟩
    let result := t.transform row ⟨⟨.ready entries gate, w⟩, sink⟩
    result.1 = .ok none ∧ KeepsRows.rows result.2.sink = KeepsRows.rows sink ++ rows

theorem sends (m : Making) {config : AdvancedConfig} (hreturned : config.emitReturned = true) :
    m.Sends config (outputRows config.width m.value) := by
  intro τ _ limits example? inputs code entries gate row w sink last hruns hnothing t result
  obtain ⟨houtcome, hemitted⟩ :=
    @collectingCall_runsTo limits example? t.config entries gate row w m.datum last hruns
  exact AdvancedConfig.delivers_returned hreturned m.value Unit ScriptUnit ScriptInstance τ t entries
    gate row w sink rfl houtcome (hemitted.trans hnothing)

/-- What an object map is outside of its script, and what is written of it. -/
structure Shown (sets : List (String × Making)) (entries : ValueMap) : Prop
    extends Sorts sets entries where
  value : (map sets).value = .object entries
  field : outputField (map sets).value = some ("\x7b" ++ ", ".intercalate
    (entries.map fun p => p.1 ++ "=" ++ p.2.text) ++ "\x7d")
  /-- One row of the values in the order of the names. -/
  rows : ∀ width, outputRows width (map sets).value =
    [fitRow width (entries.map fun p => outputField p.2)]

theorem shown_entries (sets : List (String × Making)) : Shown sets (entries sets) where
  toSorts := sorts_entries sets
  value := value_map sets
  field := by
    rw [value_map, ← entryTexts_eq_map]
    simp only [outputField, Value.text]
  rows width := by
    rw [value_map]
    rfl

/-- Nobody outside can tell the two ways apart to make a value. -/
structure Indistinct (m m' : Making) : Prop where
  value : m.value = m'.value
  field : m.Fills (outputField m.value) ∧ m'.Fills (outputField m.value)
  rows : ∀ config : AdvancedConfig, config.emitReturned = true →
    m.Sends config (outputRows config.width m.value) ∧
      m'.Sends config (outputRows config.width m.value)

theorem Alike.indistinct {m m' : Making} (h : Alike m m') : Indistinct m m' := by
  have hvalue : m.value = m'.value := congrArg Datum.toValue h.datum_eq
  refine ⟨hvalue, ⟨m.fills, ?_⟩, fun config hreturned => ⟨m.sends hreturned, ?_⟩⟩
  · rw [hvalue]
    exact m'.fills
  · rw [hvalue]
    exact m'.sends hreturned

/-- Scripts make their values in the ways that `Making` says. -/
structure MadeIn (env : Env) : Prop where
  array : ∀ (scope : List Variable) (es : List Expr) (items : List Making) (pos : Position),
    List.Forall₂ (fun e m => Worth env scope e m.datum) es items →
    Worth env scope (.array es pos) (array items).datum
  /-- An object map that is written out is one whose names are set from last to first. -/
  literal : ∀ (scope : List Variable) (entries : List (String × Expr))
    (sets : List (String × Making)) (pos : Position),
    List.Forall₂ (fun e p => e.1 = p.1 ∧ Worth env scope e.2 p.2.datum) entries sets →
    Worth env scope (.map entries pos) (map sets.reverse).datum
  /-- One that is filled by assignments is one whose names are set in their order. -/
  assignments : ∀ (x : String) (m : Machine) (stmts : List Stmt) (sets : List (String × Making))
    (p q r : Position),
    List.Forall₂ (fun s p => SetsEntry env x m.scope s (p.1, p.2.datum)) stmts sets →
    ∃ m', runAll env (.declare x (some (.map [] p)) false q :: (stmts ++ [.expr (.var x r)])) m =
      (.ok (map sets).datum, m') ∧ m'.collectors = m.collectors

theorem madeIn {env : Env} (free : env.Unlimited) : MadeIn env where
  array scope es items pos h := by
    rw [datum, itemData_eq_map]
    exact worth_array free (List.forall₂_map_right_iff.mpr h) pos
  literal scope entries sets pos h := by
    rw [datum, setData_eq_map, List.map_reverse]
    exact worth_map free (List.forall₂_map_right_iff.mpr h) pos
  assignments x m stmts sets p q r h := by
    rw [datum, setData_eq_map]
    exact runAll_making free (List.forall₂_map_right_iff.mpr h) p q r

theorem callMethod_putRow_array {env : Env} (hscript : env.script.function? "put_row" 1 = none)
    (items : List Making) (pos : Position) (h : CollectorHandle) (m : Machine) :
    callMethod env "put_row" [(array items).datum] pos (m, .collector h) =
      emission env pos h (items.map value) m := by
  rw [datum, itemData_eq_map, callMethod_putRow hscript, Datum.itemValues_eq_map, List.map_map]
  rfl

/-- **Object maps are canonical outside of their script.** Every value whose object maps are in order
was made in some way. Every part of it that is reached without passing through a record is what it
has to be: an object map has its names in ascending order of their bytes, with the values they were
set to last, and a record has the order that it had. So when the names of object maps were set does
not matter for anything that is written: not for the field of a record, nor for the row of a returned
object map, which has the values in the order of the names, nor for records that are emitted. A
returned argument has its values in the order of the columns. -/
theorem canonical :
    (∀ d : Datum, d.Ordered ↔ ∃ m : Making, m.datum = d) ∧
    (∀ (m : Making) (path : List Inward) (part : Making), m.part? path = some part →
      Inward.part? path m.value = some part.value ∧ part.Becomes part.value) ∧
    (∀ env : Env, env.Unlimited → MadeIn env) ∧
    (∀ sets sets' : Entries Making, sets.Distinct → sets.Perm sets' →
      Alike (map sets) (map sets')) ∧
    (∀ m m' : Making, Alike m m' → Indistinct m m') ∧
    (∀ items items' : List Making, Alike (array items) (array items') →
      ∀ (env : Env) (pos : Position) (h : CollectorHandle) (m : Machine),
        env.script.function? "put_row" 1 = none →
        callMethod env "put_row" [(array items).datum] pos (m, .collector h) =
          emission env pos h (items.map value) m ∧
        callMethod env "put_row" [(array items').datum] pos (m, .collector h) =
          emission env pos h (items.map value) m) ∧
    (∀ sets : List (String × Making), ∃ entries, Shown sets entries) ∧
    ∀ (inputs : List InputColumn) (row : Row) (config : AdvancedConfig),
      config.emitReturned = true →
      (record (toValueMap inputs row)).Sends config
        [fitRow config.width ((columnNames inputs).map fun name => outputField (row.get name))] := by
  refine ⟨ordered_iff, fun m path part hpart => ⟨part?_value hpart, part.becomes_value⟩,
    fun env free => madeIn free, fun sets sets' hdistinct hperm => .of_perm hdistinct hperm,
    fun m m' h => h.indistinct, fun items items' halike env pos h m hscript => ?_,
    fun sets => ⟨_, shown_entries sets⟩, fun inputs row config hreturned => ?_⟩
  · refine ⟨callMethod_putRow_array hscript items pos h m, ?_⟩
    rw [← halike.datum_eq]
    exact callMethod_putRow_array hscript items pos h m
  · have hrows : outputRows config.width (record (toValueMap inputs row)).value =
        [fitRow config.width ((columnNames inputs).map fun name => outputField (row.get name))] := by
      show [fitRow config.width ((toValueMap inputs row).map fun p => outputField p.2)] = _
      rw [toValueMap_eq, List.map_map]
      rfl
    rw [← hrows]
    exact (record (toValueMap inputs row)).sends hreturned

/-- The rows that a loaded script of one expression returns for a record. -/
def returnedBy (config : AdvancedConfig) (inputs : List InputColumn) (row : Row) (e : Expr) :
    List OutputRow :=
  let t : Transformer Unit ScriptUnit ScriptInstance :=
    ⟨scriptEngine {} fun _ => none, inputs, none, .advanced config⟩
  (t.transform row ⟨⟨.ready ⟨none, .transformCollecting, none⟩ (loadedWith e), { engine := () }⟩,
    RowBuffer.empty⟩).2.sink.rows

/-- Two scripts that write out one object map in different orders, and one that returns its record. -/
theorem canonical_of_two :
    let config : AdvancedConfig := { outputFields := 3, emitReturned := true }
    let pos : Position := ⟨1, 1⟩
    let inputs : List InputColumn := [⟨"b", .any⟩, ⟨"a", .any⟩]
    let row : Row := ⟨[("a", .int 1), ("b", .int 2)]⟩
    let one : Expr := .lit (.int 1) pos
    let two : Expr := .lit (.int 2) pos
    let x : Expr := .lit (.string "x") pos
    returnedBy config inputs row (.map [("b", two), ("a", .map [("d", one), ("c", x)] pos)] pos) =
      [[some "\x7bc=x, d=1\x7d", some "2", none]] ∧
    returnedBy config inputs row (.map [("a", .map [("c", x), ("d", one)] pos), ("b", two)] pos) =
      [[some "\x7bc=x, d=1\x7d", some "2", none]] ∧
    returnedBy config inputs row (.var "map" pos) = [[some "2", some "1", none]] := by
  intro config pos inputs row one two x
  obtain ⟨-, hparts, hmade, hperm, halike, hemitted, hshown, hrecord⟩ := canonical
  have hsent {e : Expr} {m : Making} {rows : List OutputRow} (hsends : m.Sends config rows)
      (plain : isCall e = false) (hworth : ∀ h, Worth (ScriptUnit.mk (.collecting e) {}).env
        [⟨"output", .collector h, false⟩, ⟨"map", .record (toValueMap inputs row), false⟩] e m.datum) :
      returnedBy config inputs row e = rows := by
    obtain ⟨last, hruns, hnothing⟩ := runsTo_worth (w := { engine := () }) plain (hworth _)
    exact (hsends RowBuffer {} (fun _ => none) inputs none _ _ row _ .empty last hruns hnothing).2
  let madeOne : Making := .scalar ⟨.int 1, rfl⟩
  let madeTwo : Making := .scalar ⟨.int 2, rfl⟩
  let madeX : Making := .scalar ⟨.string "x", rfl⟩
  let inner : Making := .map [("d", madeOne), ("c", madeX)].reverse
  let inner' : Making := .map [("c", madeX), ("d", madeOne)].reverse
  let outer : Making := .map [("b", madeTwo), ("a", inner)].reverse
  let outer' : Making := .map [("a", inner'), ("b", madeTwo)].reverse
  have hinner : Alike inner inner' := hperm _ _ (by decide) (.swap _ _ _)
  have houter : Alike outer outer' := by
    refine .map (fun k => ?_) fun k m m' hm hm' => ?_
    · simp only [Entries.last?, List.reverse_reverse, Entries.get?_cons]
      split_ifs <;> simp_all
    · simp only [Entries.last?, List.reverse_reverse, Entries.get?_cons] at hm hm'
      split_ifs at hm hm' with hb ha ha
      · simp [hb] at ha
      · cases hm
        cases hm'
        exact .refl madeTwo
      · cases hm
        cases hm'
        exact hinner
      all_goals cases hm
  have hrows : outputRows config.width outer.value = [[some "\x7bc=x, d=1\x7d", some "2", none]] := by
    decide
  have hboth := (halike outer outer' houter).rows config rfl
  rw [hrows] at hboth
  have hwritten (env : Env) (free : env.Unlimited) (scope : List Variable) :
      Worth env scope (.map [("b", two), ("a", .map [("d", one), ("c", x)] pos)] pos) outer.datum ∧
      Worth env scope (.map [("a", .map [("c", x), ("d", one)] pos), ("b", two)] pos)
        outer'.datum := by
    have literal := (hmade env free).literal scope
    have hone : Worth env scope one madeOne.datum := worth_lit free (.int 1) pos
    have htwo : Worth env scope two madeTwo.datum := worth_lit free (.int 2) pos
    have hx : Worth env scope x madeX.datum := worth_lit free (.string "x") pos
    have hin := literal [("d", one), ("c", x)] [("d", madeOne), ("c", madeX)] pos
      (.cons ⟨rfl, hone⟩ (.cons ⟨rfl, hx⟩ .nil))
    have hin' := literal [("c", x), ("d", one)] [("c", madeX), ("d", madeOne)] pos
      (.cons ⟨rfl, hx⟩ (.cons ⟨rfl, hone⟩ .nil))
    exact ⟨literal _ [("b", madeTwo), ("a", inner)] pos (.cons ⟨rfl, htwo⟩ (.cons ⟨rfl, hin⟩ .nil)),
      literal _ [("a", inner'), ("b", madeTwo)] pos (.cons ⟨rfl, hin'⟩ (.cons ⟨rfl, htwo⟩ .nil))⟩
  refine ⟨?_, ?_, ?_⟩
  · exact hsent hboth.1 rfl fun h => (hwritten _ (unlimited_env _) _).1
  · exact hsent hboth.2 rfl fun h => (hwritten _ (unlimited_env _) _).2
  · refine hsent (hrecord inputs row config rfl) rfl fun h => ?_
    have hplain (i : Nat) : (record (toValueMap inputs row)).datum ≠ .cell i := by simp [datum]
    have hfirst : [⟨"output", .collector h, false⟩, ⟨"map", .record (toValueMap inputs row), false⟩].find?
        (fun v : Variable => v.name == "map") =
          some ⟨"map", (record (toValueMap inputs row)).datum, false⟩ := rfl
    exact worth_var (unlimited_env _) hfirst hplain pos

end Making

end RowScript.Script
