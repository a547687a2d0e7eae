import RowScript.Proofs.Report

/-!
# What a run writes

Whatever becomes of a run whose output is ready, the target holds the header and complete lines of
rows as wide as the header (`outflow_complete`), if all rows of the configuration have one width and a
write that fails leaves nothing (`Store.Whole`). The invariant `Run.Outflow` says this of the files
together with the rows that are still in the sink. Each step of the run keeps it: a transformation
only puts rows of that width into the sink or gives one (`maintains_transform`), and writing moves them
line by line into the file (`maintains_writeRows`).
-/

namespace RowScript

namespace Attempt

variable {s t ε δ α β : Type}

/-- An attempt that keeps what holds of the state, and whose values have a property. -/
def Maintains (P : s → Prop) (Q : α → Prop) (x : Attempt s ε α) : Prop :=
  ∀ state, P state → P (x state).2 ∧ ∀ a, (x state).1 = .ok a → Q a

namespace Maintains

variable {P : s → Prop} {Q : α → Prop} {R : β → Prop} {x : Attempt s ε α}

theorem pure {a : α} (h : Q a) : Maintains P Q (Pure.pure a : Attempt s ε α) := by
  intro state hp
  refine ⟨hp, ?_⟩
  rintro _ ⟨⟩
  exact h

theorem ofOutcome (o : Outcome ε α) : Maintains P (fun _ => True) (Attempt.ofOutcome o : Attempt s ε α) :=
  fun _ hp => ⟨hp, fun _ _ => trivial⟩

theorem fail (e : ε) : Maintains P Q (Attempt.fail e : Attempt s ε α) :=
  fun _ hp => ⟨hp, nofun⟩

theorem read : Maintains P (fun _ => True) (Attempt.read : Attempt s ε s) :=
  fun _ hp => ⟨hp, fun _ _ => trivial⟩

theorem update {f : s → s} (h : ∀ state, P state → P (f state)) :
    Maintains P (fun _ => True) (Attempt.update f : Attempt s ε Unit) :=
  fun state hp => ⟨h state hp, fun _ _ => trivial⟩

theorem mapError (hx : Maintains P Q x) (f : ε → δ) : Maintains P Q (x.mapError f) := by
  intro state hp
  obtain ⟨hkept, hvalue⟩ := hx state hp
  refine ⟨hkept, fun a ha => ?_⟩
  rcases hrun : x state with ⟨o, state'⟩
  rw [mapError_apply_of f hrun] at ha
  cases o with
  | ok b =>
    cases ha
    exact hvalue _ (by rw [hrun])
  | error e => cases ha
  | aborted => cases ha

theorem bind {f : α → Attempt s ε β} (hx : Maintains P Q x) (hf : ∀ a, Q a → Maintains P R (f a)) :
    Maintains P R (x >>= f) := by
  intro state hp
  obtain ⟨hkept, hvalue⟩ := hx state hp
  rcases hrun : x state with ⟨o, state'⟩
  rw [hrun] at hkept hvalue
  cases o with
  | ok a =>
    rw [bind_apply_of_ok hrun]
    exact hf a (hvalue a rfl) state' hkept
  | error e =>
    rw [bind_apply_of_error hrun]
    exact ⟨hkept, nofun⟩
  | aborted =>
    rw [bind_apply_of_aborted hrun]
    exact ⟨hkept, nofun⟩

theorem outcome (hx : Maintains P Q x) :
    Maintains P (fun o : Outcome ε α => ∀ a, o = .ok a → Q a) (x.outcome : Attempt s δ _) := by
  intro state hp
  obtain ⟨hkept, hvalue⟩ := hx state hp
  refine ⟨hkept, ?_⟩
  rintro _ ⟨⟩
  exact hvalue

end Maintains

end Attempt

/-! ### Transformers whose rows have one width -/

/-- All rows have the width of the header, which has at least one column. -/
def Variant.Regular : Variant → Prop
  | .simple | .standard _ => True
  | .advanced config => config.shape ≠ .unchecked ∧ config.outputFields ≠ 0

theorem ShapePolicy.length_of_applyAll {p : ShapePolicy} (hp : p ≠ .unchecked) {width : Nat}
    {rows shaped : List OutputRow} (h : p.applyAll width rows = .ok shaped) :
    ∀ row ∈ shaped, row.length = width := by
  rw [applyAll_eq] at h
  cases p with
  | unchecked => exact absurd rfl hp
  | fit =>
    cases h
    intro row hrow
    obtain ⟨row, -, rfl⟩ := List.mem_map.mp hrow
    exact length_fitRow width row
  | reject =>
    simp only [refused?] at h
    split at h
    · cases h
    · next hnone =>
      cases h
      intro row hrow
      obtain ⟨row, hmem, rfl⟩ := List.mem_map.mp hrow
      simpa [shaped] using List.find?_eq_none.mp hnone row hmem

namespace Transformer

open Attempt

variable {σ υ ι : Type} {t : Transformer σ υ ι}

theorem outputColumns_ne_nil (h : t.config.variant.Regular) : t.outputColumns ≠ [] := by
  unfold outputColumns
  cases hvariant : t.config.variant with
  | simple => simp
  | standard concurrent => simp
  | advanced config =>
    rw [hvariant] at h
    have hfields : config.outputFields.toNat ≠ 0 := fun hzero =>
      h.2 (UInt64.toNat_inj.mp hzero)
    simpa using hfields

/-- The sink holds rows of the width of the header only. -/
def Level (t : Transformer σ υ ι) (p : Pipeline σ ι RowBuffer) : Prop :=
  ∀ row ∈ p.sink.rows, row.length = t.outputColumns.length

theorem maintains_onHost {ε α : Type} (x : Attempt (Hosted σ ι) ε α) :
    Maintains t.Level (fun _ => True) (Pipeline.onHost x) :=
  fun _ hp => ⟨hp, fun _ _ => trivial⟩

theorem maintains_onWorld {ε : Type} (f : World σ → World σ) :
    Maintains t.Level (fun _ => True) (Pipeline.onWorld f : Attempt _ ε Unit) :=
  .update fun _ hp => hp

theorem maintains_send {rows : Except HostError (List OutputRow)}
    (h : ∀ shaped, rows = .ok shaped → ∀ row ∈ shaped, row.length = t.outputColumns.length) :
    Maintains t.Level (fun _ => True) (Pipeline.send rows : Attempt (Pipeline σ ι RowBuffer) _ _) := by
  cases rows with
  | error e => exact .fail e
  | ok shaped =>
    refine .update fun p hp row hrow => ?_
    rcases List.mem_append.mp hrow with hrow | hrow
    · exact hp row hrow
    · exact h shaped rfl row hrow

theorem maintains_transformSingle (hwidth : t.outputColumns.length = 1) (row : Row) :
    Maintains t.Level (fun out => out.length = t.outputColumns.length)
      (t.transformSingle row : Attempt (Pipeline σ ι RowBuffer) _ _) :=
  .bind (maintains_onHost _) fun _ _ => .pure hwidth.symm

theorem maintains_transformCollecting {config : AdvancedConfig} (hshape : config.shape ≠ .unchecked)
    (hwidth : t.outputColumns.length = config.outputFields.toNat) (row : Row) :
    Maintains t.Level (fun _ => True)
      (t.transformCollecting config row : Attempt (Pipeline σ ι RowBuffer) _ _) := by
  refine .bind .read fun p _ => .bind (maintains_onWorld _) fun _ _ => ?_
  refine .bind (maintains_onHost _) fun returned _ => .bind .read fun p _ => ?_
  refine .bind (maintains_onWorld _) fun _ _ => .bind (maintains_onWorld _) fun _ _ => ?_
  refine maintains_send fun shaped hshaped => ?_
  rw [hwidth]
  exact ShapePolicy.length_of_applyAll hshape hshaped

theorem maintains_transform (h : t.config.variant.Regular) (row : Row) :
    Maintains t.Level (fun given => ∀ out ∈ given, out.length = t.outputColumns.length)
      (t.transform row) := by
  have single : t.outputColumns.length = 1 → Maintains t.Level
      (fun given => ∀ out ∈ given, out.length = t.outputColumns.length)
      (do return some (← t.transformSingle row) : Attempt (Pipeline σ ι RowBuffer) _ _) := by
    refine fun hwidth => .bind (maintains_transformSingle hwidth row) fun out hout => .pure ?_
    rintro _ ⟨⟩
    exact hout
  unfold transform
  cases hvariant : t.config.variant with
  | simple => exact single (by simp [outputColumns, hvariant])
  | standard concurrent => exact single (by simp [outputColumns, hvariant])
  | advanced config =>
    rw [hvariant] at h
    have hwidth : t.outputColumns.length = config.outputFields.toNat := by
      simp [outputColumns, hvariant]
    exact .bind (maintains_transformCollecting h.1 hwidth row) fun _ _ => .pure nofun

end Transformer

/-! ### Steps of a run -/

/-- A store in which a write that fails leaves nothing of its text. -/
structure Store.Whole {φ : Type} (store : Store φ) extends store.Ledger where
  append_fails : ∀ {target text files files' o}, store.append target text files = (o, files') →
    o ≠ .ok () → holds files' target = holds files target

/-- Files in memory are such a store. -/
def Files.whole : store.Whole where
  toLedger := ledger
  append_fails {target text files files' o} h hfails := by
    cases target with
    | standard =>
      cases h
      exact absurd rfl hfails
    | file path =>
      rw [store_append] at h
      rw [changing_fails h hfails]

namespace Run

open Running Attempt

variable {φ σ υ ι : Type} {store : Store φ} (whole : store.Whole) (t : Transformer σ υ ι)
  (target : Target) (before : ByteArray)

/-- A target holds the header and lines of rows of its width, behind what was there before, and rows of
no other width are on their way. -/
structure Outflow (r : Running φ σ ι) : Prop where
  written : ∃ rows : List OutputRow, (∀ row ∈ rows, row.length = t.outputColumns.length) ∧
    whole.holds r.files target = before ++
      (Csv.line t.outputColumns ++ String.join (rows.map Csv.rowLine)).toUTF8
  level : t.Level r.toPipeline

variable {whole t target before}

theorem maintains_onTally {ε : Type} (f : Tally → Tally) :
    Maintains (Outflow whole t target before) (fun _ => True)
      (onTally (.update f) : Attempt (Running φ σ ι) ε Unit) :=
  fun _ hr => ⟨⟨hr.written, hr.level⟩, fun _ _ => trivial⟩

theorem maintains_onPipeline {ε α : Type} {Q : α → Prop} {x : Attempt (Pipeline σ ι RowBuffer) ε α}
    (hx : Maintains t.Level Q x) :
    Maintains (Outflow whole t target before) Q (onPipeline x : Attempt (Running φ σ ι) ε α) := by
  intro r hr
  obtain ⟨hlevel, hvalue⟩ := hx r.toPipeline hr.level
  exact ⟨⟨hr.written, hlevel⟩, hvalue⟩

theorem maintains_append {row : OutputRow} (hrow : row.length = t.outputColumns.length) :
    Maintains (Outflow whole t target before) (fun _ => True)
      ((onFiles (store.append target (Csv.rowLine row))).mapError .rowNotWritten :
        Attempt (Running φ σ ι) RunFault Unit) := by
  refine .mapError (fun r hr => ⟨⟨?_, hr.level⟩, fun _ _ => trivial⟩) _
  obtain ⟨rows, hrows, hholds⟩ := hr.written
  rcases happend : store.append target (Csv.rowLine row) r.files with ⟨o, files⟩
  rw [onFiles_apply_of happend]
  by_cases hok : o = .ok ()
  · rw [hok] at happend
    refine ⟨rows ++ [row], ?_, ?_⟩
    · simpa [or_imp, forall_and, hrow] using hrows
    · show whole.holds files target = _
      rw [whole.append happend, hholds]
      simp [String.toByteArray_append, ByteArray.append_assoc]
  · exact ⟨rows, hrows, (whole.append_fails happend hok).trans hholds⟩

theorem maintains_writeRows {rows : List OutputRow}
    (hrows : ∀ row ∈ rows, row.length = t.outputColumns.length) :
    Maintains (Outflow whole t target before) (fun _ => True)
      (writeRows store target rows : Attempt (Running φ σ ι) RunFault Unit) := by
  induction rows with
  | nil => exact .pure trivial
  | cons row rest ih =>
    refine .bind (maintains_append (hrows row List.mem_cons_self)) fun _ _ => ?_
    refine .bind (.update fun r hr => ⟨hr.written, hr.level⟩) fun _ _ => ?_
    exact ih fun row hrow => hrows row (List.mem_cons_of_mem _ hrow)

theorem maintains_drain {ε : Type} :
    Maintains (Outflow whole t target before)
      (fun rows => ∀ row ∈ rows, row.length = t.outputColumns.length)
      (drain : Attempt (Running φ σ ι) ε (List OutputRow)) := by
  intro r hr
  refine ⟨⟨hr.written, fun _ hrow => by cases hrow⟩, ?_⟩
  rintro _ ⟨⟩
  exact hr.level

theorem maintains_settle (onError : OnError) (number : Nat)
    {given : Outcome HostError (Option OutputRow)}
    (hgiven : ∀ back, given = .ok back → ∀ out ∈ back, out.length = t.outputColumns.length) :
    Maintains (Outflow whole t target before) (fun _ => True)
      (settle store target onError number given : Attempt (Running φ σ ι) RunFault Unit) := by
  cases given with
  | aborted => exact .ofOutcome _
  | ok back =>
    refine .bind (maintains_onTally _) fun _ _ => maintains_writeRows fun row hrow => ?_
    exact hgiven back rfl row (by simpa using hrow)
  | error e =>
    refine .bind (maintains_onTally _) fun _ _ => ?_
    split
    · exact maintains_onTally _
    · exact .fail _

/-- One record keeps the output in order, whatever becomes of it. -/
theorem maintains_processRecord (h : t.config.variant.Regular) (onError : OnError) (number : Nat)
    (row : Row) : Maintains (Outflow whole t target before) (fun _ => True)
      (processRecord store t target onError number row) := by
  refine .bind (maintains_onPipeline (t.maintains_transform h row)).outcome fun given hgiven => ?_
  refine .bind (maintains_settle onError number hgiven) fun _ _ => ?_
  exact .bind maintains_drain fun rows hrows => maintains_writeRows hrows

theorem maintains_processFrom (h : t.config.variant.Regular) (onError : OnError) (number : Nat)
    (rows : List Row) : Maintains (Outflow whole t target before) (fun _ => True)
      (processFrom store t target onError number rows) := by
  induction rows generalizing number with
  | nil => exact .pure trivial
  | cons row rest ih =>
    exact .bind (maintains_processRecord h onError number row) fun _ _ => ih (number + 1)

theorem maintains_close : Maintains (Outflow whole t target before) (fun _ => True)
    (onPipeline t.close : Attempt (Running φ σ ι) HostError Unit) :=
  maintains_onPipeline (t.maintains_onHost _)

theorem maintains_processAll (h : t.config.variant.Regular) (options : RunOptions)
    (rows : List Row) : Maintains (Outflow whole t target before) (fun _ => True)
      (processAll store t target options rows) := by
  have hwarn : ∀ message fields, Maintains (Outflow whole t target before) (fun _ => True)
      (warn message fields : Attempt (Running φ σ ι) RunFault Unit) :=
    fun _ _ => maintains_onPipeline (t.maintains_onWorld _)
  have hfrom : Maintains (Outflow whole t target before) (fun _ => True)
      (processFrom store t target options.onError 1 rows) :=
    maintains_processFrom h options.onError 1 rows
  unfold processAll
  dsimp only
  split
  · exact .bind (hwarn _ _) fun _ _ => hfrom
  · exact hfrom

theorem maintains_conclude (h : t.config.variant.Regular) (options : RunOptions) (rows : List Row) :
    Maintains (Outflow whole t target before) (fun _ => True)
      (conclude store t target options rows) := by
  refine .bind (maintains_processAll h options rows).outcome fun processed _ => ?_
  have hrest : ∀ processed, Maintains (Outflow whole t target before) (fun _ => True)
      (do
        let closed ← (onPipeline t.close).outcome
        ofOutcome (firstFault processed (closed.mapError .notClosed))
        finish store target : Attempt (Running φ σ ι) RunFault Unit) := by
    refine fun processed => .bind maintains_close.outcome fun closed _ => ?_
    refine .bind (.ofOutcome _) fun _ _ => ?_
    exact .bind maintains_drain fun rows hrows => maintains_writeRows hrows
  cases processed with
  | aborted => exact .ofOutcome _
  | ok _ => exact hrest _
  | error e => exact hrest _

/-- **Whatever becomes of a run whose output is ready, its target holds the header and whole lines of
rows as wide as the header.** -/
theorem outflow_complete (whole : store.Whole) (h : t.config.variant.Regular) {p : PlacedJob}
    {options : RunOptions} {world : World σ} {files : φ} {rows : List Row} {start : Running φ σ ι}
    (hprepare : prepare store t p options (.new world files) = (.ok rows, start)) :
    Outflow whole t (p.target options) (heldBefore whole.toAccount files (p.target options))
      (complete store t p options (.new world files)).2 := by
  obtain ⟨-, hbetween, hheader⟩ := prepared_of_prepare whole.toAccount hprepare
  have hstart : Outflow whole t (p.target options)
      (heldBefore whole.toAccount files (p.target options)) start := by
    refine ⟨⟨[], nofun, by simpa using hheader⟩, ?_⟩
    intro row hrow
    rw [hbetween.sink] at hrow
    cases hrow
  have hrun := (maintains_conclude h options rows start hstart).1
  rw [← run_of_prepare hprepare] at hrun
  refine bind_keeps hrun fun _ r hr => ⟨?_, hr.level⟩
  obtain ⟨rows, hrows, hholds⟩ := hr.written
  exact ⟨rows, hrows, (whole.flush rfl).trans hholds⟩

end Run

end RowScript
