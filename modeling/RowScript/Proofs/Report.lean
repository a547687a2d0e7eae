import RowScript.Proofs.Intake
import RowScript.Proofs.Processing

/-!
# What a run writes and counts

`Run.prepare` is a run up to its first record: the rows are read, the script is loaded, and the
output is ready. `Prepared` is what holds then. From there on `processAll_between` tells what the
records write and count, and closing adds nothing (`conclude_between`): a script has no way to the
sink but through its records.

`report_of_run` puts this together (`Report`): the output is the header and the rows of the records
that passed, in order, and the counts are those of all records of the input, read or not.
-/

namespace RowScript

namespace Run

open Running Attempt

variable {φ σ υ ι : Type} (store : Store φ) (t : Transformer σ υ ι)

/-- Read the rows, load the script, and make the output ready. -/
def prepare (p : PlacedJob) (options : RunOptions) :
    Attempt (Running φ σ ι) RunFault (List Row) := do
  let rows ← readRows store t p options
  (onPipeline t.load).mapError .notLoaded
  openOutput store t (p.target options)
  return rows

/-- What a target holds before anything is written to it: a file is emptied, and the standard output
keeps what it has. -/
def heldBefore {store : Store φ} (account : store.Account) (files : φ) : Target → ByteArray
  | .standard => account.holds files .standard
  | .file _ => .empty

variable {store t}

theorem prepare_eq_ok {p : PlacedJob} {options : RunOptions} {r₀ r : Running φ σ ι}
    {rows : List Row} :
    prepare store t p options r₀ = (.ok rows, r) ↔
      ∃ r₁ r₂, readRows store t p options r₀ = (.ok rows, r₁) ∧
        (onPipeline t.load : Attempt (Running φ σ ι) HostError Unit) r₁ = (.ok (), r₂) ∧
        openOutput store t (p.target options) r₂ = (.ok (), r) := by
  constructor
  · intro h
    obtain ⟨rows, r₁, hread, h⟩ := bind_eq_ok.mp h
    obtain ⟨⟨⟩, r₂, hload, h⟩ := bind_eq_ok.mp h
    obtain ⟨⟨⟩, r₃, hopen, h⟩ := bind_eq_ok.mp h
    cases h
    exact ⟨r₁, r₂, hread, mapError_eq_ok.mp hload, hopen⟩
  · rintro ⟨r₁, r₂, hread, hload, hopen⟩
    rw [prepare, bind_apply_of_ok hread, bind_apply_of_ok (mapError_apply_of _ hload),
      bind_apply_of_ok hopen]
    rfl

theorem run_of_prepare {p : PlacedJob} {options : RunOptions} {r₀ r : Running φ σ ι}
    {rows : List Row} (h : prepare store t p options r₀ = (.ok rows, r)) :
    run store t p options r₀ = conclude store t (p.target options) options rows r := by
  obtain ⟨r₁, r₂, hread, hload, hopen⟩ := prepare_eq_ok.mp h
  unfold run
  rw [bind_apply_of_ok hread, bind_apply_of_ok (mapError_apply_of _ hload),
    bind_apply_of_ok (outcome_apply_of hopen)]

theorem load_ok {p p' : Pipeline σ ι RowBuffer} (h : t.load p = (.ok (), p')) :
    p'.lifecycle.isReady ∧ p'.sink = p.sink := by
  unfold Transformer.load at h
  cases hsource : t.config.source t.engine.example? with
  | error fault =>
    rw [hsource] at h
    cases h
  | ok source =>
    rw [hsource] at h
    obtain ⟨hosted, hload, rfl⟩ := zoom_eq_ok.mp h
    refine ⟨?_, rfl⟩
    unfold Host.load at hload
    split at hload
    · cases hload
    · split at hload <;> cases hload
      rfl

theorem openOutput_kept {target : Target} {r r' : Running φ σ ι} {o : Outcome RunFault Unit}
    (h : openOutput store t target r = (o, r')) : ∃ files, r' = { r with files } := by
  have hkept : ∃ files, (openOutput store t target r).2 = { r with files } := by
    refine bind_keeps (P := fun r' : Running φ σ ι => ∃ files, r' = { r with files }) ?_ ?_
    · exact ⟨_, rfl⟩
    · rintro ⟨⟩ _ ⟨files, rfl⟩
      exact ⟨_, rfl⟩
  rwa [h] at hkept

theorem openOutput_ok {target : Target} {r r' : Running φ σ ι} (account : store.Account)
    (h : openOutput store t target r = (.ok (), r')) :
    account.holds r'.files target =
      heldBefore account r.files target ++ (Csv.line t.outputColumns).toUTF8 := by
  obtain ⟨⟨⟩, r₁, hcreating, hwriting⟩ := bind_eq_ok.mp h
  obtain ⟨created, hcreate, rfl⟩ := zoom_eq_ok.mp (mapError_eq_ok.mp hcreating)
  obtain ⟨written, hheader, rfl⟩ := zoom_eq_ok.mp (mapError_eq_ok.mp hwriting)
  have hbefore : account.holds created target = heldBefore account r.files target := by
    cases target with
    | standard => exact account.create_standard hcreate
    | file path => exact account.create_file hcreate
  rw [← hbefore]
  exact account.append hheader

/-- What holds when the output is ready. -/
structure Prepared (account : store.Account) (p : PlacedJob) (options : RunOptions)
    (t : Transformer σ υ ι) (files : φ) (rows : List Row) (r : Running φ σ ι) : Prop where
  intake : Intake options.onError (p.inputRecords store files options t.config.inputs) rows {}
    r.summary
  between : Between r.toHosted r
  header : account.holds r.files (p.target options) =
    heldBefore account files (p.target options) ++ (Csv.line t.outputColumns).toUTF8

theorem between_of_prepare {p : PlacedJob} {options : RunOptions} {world : World σ} {files : φ}
    {rows : List Row} {r : Running φ σ ι}
    (h : prepare store t p options (.new world files) = (.ok rows, r)) :
    Intake options.onError (p.inputRecords store files options t.config.inputs) rows {} r.summary ∧
      Between r.toHosted r := by
  obtain ⟨r₁, r₂, hread, hload, hopen⟩ := prepare_eq_ok.mp h
  obtain ⟨log, summary, rfl, hintake⟩ := intake_readRows hread
  obtain ⟨loaded, hloaded, rfl⟩ := zoom_eq_ok.mp hload
  obtain ⟨hready, hsink⟩ := load_ok hloaded
  obtain ⟨opened, rfl⟩ := openOutput_kept hopen
  exact ⟨hintake, hready, rfl, hsink⟩

theorem prepared_of_prepare (account : store.Account) {p : PlacedJob} {options : RunOptions}
    {world : World σ} {files : φ} {rows : List Row} {r : Running φ σ ι}
    (h : prepare store t p options (.new world files) = (.ok rows, r)) :
    Prepared account p options t files rows r := by
  obtain ⟨hintake, hbetween⟩ := between_of_prepare h
  refine ⟨hintake, hbetween, ?_⟩
  obtain ⟨r₁, r₂, hread, hload, hopen⟩ := prepare_eq_ok.mp h
  obtain ⟨log, summary, rfl, -⟩ := intake_readRows hread
  obtain ⟨loaded, -, rfl⟩ := zoom_eq_ok.mp hload
  exact openOutput_ok account hopen

theorem finish_apply {target : Target} {r : Running φ σ ι} (hsink : r.sink = .empty) :
    finish store target r = (.ok (), r) := by
  obtain ⟨⟨s, sink⟩, files, summary⟩ := r
  cases hsink
  rfl

theorem ofOutcome_finish_apply (target : Target) (o : Outcome RunFault Unit) {r : Running φ σ ι}
    (hsink : r.sink = .empty) :
    (do ofOutcome o; finish store target : Attempt (Running φ σ ι) RunFault Unit) r = (o, r) := by
  cases o with
  | ok _ => exact (bind_apply_of_ok (ofOutcome_apply _)).trans (finish_apply hsink)
  | error e => exact bind_apply_of_error (ofOutcome_apply _)
  | aborted => exact bind_apply_of_aborted (ofOutcome_apply _)

variable (t) in
/-- Close the script behind records that ended so. A script that was aborted is not closed. -/
def closing (processed : Outcome RunFault Unit) (r : Running φ σ ι) :
    Outcome RunFault Unit × Running φ σ ι :=
  match processed with
  | .aborted => (.aborted, r)
  | .ok _ | .error _ =>
    (firstFault processed ((t.host.close r.toHosted).1.mapError .notClosed),
      { r with toHosted := (t.host.close r.toHosted).2 })

/-- What is left in the sink behind a record that failed is written by no one. -/
theorem conclude_apply {target : Target} {options : RunOptions} {rows : List Row}
    {r r₁ : Running φ σ ι} {processed : Outcome RunFault Unit}
    (hall : processAll store t target options rows r = (processed, r₁))
    (hsink : processed = .ok () → r₁.sink = .empty) :
    conclude store t target options rows r = closing t processed r₁ := by
  have hclose : (onPipeline t.close : Attempt (Running φ σ ι) HostError Unit) r₁ =
    ((t.host.close r₁.toHosted).1, { r₁ with toHosted := (t.host.close r₁.toHosted).2 }) := rfl
  rw [conclude, bind_apply_of_ok (outcome_apply_of hall)]
  cases processed with
  | aborted => rfl
  | ok _ =>
    simp only
    rw [bind_apply_of_ok (outcome_apply_of hclose)]
    exact ofOutcome_finish_apply _ _ (hsink rfl)
  | error fault =>
    simp only
    rw [bind_apply_of_ok (outcome_apply_of hclose), closing]
    cases (t.host.close r₁.toHosted).1 <;> rfl

theorem conclude_between {target : Target} (options : RunOptions) (rows : List Row)
    {s : Hosted σ ι} {r : Running φ σ ι} {files : φ} (h : Between s r)
    (hwrites : store.appendAll target
      (((t.passed options.onError rows s).1.flatMap Outcome.rows).map Csv.rowLine) r.files =
        (.ok (), files)) :
    let outcomes := (t.passed options.onError rows s).1
    let last := (t.passed options.onError rows s).2
    let processed := verdicts options.onError 1 outcomes
    ∃ r', conclude store t target options rows r =
        (firstFault processed ((t.host.close last).1.mapError .notClosed), r') ∧
      (processed ≠ .aborted → r'.toHosted.silent = (t.host.close last).2.silent) ∧
      r'.files = files ∧ r'.summary = outcomes.foldl (Summary.count options.onError) r.summary := by
  intro outcomes last processed
  obtain ⟨r₁, hall, ⟨-, hhost, hsink⟩, hfiles, hsummary⟩ :=
    processAll_between options rows h hwrites
  obtain ⟨hclosed, hafter⟩ := t.host.close_of_silent_eq hhost
  change processAll store t target options rows r = (processed, _) at hall
  rw [conclude_apply hall fun _ => hsink, ← hclosed]
  cases processed with
  | aborted => exact ⟨_, rfl, fun h => absurd rfl h, hfiles, hsummary⟩
  | ok _ => exact ⟨_, rfl, fun _ => hafter, hfiles, hsummary⟩
  | error e => exact ⟨_, rfl, fun _ => hafter, hfiles, hsummary⟩

/-! ### The report -/

/-- What a run comes to that could write all it had to write: from the rows that were read, what
each record gave that passed, the state behind the last of these, and the result of the run. -/
structure Report (account : store.Account) (p : PlacedJob) (options : RunOptions)
    (t : Transformer σ υ ι) (files : φ) (rows : List Row)
    (outcomes : List (Outcome HostError (List OutputRow))) (last : Hosted σ ι)
    (result : Outcome RunFault Unit × Running φ σ ι) : Prop where
  /-- The rows are those of the readable records of the input. -/
  read : rows = (p.inputRecords store files options t.config.inputs).filterMap id
  /-- Under `fail`, all records of the input can be read. -/
  readable : options.onError = .fail → none ∉ p.inputRecords store files options t.config.inputs
  /-- The output is the header and then the rows of each record that passed. -/
  written : account.holds result.2.files (p.target options) =
    heldBefore account files (p.target options) ++
      (Csv.line t.outputColumns ++
        String.join ((outcomes.flatMap Outcome.rows).map Csv.rowLine)).toUTF8
  /-- Under `fail`, no record is transformed behind one that failed, and the run fails. -/
  fails : options.onError = .fail → ∀ k e, outcomes[k]? = some (.error e) →
    outcomes.length = k + 1 ∧ (result.1 = .error (.recordFailed (k + 1) e) ∨
      result.1 = .aborted ∧ (t.host.close last).1 = .aborted)
  /-- Under `skip`, all records pass, and the run ends as closing the script does. -/
  skips : options.onError = .skip → .aborted ∉ outcomes →
    outcomes.length = rows.length ∧ result.1 = (t.host.close last).1.mapError .notClosed
  /-- Behind the records that passed, the script is closed and nothing else is done with it. -/
  left : .aborted ∉ outcomes → result.2.toHosted.silent = (t.host.close last).2.silent
  /-- A run that succeeds has transformed all rows. It counts the records of the input, the rows it
  has written, and the records that could not be read or failed. -/
  counts : result.1 = .ok () →
    outcomes.length = rows.length ∧
    result.2.summary =
      { records := (p.inputRecords store files options t.config.inputs).length
        rows := (outcomes.flatMap Outcome.rows).length
        failed := (p.inputRecords store files options t.config.inputs).countP Option.isNone +
          outcomes.countP Outcome.isError }

theorem firstFault_error (e : RunFault) (closed : Outcome HostError Unit) :
    firstFault (.error e) (closed.mapError .notClosed) = .error e ∨
      firstFault (.error e) (closed.mapError .notClosed) = .aborted ∧ closed = .aborted := by
  cases closed with
  | ok _ => exact .inl rfl
  | error e => exact .inl rfl
  | aborted => exact .inr ⟨rfl, rfl⟩

theorem firstFault_ok (closed : Outcome RunFault Unit) : firstFault (.ok ()) closed = closed := by
  cases closed <;> rfl

theorem firstFault_eq_ok {processed closed : Outcome RunFault Unit} :
    firstFault processed closed = .ok () ↔ processed = .ok () ∧ closed = .ok () := by
  cases processed <;> cases closed <;> simp [firstFault]

theorem countP_isNone_add_length {α : Type} (l : List (Option α)) :
    l.countP Option.isNone + (l.filterMap id).length = l.length := by
  rw [List.length_filterMap_eq_countP, List.length_eq_countP_add_countP Option.isNone]
  refine congrArg _ (List.countP_congr fun o _ => ?_)
  cases o <;> simp

/-- **The output is the header and the rows of the records, and every record is counted.** If the
input is read, the script loaded and the output ready, and if all that the records give can be
written, then the target holds the header and, record by record in the order of the input, the rows
of each record that passed: the one it returned, or those it sent to the sink, or none if it failed.
Under `fail` no record is transformed behind the first that fails, and the run fails with its error;
under `skip` no record that fails ends the run. If the run succeeds, then its counts are those of
all records of the input, of the rows written, and of the records that were unreadable or failed. -/
theorem report_of_run (account : store.Account) {p : PlacedJob} {options : RunOptions}
    {world : World σ} {files written : φ} {rows : List Row} {start : Running φ σ ι}
    (hprepare : prepare store t p options (.new world files) = (.ok rows, start))
    (hwrites : store.appendAll (p.target options)
      (((t.passed options.onError rows start.toHosted).1.flatMap Outcome.rows).map Csv.rowLine)
      start.files = (.ok (), written)) :
    Report account p options t files rows (t.passed options.onError rows start.toHosted).1
      (t.passed options.onError rows start.toHosted).2
      (run store t p options (.new world files)) := by
  obtain ⟨⟨hrows, hstart, hreadable⟩, hbetween, hheader⟩ := prepared_of_prepare account hprepare
  obtain ⟨r, hconclude, hleft, hfiles, hsummary⟩ := conclude_between options rows hbetween hwrites
  have hpasses := passes_passed t options.onError rows start.toHosted
  rw [run_of_prepare hprepare, hconclude]
  generalize (t.passed options.onError rows start.toHosted).1 = outcomes at *
  generalize (t.passed options.onError rows start.toHosted).2 = last at *
  generalize verdicts options.onError 1 outcomes = processed at *
  refine ⟨hrows, hreadable, ?_, ?_, ?_, fun haborted => hleft (hpasses.ne_aborted haborted), ?_⟩
  · rw [hfiles, account.holds_appendAll hwrites, hheader]
    simp [String.toByteArray_append, ByteArray.append_assoc]
  · intro hfail k e hk
    obtain ⟨hlength, hprocessed⟩ := hpasses.of_ends k _ hk (by rw [hfail]; rfl)
    have herror : processed = .error (.recordFailed (k + 1) e) := by
      rw [hprocessed, hfail]
      rfl
    rw [herror]
    exact ⟨hlength, firstFault_error _ _⟩
  · intro hskip haborted
    obtain ⟨hlength, hok⟩ := hpasses.of_none_ends (Passes.none_ends_of_skip hskip haborted)
    rw [hok]
    exact ⟨hlength, firstFault_ok _⟩
  · intro hok
    have hnone := hpasses.none_ends_of_ok (firstFault_eq_ok.mp hok).1
    obtain ⟨hlength, -⟩ := hpasses.of_none_ends hnone
    refine ⟨hlength, ?_⟩
    show r.summary = _
    rw [hsummary, hstart, Summary.foldl_count hnone, hlength, hrows]
    have hcount := countP_isNone_add_length (p.inputRecords store files options t.config.inputs)
    simp only [Nat.zero_add, hcount]

/-- A transformer whose script fails at the first record and returns null at all others. -/
def stumbling : Transformer Nat Unit Unit where
  engine := {
    example? := fun _ => none
    compileUnit := fun _ => .ofOutcome (.ok ())
    defines := fun _ _ => .ok true
    makeInstance := fun _ => .ofOutcome (.ok ())
    runEntry := fun _ entry _ inst scene =>
      (if scene.engine = 0 then .error (.invocation entry.name "not yet") else .ok .null, inst,
        { scene with engine := scene.engine + 1 }) }
  config := { inputs := [⟨"name", .any⟩], code := some "transform", variant := .simple }

/-- Of two records the first fails and is skipped, and the second is written. -/
theorem report_of_stumbling :
    let p : PlacedJob :=
      ⟨{ transformer := stumbling.config, source := some (.inline [[], []]) }, ""⟩
    let options : RunOptions := { onError := .skip }
    let start := (prepare Files.store stumbling p options (.new { engine := 0 } {})).2
    Report Files.account p options stumbling {} [⟨[]⟩, ⟨[]⟩]
      [.error (.script (.invocation "transform" "not yet")), .ok [[none]]]
      (stumbling.passed .skip [⟨[]⟩, ⟨[]⟩] start.toHosted).2
      (run Files.store stumbling p options (.new { engine := 0 } {})) := by
  intro p options start
  have hprepare : prepare Files.store stumbling p options (.new { engine := 0 } {}) =
    (.ok [⟨[]⟩, ⟨[]⟩], start) := Prod.ext rfl rfl
  exact report_of_run Files.account hprepare (Prod.ext rfl rfl)

end Run

end RowScript
