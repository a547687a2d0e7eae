import RowScript.Proofs.Tables
import RowScript.Proofs.Warnings

/-!
# Runs that skip

What `skip` can skip is a record that can be taken apart: cells that are no values of their columns,
and records that fail in the script or in the shape policy. If all records of a whole text are as
wide as its header, nothing in them ends the run (`SkipReport`). A record of another width is not
skipped. It ends the run before the script is loaded, whatever the policy is.
-/

namespace RowScript

/-- Under `skip`, reading ends at the first record that cannot be taken apart, or not at all. -/
theorem rowsFrom_skip (columns : List (InputColumn × Nat)) (number : Nat)
    (records : List (Except Csv.TableFault (List String))) (tally : Tally) :
    ((∀ record ∈ records, ∃ cells, record = .ok cells) ∧
        ∃ rows tally', rowsFrom columns .skip number records tally = (.ok rows, tally')) ∨
      ∃ fault tally', .error fault ∈ records ∧
        rowsFrom columns .skip number records tally = (.error (.record fault), tally') := by
  induction records generalizing number tally with
  | nil => exact .inl ⟨by simp, [], tally, rfl⟩
  | cons record rest ih =>
    cases record with
    | error fault => exact .inr ⟨fault, tally, List.mem_cons_self, rfl⟩
    | ok cells =>
      cases hrow : rowOfCells cells columns .empty with
      | ok row =>
        simp only [rowsFrom, hrow]
        rcases ih (number + 1) tally with ⟨hall, rows, tally', h⟩ | ⟨fault, tally', hmem, h⟩
        · refine .inl ⟨List.forall_mem_cons.mpr ⟨⟨cells, rfl⟩, hall⟩, row :: rows, tally', ?_⟩
          rw [Attempt.bind_apply_of_ok h]
          rfl
        · exact .inr ⟨fault, tally', List.mem_cons_of_mem _ hmem, Attempt.bind_apply_of_error h⟩
      | error cell =>
        simp only [rowsFrom, hrow]
        rw [Attempt.bind_apply_of_ok (Attempt.update_apply _)]
        rcases ih (number + 1) _ with ⟨hall, rows, tally', h⟩ | ⟨fault, tally', hmem, h⟩
        · exact .inl ⟨List.forall_mem_cons.mpr ⟨⟨cells, rfl⟩, hall⟩, rows, tally', h⟩
        · exact .inr ⟨fault, tally', List.mem_cons_of_mem _ hmem, h⟩

namespace Run

open Running Attempt

variable {φ σ υ ι : Type} {store : Store φ} {t : Transformer σ υ ι}

/-- What a run comes to that skips: from the records of the input, and the state in which the script
was when the first of them came. -/
structure SkipReport (ledger : store.Ledger) (t : Transformer σ υ ι) (target : Target) (files : φ)
    (records : List (Option Row)) (start : Hosted σ ι)
    (result : Outcome RunFault Unit × Running φ σ ι) : Prop where
  /-- All records that can be read are transformed. -/
  passes : (t.passed .skip (records.filterMap id) start).1.length = (records.filterMap id).length
  /-- The run ends as closing the script does. -/
  ends : result.1 =
    (t.host.close (t.passed .skip (records.filterMap id) start).2).1.mapError .notClosed
  /-- Each record is counted once, and once as failed if it could not be read or failed. -/
  summary : result.2.summary =
    { records := records.length
      rows := ((t.passed .skip (records.filterMap id) start).1.flatMap Outcome.rows).length
      failed := records.countP Option.isNone +
        (t.passed .skip (records.filterMap id) start).1.countP Outcome.isError }
  /-- The rows of every other record are written. -/
  written : ledger.holds result.2.files target = heldBefore ledger.toAccount files target ++
    (Csv.line t.outputColumns ++ String.join
      (((t.passed .skip (records.filterMap id) start).1.flatMap Outcome.rows).map
        Csv.rowLine)).toUTF8

theorem skipReport_of_prepare (ledger : store.Ledger) {p : PlacedJob} {options : RunOptions}
    (hskip : options.onError = .skip) {world : World σ} {files : φ} {rows : List Row}
    {start : Running φ σ ι}
    (hprepare : prepare store t p options (.new world files) = (.ok rows, start))
    (h : Undisturbed (complete store t p options (.new world files)).1) :
    SkipReport ledger t (p.target options) files
      (p.inputRecords store files options t.config.inputs) start.toHosted
      (complete store t p options (.new world files)) := by
  obtain ⟨⟨rfl, hstart, -⟩, -⟩ := between_of_prepare hprepare
  obtain ⟨r, hcomplete, hsummary, hholds⟩ := complete_of_undisturbed ledger hprepare h
  have hpasses := passes_passed t options.onError
    ((p.inputRecords store files options t.config.inputs).filterMap id) start.toHosted
  rw [hcomplete] at h ⊢
  have hnone := hpasses.none_ends_of_undisturbed hskip (undisturbed_of_firstFault h)
  obtain ⟨hlength, hok⟩ := hpasses.of_none_ends hnone
  have hcounts := Summary.foldl_count hnone start.summary
  rw [hok, firstFault_ok]
  rw [hskip] at hlength hcounts hsummary hholds ⊢
  refine ⟨hlength, rfl, ?_, hholds⟩
  have hcount := countP_isNone_add_length (p.inputRecords store files options t.config.inputs)
  rw [hsummary, hcounts, hstart, hlength]
  simp only [Nat.zero_add, hcount]

/-- **Skipping goes as far as the width of the records.** A run over a whole text under `skip`,
whose header has all columns and whose script can be loaded, ends as closing the script does if all
records are as wide as the header, having counted every record and written the rows of all that
did not fail. If one is not, then the run fails and nothing is written. -/
theorem skips_of_complete (ledger : store.Ledger) {p : PlacedJob} {options : RunOptions}
    {world : World σ} {files : φ} {path : String} {data : ByteArray} {header : List String}
    (hskip : options.onError = .skip) (hpath : p.inputPath? options = some path)
    (hdata : store.read files path = .ok data) (htext : none ∉ glyphs data)
    (hheader : (Csv.tableOf (glyphs data)).header = .ok header)
    (hcolumns : ∀ c ∈ t.config.inputs, c.name ∈ header)
    (hload : (t.load (.new world .empty : Pipeline σ ι RowBuffer)).1 = .ok ())
    (h : Undisturbed (complete store t p options (.new world files)).1) :
    (Csv.Uniform (glyphs data) → ∃ rows start,
      prepare store t p options (.new world files) = (.ok rows, start) ∧
        SkipReport ledger t (p.target options) files
          (p.inputRecords store files options t.config.inputs) start.toHosted
          (complete store t p options (.new world files))) ∧
    (¬ Csv.Uniform (glyphs data) → ∃ number place actual expected,
      (complete store t p options (.new world files)).1 =
          .error (.inputUnread path (.record (.width number place actual expected))) ∧
        (complete store t p options (.new world files)).2.files = files) := by
  obtain ⟨places, hplaces⟩ := columnPlaces_ok hcolumns
  have hfeed : p.feed store files options t.config.inputs =
      .table path (t.config.inputs.zip places) (Csv.tableOf (glyphs data)).records := by
    simp only [PlacedJob.feed, hpath, fileFeed, hdata, Feed.ofTable, hheader, hplaces]
  have hread : readRows store t p options (.new world files : Running φ σ ι) =
      (onTally (rowsFrom (t.config.inputs.zip places) .skip 1
        (Csv.tableOf (glyphs data)).records)).mapError (.inputUnread path) (.new world files) := by
    rw [readRows_eq, ← hskip]
    exact congrArg (fun feed => readFeed options.onError feed _) hfeed
  rw [Csv.uniform_iff htext]
  rcases rowsFrom_skip (t.config.inputs.zip places) 1 (Csv.tableOf (glyphs data)).records
    ⟨{}, world.log⟩ with ⟨hall, rows, tally, hrows⟩ | ⟨fault, tally, hmem, hrows⟩
  · refine ⟨fun _ => ?_, fun hnot => absurd hall hnot⟩
    have hread := hread.trans (mapError_apply_of _ (onTally_apply_of hrows))
    have hload' := hload
    rw [← t.load_of_log world tally.log] at hload'
    have hloaded := onPipeline_apply_of (φ := φ)
      (r := ⟨⟨⟨.unloaded, { world with log := tally.log }⟩, .empty⟩, files, tally.summary⟩)
      (Prod.ext hload' rfl)
    obtain ⟨files', hprepare⟩ := prepare_of_undisturbed hread hloaded h
    exact ⟨rows, _, hprepare, skipReport_of_prepare ledger hskip hprepare h⟩
  · obtain ⟨number, place, actual, expected, rfl⟩ := (Csv.whole_tableOf htext).records _ hmem
    refine ⟨fun hall => ?_, fun _ => ⟨number, place, actual, expected, ?_⟩⟩
    · obtain ⟨cells, hcells⟩ := hall _ hmem
      cases hcells
    · have hread := hread.trans (mapError_apply_of _ (onTally_apply_of hrows))
      rw [run_of_unread hread (by simp [Outcome.mapError, Outcome.isOk])]
      exact ⟨rfl, rfl⟩

/-- The text `n`, `0` in lines: a header and a record. -/
def evenData : ByteArray := ⟨#[110, 10, 48, 10]⟩

/-- The only record fails, and the run goes on to its end. -/
theorem skips_of_refusing :
    let result := complete (.ofData evenData) refusing refusingJob { onError := .skip }
      (.new { engine := () } "")
    ∃ rows start, prepare (.ofData evenData) refusing refusingJob { onError := .skip }
        (.new { engine := () } "") = (.ok rows, start) ∧
      SkipReport (Store.ofDataLedger evenData) refusing .standard ""
        (refusingJob.inputRecords (.ofData evenData) "" { onError := .skip } refusing.config.inputs)
        start.toHosted result :=
  (skips_of_complete (Store.ofDataLedger evenData) rfl rfl rfl (by decide +kernel)
    (show (Csv.tableOf (glyphs evenData)).header = .ok ["n"] by decide +kernel) (by decide) rfl
    (by decide +kernel)).1 (by decide +kernel)

/-- The text `n`, `1,2` in lines: a header, and a record that is wider. -/
def wideData : ByteArray := ⟨#[110, 10, 49, 44, 50, 10]⟩

/-- A record of another width is not skipped, though the text is whole, the header has the column,
and the script can be loaded and closed. -/
theorem complete_refusing_wide :
    none ∉ glyphs wideData ∧ (Csv.tableOf (glyphs wideData)).header = .ok ["n"] ∧
      (complete (.ofData wideData) refusing refusingJob { onError := .skip }
        (.new { engine := () } "")).1 =
          .error (.inputUnread "in" (.record (.width 1 ⟨2, 2⟩ 2 1))) := by
  decide +kernel

end Run

end RowScript
