import RowScript.Run.Process

/-!
# What is read of the input

`PlacedJob.inputRecords` are the data records of the input, each with the row in it if it can be
read. If the reading succeeds (`intake_readRows`), then the rows are those of the readable records
in their order, and the unreadable ones have been counted, as records and as failed. Under `fail`
there are none.
-/

namespace RowScript

/-- The rows in records, none in a record that cannot be read. -/
def readings (columns : List (InputColumn × Nat))
    (records : List (Except Csv.TableFault (List String))) : List (Option Row) :=
  records.map fun
    | .ok cells => (rowOfCells cells columns .empty).toOption
    | .error _ => none

/-- The rows in the records of a table by its header. A table without the columns has none. -/
def Csv.Table.readings (table : Csv.Table) (inputs : List InputColumn) : List (Option Row) :=
  match table.header with
  | .error _ => []
  | .ok header =>
    match columnPlaces header inputs with
    | .error _ => []
    | .ok places => RowScript.readings (inputs.zip places) table.records

/-- The data records of the input: the row in each, none if it cannot be read. -/
def PlacedJob.inputRecords {φ : Type} (store : Store φ) (files : φ) (p : PlacedJob)
    (options : RunOptions) (inputs : List InputColumn) : List (Option Row) :=
  match p.inputPath? options, p.job.source with
  | some path, _ =>
    match store.read files path with
    | .error _ => []
    | .ok data => (Csv.tableOf (glyphs data)).readings inputs
  | none, some (.inline rows) => rows.map fun values => some ⟨values⟩
  | none, _ => []

/-- What has become of records when they have been read: the rows of the readable ones are there,
and the others have been counted. -/
structure Intake (onError : OnError) (records : List (Option Row)) (rows : List Row)
    (before after : Summary) : Prop where
  rows : rows = records.filterMap id
  summary : after = { before with
    records := before.records + records.countP Option.isNone
    failed := before.failed + records.countP Option.isNone }
  of_fail : onError = .fail → none ∉ records

theorem readings_cons (columns : List (InputColumn × Nat)) (cells : List String)
    (rest : List (Except Csv.TableFault (List String))) :
    readings columns (.ok cells :: rest) =
      (rowOfCells cells columns .empty).toOption :: readings columns rest := rfl

theorem rowsFrom_cons_eq_ok {columns : List (InputColumn × Nat)} {onError : OnError} {number : Nat}
    {record : Except Csv.TableFault (List String)} {rest : List (Except Csv.TableFault (List String))}
    {rows : List Row} {tally tally' : Tally}
    (h : rowsFrom columns onError number (record :: rest) tally = (.ok rows, tally')) :
    ∃ cells, record = .ok cells ∧
      ((∃ row others, rowOfCells cells columns .empty = .ok row ∧ rows = row :: others ∧
          rowsFrom columns onError (number + 1) rest tally = (.ok others, tally')) ∨
        ∃ fault, rowOfCells cells columns .empty = .error fault ∧ onError = .skip ∧
          rowsFrom columns onError (number + 1) rest
            (tally.countFailed "skipping unreadable record" number fault.toHostError).countRecord =
              (.ok rows, tally')) := by
  cases record with
  | error fault => cases h
  | ok cells =>
    refine ⟨cells, rfl, ?_⟩
    cases hrow : rowOfCells cells columns .empty with
    | ok row =>
      simp only [rowsFrom, hrow] at h
      obtain ⟨others, between, hrest, hpure⟩ := Attempt.bind_eq_ok.mp h
      cases hpure
      exact .inl ⟨row, others, rfl, rfl, hrest⟩
    | error fault =>
      cases onError with
      | fail =>
        simp only [rowsFrom, hrow] at h
        cases h
      | skip =>
        simp only [rowsFrom, hrow] at h
        obtain ⟨_, between, hwarn, hrest⟩ := Attempt.bind_eq_ok.mp h
        cases hwarn
        exact .inr ⟨fault, rfl, rfl, hrest⟩

theorem intake_rowsFrom {columns : List (InputColumn × Nat)} {onError : OnError}
    (records : List (Except Csv.TableFault (List String))) (number : Nat) {rows : List Row}
    {tally tally' : Tally}
    (h : rowsFrom columns onError number records tally = (.ok rows, tally')) :
    Intake onError (readings columns records) rows tally.summary tally'.summary := by
  induction records generalizing number rows tally with
  | nil =>
    cases h
    exact ⟨rfl, rfl, by simp [readings]⟩
  | cons record rest ih =>
    obtain ⟨cells, rfl, ⟨row, others, hrow, rfl, hrest⟩ | ⟨fault, hrow, rfl, hrest⟩⟩ :=
      rowsFrom_cons_eq_ok h
    · obtain ⟨rfl, hsummary, hfail⟩ := ih _ hrest
      rw [readings_cons, hrow]
      refine ⟨rfl, ?_, ?_⟩
      · simpa [Except.toOption] using hsummary
      · simpa [Except.toOption] using hfail
    · obtain ⟨rfl, hsummary, -⟩ := ih _ hrest
      rw [readings_cons, hrow]
      refine ⟨rfl, ?_, by simp⟩
      rw [hsummary]
      simp [Tally.countFailed, Tally.countRecord, Except.toOption]
      omega

theorem intake_tableRows {inputs : List InputColumn} {onError : OnError} {table : Csv.Table}
    {rows : List Row} {tally tally' : Tally}
    (h : tableRows inputs onError table tally = (.ok rows, tally')) :
    Intake onError (table.readings inputs) rows tally.summary tally'.summary := by
  unfold tableRows at h
  unfold Csv.Table.readings
  cases hheader : table.header with
  | error fault =>
    rw [hheader] at h
    cases h
  | ok header =>
    rw [hheader] at h
    cases hplaces : columnPlaces header inputs with
    | error fault =>
      simp only [hplaces] at h
      cases h
    | ok places =>
      simp only [hplaces] at h ⊢
      exact intake_rowsFrom _ _ h

namespace Run

variable {φ σ υ ι : Type} {store : Store φ} {t : Transformer σ υ ι}

theorem intake_readFile {path : String} {onError : OnError} {world : World σ} {files : φ}
    {rows : List Row} {r : Running φ σ ι}
    (h : readFile store t path onError (.new world files) = (.ok rows, r)) :
    ∃ data log summary, store.read files path = .ok data ∧
      r = ⟨⟨⟨.unloaded, { world with log }⟩, .empty⟩, files, summary⟩ ∧
      Intake onError ((Csv.tableOf (glyphs data)).readings t.config.inputs) rows {} summary := by
  unfold readFile at h
  obtain ⟨_, _, hread, h⟩ := Attempt.bind_eq_ok.mp h
  cases hread
  cases hdata : store.read files path with
  | error fault =>
    simp only [Running.new, hdata] at h
    cases h
  | ok data =>
    simp only [Running.new, hdata] at h
    obtain ⟨tally, htable, rfl⟩ := Attempt.zoom_eq_ok.mp (Attempt.mapError_eq_ok.mp h)
    exact ⟨data, tally.log, tally.summary, rfl, rfl, intake_tableRows htable⟩

/-- Reading changes the counts and the log, and nothing else. -/
theorem intake_readRows {p : PlacedJob} {options : RunOptions} {world : World σ} {files : φ}
    {rows : List Row} {r : Running φ σ ι}
    (h : readRows store t p options (.new world files) = (.ok rows, r)) :
    ∃ log summary, r = ⟨⟨⟨.unloaded, { world with log }⟩, .empty⟩, files, summary⟩ ∧
      Intake options.onError (p.inputRecords store files options t.config.inputs) rows {}
        summary := by
  unfold readRows at h
  unfold PlacedJob.inputRecords
  cases hpath : p.inputPath? options with
  | some path =>
    simp only [hpath] at h ⊢
    obtain ⟨data, log, summary, hdata, hr, hintake⟩ := intake_readFile h
    rw [hdata]
    exact ⟨log, summary, hr, hintake⟩
  | none =>
    cases hsource : p.job.source with
    | none =>
      simp only [hpath, hsource] at h
      cases h
    | some source =>
      cases source with
      | file path =>
        simp only [hpath, hsource] at h
        cases h
      | «inline» given =>
        simp only [hpath, hsource] at h ⊢
        cases h
        refine ⟨world.log, {}, rfl, ?_, ?_, by simp⟩
        · simp [List.filterMap_map]
        · simp [List.countP_map, Function.comp_def]

end Run

end RowScript
