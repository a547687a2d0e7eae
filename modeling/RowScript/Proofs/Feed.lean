import RowScript.Proofs.Intake

/-!
# Where rows come from

`PlacedJob.feed` is what a job has to read: rows that are given, or the records of a table with the
places of the columns in them, or a fault that comes before the first record. It does not depend on
what is done about records that cannot be read. Reading is `rowsFrom` on these records, and nothing
else (`readRows_eq`).
-/

namespace RowScript

/-- What there is to read. -/
inductive Feed
  | nothing (fault : RunFault)
  | given (rows : List Row)
  /-- The records of the file at a path, with the columns at their places. -/
  | table (path : String) (columns : List (InputColumn × Nat))
    (records : List (Except Csv.TableFault (List String)))

namespace Feed

/-- What a table has to be read of. -/
def ofTable (path : String) (inputs : List InputColumn) (table : Csv.Table) : Feed :=
  match table.header with
  | .error fault => .nothing (.inputUnread path (.header fault))
  | .ok header =>
    match columnPlaces header inputs with
    | .error fault => .nothing (.inputUnread path fault)
    | .ok places => .table path (inputs.zip places) table.records

/-- The data records, none where the row in one cannot be read. -/
def readings : Feed → List (Option Row)
  | nothing _ => []
  | given rows => rows.map some
  | table _ columns records => RowScript.readings columns records

end Feed

/-- What the file at a path has to be read of. -/
def fileFeed {φ : Type} (store : Store φ) (files : φ) (inputs : List InputColumn)
    (path : String) : Feed :=
  match store.read files path with
  | .error fault =>
    .nothing
      (if fault.isLate then .inputUnread path (.unreadable fault) else .inputUnopened path fault)
  | .ok data => .ofTable path inputs (Csv.tableOf (glyphs data))

/-- What the job has to read. -/
def PlacedJob.feed {φ : Type} (store : Store φ) (files : φ) (p : PlacedJob) (options : RunOptions)
    (inputs : List InputColumn) : Feed :=
  match p.inputPath? options, p.job.source with
  | some path, _ => fileFeed store files inputs path
  | none, some (.inline rows) => .given (rows.map Row.mk)
  | none, _ => .nothing .noSource

theorem PlacedJob.readings_feed {φ : Type} (store : Store φ) (files : φ) (p : PlacedJob)
    (options : RunOptions) (inputs : List InputColumn) :
    (p.feed store files options inputs).readings = p.inputRecords store files options inputs := by
  unfold feed inputRecords
  cases p.inputPath? options with
  | some path =>
    simp only [fileFeed]
    cases store.read files path with
    | error fault => rfl
    | ok data =>
      simp only [Feed.ofTable, Csv.Table.readings]
      cases (Csv.tableOf (glyphs data)).header with
      | error fault => rfl
      | ok header =>
        simp only
        cases columnPlaces header inputs <;> rfl
  | none =>
    cases p.job.source with
    | none => rfl
    | some source =>
      cases source with
      | file path => rfl
      | «inline» rows => simp [Feed.readings, Function.comp_def]

namespace Run

open Running Attempt

variable {φ σ υ ι : Type} (store : Store φ) (t : Transformer σ υ ι)

/-- Read what there is to read. -/
def readFeed (onError : OnError) : Feed → Attempt (Running φ σ ι) RunFault (List Row)
  | .nothing fault => .fail fault
  | .given rows => return rows
  | .table path columns records =>
    (onTally (rowsFrom columns onError 1 records)).mapError (.inputUnread path)

/-- A table that was read has counted and logged, and nothing else has changed. -/
theorem readFeed_table_eq_ok {onError : OnError} {path : String}
    {columns : List (InputColumn × Nat)} {records : List (Except Csv.TableFault (List String))}
    {r r' : Running φ σ ι} {rows : List Row} :
    readFeed onError (.table path columns records) r = (.ok rows, r') ↔
      ∃ tally, rowsFrom columns onError 1 records ⟨r.summary, r.world.log⟩ = (.ok rows, tally) ∧
        r' = { r with summary := tally.summary, world.log := tally.log } := by
  rw [readFeed, mapError_eq_ok, onTally, zoom_eq_ok]
  exact exists_congr fun tally => and_congr_right fun _ => eq_comm

theorem readFile_eq (path : String) (onError : OnError) (r : Running φ σ ι) :
    readFile store t path onError r =
      readFeed onError (fileFeed store r.files t.config.inputs path) r := by
  rw [readFile, bind_apply_of_ok read_apply, fileFeed]
  cases store.read r.files path with
  | error fault => rfl
  | ok data =>
    simp only [tableRows, Feed.ofTable]
    cases (Csv.tableOf (glyphs data)).header with
    | error fault => rfl
    | ok header =>
      simp only
      cases columnPlaces header t.config.inputs <;> rfl

theorem readRows_eq (p : PlacedJob) (options : RunOptions) (r : Running φ σ ι) :
    readRows store t p options r =
      readFeed options.onError (p.feed store r.files options t.config.inputs) r := by
  unfold readRows PlacedJob.feed
  cases p.inputPath? options with
  | some path => exact readFile_eq store t path options.onError r
  | none =>
    cases p.job.source with
    | none => rfl
    | some source => cases source <;> rfl

end Run

end RowScript
