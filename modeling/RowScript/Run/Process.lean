import RowScript.Csv.Write
import RowScript.Run.Intake
import RowScript.Transformer

/-!
# Running a job

`run` reads all rows, loads the script, makes the output ready, transforms record by record, and closes.
After it `complete` brings to the output what is still under way.

* Nothing is written before the script is loaded, and input and output may be the same file.
* A loaded script is closed on every path on which it has not been aborted. If both a record and the
  closing fail, the record's error is told.
* The rows of a record are written before the next record is looked at.
-/

namespace RowScript

/-- What a run changes. -/
structure Running (φ σ ι : Type) extends Pipeline σ ι RowBuffer where
  files : φ
  summary : Summary := {}

namespace Running

variable {φ σ ι α ε : Type}

/-- A run about to begin. -/
def new (world : World σ) (files : φ) : Running φ σ ι := { Pipeline.new world .empty with files }

def onPipeline (x : Attempt (Pipeline σ ι RowBuffer) ε α) : Attempt (Running φ σ ι) ε α :=
  x.zoom Running.toPipeline fun pipeline r => { r with toPipeline := pipeline }

def onFiles (x : Attempt φ ε α) : Attempt (Running φ σ ι) ε α :=
  x.zoom Running.files fun files r => { r with files }

/-- Run a step that counts and logs. -/
def onTally (x : Attempt Tally ε α) : Attempt (Running φ σ ι) ε α :=
  x.zoom (fun r => ⟨r.summary, r.world.log⟩) fun tally r =>
    { r with summary := tally.summary, world.log := tally.log }

/-- Log a warning. -/
def warn (message : String) (fields : List (String × String)) : Attempt (Running φ σ ι) ε Unit :=
  onPipeline (Pipeline.onWorld (World.logAll [⟨.warn, message, fields⟩]))

/-- Take the rows out of the sink. -/
def drain : Attempt (Running φ σ ι) ε (List OutputRow) := fun r =>
  let (rows, sink) := r.sink.drain
  (.ok rows, { r with sink })

theorem onPipeline_apply_of {x : Attempt (Pipeline σ ι RowBuffer) ε α} {r : Running φ σ ι}
    {o : Outcome ε α} {pipeline : Pipeline σ ι RowBuffer} (h : x r.toPipeline = (o, pipeline)) :
    onPipeline x r = (o, { r with toPipeline := pipeline }) :=
  Attempt.zoom_apply_of _ _ h

theorem warn_apply (message : String) (fields : List (String × String)) (r : Running φ σ ι) :
    (warn message fields : Attempt (Running φ σ ι) ε Unit) r =
      (.ok (), { r with world := r.world.logAll [⟨.warn, message, fields⟩] }) := rfl

theorem onFiles_apply_of {x : Attempt φ ε α} {r : Running φ σ ι} {o : Outcome ε α} {files : φ}
    (h : x r.files = (o, files)) : onFiles x r = (o, { r with files }) :=
  Attempt.zoom_apply_of _ _ h

theorem onTally_apply_of {x : Attempt Tally ε α} {r : Running φ σ ι} {o : Outcome ε α}
    {tally : Tally} (h : x ⟨r.summary, r.world.log⟩ = (o, tally)) :
    onTally x r = (o, { r with summary := tally.summary, world.log := tally.log }) := by
  unfold onTally
  exact Attempt.zoom_apply_of _ _ h

end Running

namespace Run

open Running

variable {φ σ υ ι : Type} (store : Store φ) (t : Transformer σ υ ι)

/-- Read the rows of a CSV file. -/
def readFile (path : String) (onError : OnError) : Attempt (Running φ σ ι) RunFault (List Row) := do
  match store.read (← .read).files path with
  | .error fault =>
    .fail (if fault.isLate then .inputUnread path (.unreadable fault) else .inputUnopened path fault)
  | .ok data =>
    (onTally (tableRows t.config.inputs onError (Csv.tableOf (glyphs data)))).mapError
      (.inputUnread path)

/-- Read the rows of the job: from the file asked for, or from the job's source. -/
def readRows (p : PlacedJob) (options : RunOptions) : Attempt (Running φ σ ι) RunFault (List Row) :=
  match p.inputPath? options, p.job.source with
  | some path, _ => readFile store t path options.onError
  | none, some (.inline rows) => return rows.map Row.mk
  | none, _ => .fail .noSource

/-- Make the output ready and write its header. -/
def openOutput (target : Target) : Attempt (Running φ σ ι) RunFault Unit := do
  let path := match target with
    | .standard => ""
    | .file path => path
  (onFiles (store.create target)).mapError (.outputNotCreated path)
  (onFiles (store.append target (Csv.line t.outputColumns))).mapError .headerNotWritten

/-- Write rows and count them. -/
def writeRows (target : Target) : List OutputRow → Attempt (Running φ σ ι) RunFault Unit
  | [] => return ()
  | row :: rest => do
    (onFiles (store.append target (Csv.rowLine row))).mapError .rowNotWritten
    .update fun r => { r with summary.rows := r.summary.rows + 1 }
    writeRows target rest

/-- Count a record that was transformed, and write the row it gave or skip it. -/
def settle (target : Target) (onError : OnError) (number : Nat) :
    Outcome HostError (Option OutputRow) → Attempt (Running φ σ ι) RunFault Unit
  | .aborted => .ofOutcome .aborted
  | .ok row => do
    onTally (.update Tally.countRecord)
    writeRows store target row.toList
  | .error e => do
    onTally (.update Tally.countRecord)
    if onError = .skip ∧ !e.isUsageError then
      onTally (.update (Tally.countFailed "skipping record" number e))
    else .fail (.recordFailed number e)

/-- One record, from its transformation to its rows in the output. -/
def processRecord (target : Target) (onError : OnError) (number : Nat) (row : Row) :
    Attempt (Running φ σ ι) RunFault Unit := do
  settle store target onError number (← (onPipeline (t.transform row)).outcome)
  writeRows store target (← drain)

/-- The records from the one with that number on. -/
def processFrom (target : Target) (onError : OnError) :
    Nat → List Row → Attempt (Running φ σ ι) RunFault Unit
  | _, [] => return ()
  | number, row :: rest => do
    processRecord store t target onError number row
    processFrom target onError (number + 1) rest

/-- All records. There is one thread, whatever was asked for. -/
def processAll (target : Target) (options : RunOptions) (rows : List Row) :
    Attempt (Running φ σ ι) RunFault Unit := do
  if 1 < options.threads then
    warn "built without the \x60parallel\x60 feature; processing rows sequentially"
      [("threads", toString options.threads)]
  processFrom store t target options.onError 1 rows

/-- Close the script after the output could not be made ready. -/
def abandon : Attempt (Running φ σ ι) RunFault Unit := do
  match ← (onPipeline t.close).outcome with
  | .ok () => return ()
  | .error e => warn "failed to close transformer" [("error", e.message)]
  | .aborted => .ofOutcome .aborted

/-- Write what closing left in the sink. -/
def finish (target : Target) : Attempt (Running φ σ ι) RunFault Unit := do
  writeRows store target (← drain)

/-- How two steps end together if the second ran although the first failed. -/
def firstFault : Outcome RunFault Unit → Outcome RunFault Unit → Outcome RunFault Unit
  | .aborted, _ | _, .aborted => .aborted
  | .error e, _ => .error e
  | .ok (), closed => closed

/-- Process all records, then close the script. -/
def conclude (target : Target) (options : RunOptions) (rows : List Row) :
    Attempt (Running φ σ ι) RunFault Unit := do
  match ← (processAll store t target options rows).outcome with
  | .aborted => .ofOutcome .aborted
  | processed => do
    let closed ← (onPipeline t.close).outcome
    .ofOutcome (firstFault processed (closed.mapError .notClosed))
    finish store target

/-- Run a job up to its last row. -/
def run (p : PlacedJob) (options : RunOptions) : Attempt (Running φ σ ι) RunFault Unit := do
  let target := p.target options
  let rows ← readRows store t p options
  (onPipeline t.load).mapError .notLoaded
  match ← (openOutput store t target).outcome with
  | .aborted => .ofOutcome .aborted
  | .error e => do
    abandon t
    .fail e
  | .ok () => conclude store t target options rows

/-- Run a job to its end, when all that it wrote has arrived. -/
def complete (p : PlacedJob) (options : RunOptions) : Attempt (Running φ σ ι) RunFault Unit := do
  run store t p options
  (onFiles (store.flush (p.target options))).mapError .notFlushed

end Run

end RowScript
