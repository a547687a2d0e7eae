import RowScript.Csv.Table
import RowScript.Files.Path
import RowScript.Job.Text
import RowScript.Settings

/-!
# Runs

What a run of a job is asked for, what it counts, and how it can fail. `RunFault.chain` tells a
fault from the outside to its cause.
-/

namespace RowScript

/-- A job, and the directory that the paths in it are seen from. -/
structure PlacedJob where
  job : Job
  base : String

structure RunOptions where
  /-- The CSV file to read instead of what the job names. -/
  input : Option String := none
  /-- The CSV file to write instead of what the job names. -/
  output : Option String := none
  threads : UInt64 := 1
  onError : OnError := .fail
  deriving Repr, DecidableEq, Inhabited

/-- Counts of a run. -/
structure Summary where
  /-- Records that were read. -/
  records : Nat := 0
  /-- Rows that were written. -/
  rows : Nat := 0
  /-- Records that failed and were skipped. -/
  failed : Nat := 0
  deriving Repr, DecidableEq, Inhabited

def Summary.text (s : Summary) : String :=
  s!"{s.records} record(s) in, {s.rows} row(s) out, {s.failed} failed"

/-- Why rows cannot be read from a CSV file. -/
inductive InputFault
  | unreadable (fault : FileFault)
  | header (fault : Csv.TableFault)
  | missingColumn (name : String)
  | record (fault : Csv.TableFault)
  | cell (number : Nat) (fault : CellFault)
  deriving Repr, DecidableEq

/-- A fault of a cell as an error of the host. -/
def CellFault.toHostError (fault : CellFault) : HostError := .config (.cell fault)

def InputFault.chain : InputFault → List String
  | unreadable fault => ["failed to read header", fault.message]
  | header fault => ["failed to read header", fault.message]
  | missingColumn name => [s!"input column '{name}' not found in header"]
  | record fault => [fault.message]
  | cell number fault => [s!"record {number}", fault.toHostError.message]

/-- Why a job did not run, or not to its end. -/
inductive RunFault
  | jobUnread (path : String) (fault : FileFault)
  | jobInvalid (path : String) (fault : JobFault)
  | noSource
  | inputUnopened (path : String) (fault : FileFault)
  | inputUnread (path : String) (fault : InputFault)
  | notLoaded (error : HostError)
  | outputNotCreated (path : String) (fault : FileFault)
  | headerNotWritten (fault : FileFault)
  | rowNotWritten (fault : FileFault)
  | recordFailed (number : Nat) (error : HostError)
  | notClosed (error : HostError)
  | notFlushed (fault : FileFault)
  deriving Repr, DecidableEq

def RunFault.chain : RunFault → List String
  | jobUnread path fault => [s!"failed to read job {path}", fault.message]
  | jobInvalid path fault => [s!"invalid job {path}", fault.message]
  | noSource => ["job has no source; pass --input"]
  | inputUnopened path fault => [s!"failed to open input {path}", fault.message]
  | inputUnread path fault => s!"failed to read input {path}" :: fault.chain
  | notLoaded error => ["failed to initialize transformer", error.message]
  | outputNotCreated path fault => [s!"failed to create output {path}", fault.message]
  | headerNotWritten fault => ["failed to write header", fault.message]
  | rowNotWritten fault => ["failed to write output row", fault.message]
  | recordFailed number error => [s!"record {number} failed", error.message]
  | notClosed error => ["failed to close transformer", error.message]
  | notFlushed fault => ["failed to flush output", fault.message]

namespace PlacedJob

/-- Read the job in a file. -/
def load {φ : Type} (store : Store φ) (files : φ) (path : String) : Except RunFault PlacedJob :=
  match store.read files path with
  | .error fault => .error (.jobUnread path fault)
  | .ok data =>
    match Job.readFrom (some path) data with
    | .error fault => .error (.jobInvalid path fault)
    | .ok job => .ok ⟨job, parentPath path⟩

/-- A path in the job as seen from where the job is run. -/
def resolve (p : PlacedJob) (path : String) : String := joinPath p.base path

/-- The file to read, if rows come from one. -/
def inputPath? (p : PlacedJob) (options : RunOptions) : Option String :=
  match options.input, p.job.source with
  | some path, _ => some path
  | none, some (.file path) => some (p.resolve path)
  | none, _ => none

/-- Where rows go. -/
def target (p : PlacedJob) (options : RunOptions) : Target :=
  match options.output, p.job.sink with
  | some path, _ => .file path
  | none, some path => .file (p.resolve path)
  | none, none => .standard

/-- The limits of the script, which are `defaults` if the job sets none. -/
def limits (p : PlacedJob) (defaults : Option Limits) : Limits :=
  (p.job.limits.orElse fun _ => defaults).getD {}

end PlacedJob

end RowScript
