import RowScript.Run.Basic

/-!
# Reading rows

The rows of a CSV table by its header. A record with a cell that cannot be read at its column's type is
skipped with a warning, or ends the reading; a record that is no part of a table always ends it.
-/

namespace RowScript

/-- What is counted and logged on the way. -/
structure Tally where
  summary : Summary := {}
  log : Array LogEvent := #[]
  deriving Repr, DecidableEq, Inhabited

namespace Tally

/-- Count a record. -/
def countRecord (t : Tally) : Tally := { t with summary.records := t.summary.records + 1 }

/-- Count a failed record, and warn of it. -/
def countFailed (message : String) (number : Nat) (error : HostError) (t : Tally) : Tally :=
  { t with
    summary.failed := t.summary.failed + 1
    log := t.log.push ⟨.warn, message, [("record", toString number), ("error", error.message)]⟩ }

end Tally

/-- The places of the input columns in a header. Of columns of one name the first counts. -/
def columnPlaces (header : List String) : List InputColumn → Except InputFault (List Nat)
  | [] => .ok []
  | c :: rest =>
    match header.findIdx? (· == c.name) with
    | some i => (columnPlaces header rest).map (i :: ·)
    | none => .error (.missingColumn c.name)

/-- Read the cells at the places of the columns. Of columns of one name the last one's type counts. -/
def rowOfCells (cells : List String) : List (InputColumn × Nat) → Row → Except CellFault Row
  | [], row => .ok row
  | (c, i) :: rest, row => do
    let v ← c.type.parse (cells.getD i "")
    rowOfCells cells rest (row.insert c.name v)

/-- The rows in the records from the one with that number on. -/
def rowsFrom (columns : List (InputColumn × Nat)) (onError : OnError) :
    Nat → List (Except Csv.TableFault (List String)) → Attempt Tally InputFault (List Row)
  | _, [] => return []
  | _, .error fault :: _ => .fail (.record fault)
  | number, .ok cells :: rest =>
    match rowOfCells cells columns .empty, onError with
    | .ok row, _ => do return row :: (← rowsFrom columns onError (number + 1) rest)
    | .error fault, .skip => do
      .update fun t =>
        (t.countFailed "skipping unreadable record" number fault.toHostError).countRecord
      rowsFrom columns onError (number + 1) rest
    | .error fault, .fail => .fail (.cell number fault)

/-- The rows of a table. -/
def tableRows (inputs : List InputColumn) (onError : OnError) (table : Csv.Table) :
    Attempt Tally InputFault (List Row) :=
  match table.header with
  | .error fault => .fail (.header fault)
  | .ok header =>
    match columnPlaces header inputs with
    | .error fault => .fail fault
    | .ok places => rowsFrom (inputs.zip places) onError 1 table.records

end RowScript
