import RowScript.Output

/-!
# Sinks

Where the rows of a transformer go. A sink takes one row or all rows of a record; a sink that knows
only how to take one row takes many by taking each. `KeepsRows` are the sinks whose rows can be told
and that only grow at their end: those in memory, and handles to such sinks.
-/

namespace RowScript

/-- A sink for output rows. -/
class RowSink (τ : Type) where
  putRow : τ → OutputRow → τ
  putRows : τ → List OutputRow → τ := fun sink rows => rows.foldl putRow sink

/-- A sink in memory, which takes the rows of a record in one piece. -/
structure RowBuffer where
  rows : List OutputRow
  deriving Repr, DecidableEq, Inhabited

namespace RowBuffer

def empty : RowBuffer := ⟨[]⟩

def size (b : RowBuffer) : Nat := b.rows.length

/-- All rows in the order of arrival, and the empty buffer. -/
def drain (b : RowBuffer) : List OutputRow × RowBuffer := (b.rows, empty)

instance : RowSink RowBuffer where
  putRow b row := ⟨b.rows ++ [row]⟩
  putRows b rows := ⟨b.rows ++ rows⟩

end RowBuffer

/-- A sink in memory, which takes rows one by one. -/
structure RowList where
  rows : List OutputRow
  deriving Repr, DecidableEq, Inhabited

namespace RowList

def empty : RowList := ⟨[]⟩

/-- All rows in the order of arrival, and the empty list. -/
def drain (l : RowList) : List OutputRow × RowList := (l.rows, empty)

instance : RowSink RowList where
  putRow l row := ⟨l.rows ++ [row]⟩

end RowList

/-- A handle to a sink, which forwards to it. -/
structure SharedSink (τ : Type) where
  sink : τ
  deriving Repr, DecidableEq, Inhabited

instance {τ : Type} [RowSink τ] : RowSink (SharedSink τ) where
  putRow s row := ⟨RowSink.putRow s.sink row⟩
  putRows s rows := ⟨RowSink.putRows s.sink rows⟩

/-- A sink that keeps its rows in the order of arrival. -/
class KeepsRows (τ : Type) extends RowSink τ where
  /-- The rows in a sink. -/
  rows : τ → List OutputRow
  rows_putRow : ∀ sink row, rows (putRow sink row) = rows sink ++ [row]
  rows_putRows : ∀ sink batch, rows (putRows sink batch) = rows sink ++ batch

instance : KeepsRows RowBuffer where
  rows := RowBuffer.rows
  rows_putRow _ _ := rfl
  rows_putRows _ _ := rfl

theorem RowList.rows_foldl_putRow (batch : List OutputRow) (l : RowList) :
    (batch.foldl RowSink.putRow l).rows = l.rows ++ batch := by
  induction batch generalizing l with
  | nil => simp
  | cons row rest ih =>
    rw [List.foldl_cons, ih]
    simp [RowSink.putRow]

instance : KeepsRows RowList where
  rows := RowList.rows
  rows_putRow _ _ := rfl
  rows_putRows l batch := RowList.rows_foldl_putRow batch l

instance {τ : Type} [KeepsRows τ] : KeepsRows (SharedSink τ) where
  rows s := KeepsRows.rows s.sink
  rows_putRow s row := KeepsRows.rows_putRow s.sink row
  rows_putRows s batch := KeepsRows.rows_putRows s.sink batch

end RowScript
