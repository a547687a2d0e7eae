import RowScript.Sink

/-!
# Sinks conserve rows

Rows are put into a sink one by one or in batches, and taken out all at once. What comes out of a sink in
memory, one time after the other, and what is in it in the end are the rows that were put, in order
(`SinkOp.conserved`).

A sink that takes a batch in one piece and one that takes the rows of a batch one by one cannot be told
apart: each operation does to both what it does to the list of their rows (`SinkOp.perform_of_appends`), so
a whole run gives the same (`SinkOp.runs_observe`). A handle only forwards, and so does a handle to a
handle (`SinkOp.through_eq`).
-/

namespace RowScript

/-- A sink whose rows can be counted and taken out. -/
class Drainable (τ : Type) extends RowSink τ where
  size : τ → Nat
  drain : τ → List OutputRow × τ

/-- A sink in memory: its rows can be told, and one row goes to the end. Nothing is said of batches. -/
class InMemory (τ : Type) extends Drainable τ where
  /-- The rows in a sink. -/
  rows : τ → List OutputRow
  rows_putRow : ∀ sink row, rows (putRow sink row) = rows sink ++ [row]
  size_eq : ∀ sink, size sink = (rows sink).length
  fst_drain : ∀ sink, (drain sink).1 = rows sink
  rows_snd_drain : ∀ sink, rows (drain sink).2 = []

instance : InMemory RowBuffer where
  toRowSink := RowBuffer.instRowSink
  size := RowBuffer.size
  drain := RowBuffer.drain
  rows := RowBuffer.rows
  rows_putRow := KeepsRows.rows_putRow
  size_eq _ := rfl
  fst_drain _ := rfl
  rows_snd_drain _ := rfl

instance : InMemory RowList where
  toRowSink := RowList.instRowSink
  size l := l.rows.length
  drain := RowList.drain
  rows := RowList.rows
  rows_putRow := KeepsRows.rows_putRow
  size_eq _ := rfl
  fst_drain _ := rfl
  rows_snd_drain _ := rfl

instance {τ : Type} [Drainable τ] : Drainable (SharedSink τ) where
  size s := Drainable.size s.sink
  drain s := ((Drainable.drain s.sink).1, ⟨(Drainable.drain s.sink).2⟩)

/-! ### Batches -/

/-- The sink knows only how to take one row: a batch is taken row by row. -/
def RowByRow (τ : Type) [RowSink τ] : Prop :=
  ∀ (sink : τ) (batch : List OutputRow), RowSink.putRows sink batch = batch.foldl RowSink.putRow sink

/-- A batch goes to the end, all of it and in order. -/
def Appends (τ : Type) [InMemory τ] : Prop :=
  ∀ (sink : τ) (batch : List OutputRow),
    InMemory.rows (RowSink.putRows sink batch) = InMemory.rows sink ++ batch

theorem appends_rowBuffer : Appends RowBuffer := fun _ _ => rfl

theorem RowByRow.appends {τ : Type} [InMemory τ] (h : RowByRow τ) : Appends τ := by
  intro sink batch
  rw [h]
  induction batch generalizing sink with
  | nil => rw [List.foldl_nil, List.append_nil]
  | cons row rest ih =>
    rw [List.foldl_cons, ih, InMemory.rows_putRow, List.append_assoc, List.singleton_append]

/-! ### Operations -/

/-- What is done to a sink. -/
inductive SinkOp
  | putRow (row : OutputRow)
  | putRows (batch : List OutputRow)
  | drain

namespace SinkOp

/-- The rows that an operation puts. -/
def puts : SinkOp → List OutputRow
  | putRow row => [row]
  | putRows batch => batch
  | drain => []

/-- What comes out, if the operation takes out, and the sink behind it. -/
def perform {τ : Type} [Drainable τ] : SinkOp → τ → Option (List OutputRow) × τ
  | putRow row, sink => (none, RowSink.putRow sink row)
  | putRows batch, sink => (none, RowSink.putRows sink batch)
  | drain, sink => (some (Drainable.drain sink).1, (Drainable.drain sink).2)

/-- The same for a list of rows. -/
def onList : SinkOp → List OutputRow → Option (List OutputRow) × List OutputRow
  | drain, rows => (some rows, [])
  | op, rows => (none, rows ++ op.puts)

theorem perform_of_appends {τ : Type} [InMemory τ] (h : Appends τ) (op : SinkOp) (sink : τ) :
    (op.perform sink).1 = (op.onList (InMemory.rows sink)).1 ∧
      InMemory.rows (op.perform sink).2 = (op.onList (InMemory.rows sink)).2 := by
  cases op with
  | putRow row => exact ⟨rfl, InMemory.rows_putRow sink row⟩
  | putRows batch => exact ⟨rfl, h sink batch⟩
  | drain => exact ⟨congrArg some (InMemory.fst_drain sink), InMemory.rows_snd_drain sink⟩

theorem onList_conserves (op : SinkOp) (rows : List OutputRow) :
    (op.onList rows).1.getD [] ++ (op.onList rows).2 = rows ++ op.puts := by
  cases op with
  | drain => rfl
  | putRow row => rfl
  | putRows batch => rfl

end SinkOp

/-! ### Handles -/

/-- A handle to a sink, or to a handle to it, and so on. -/
def Nested (τ : Type) : Nat → Type
  | 0 => τ
  | n + 1 => SharedSink (Nested τ n)

namespace Nested

variable {τ : Type}

/-- The handle to a sink. -/
def handle : (n : Nat) → τ → Nested τ n
  | 0, sink => sink
  | n + 1, sink => (⟨handle n sink⟩ : SharedSink (Nested τ n))

/-- The sink that a handle is for. -/
def target : (n : Nat) → Nested τ n → τ
  | 0, sink => sink
  | n + 1, s => target n (SharedSink.sink s)

/-- Each handle forwards to what it is a handle to. -/
instance instDrainable [Drainable τ] : (n : Nat) → Drainable (Nested τ n)
  | 0 => inferInstanceAs (Drainable τ)
  | n + 1 =>
    have : Drainable (Nested τ n) := instDrainable n
    inferInstanceAs (Drainable (SharedSink (Nested τ n)))

end Nested

namespace SinkOp

variable {τ : Type}

/-- Do an operation through a handle to a handle, so many times, to a sink. -/
def through [Drainable τ] (n : Nat) (op : SinkOp) (sink : τ) : Option (List OutputRow) × τ :=
  ((op.perform (Nested.handle n sink)).1, Nested.target n (op.perform (Nested.handle n sink)).2)

theorem through_succ [Drainable τ] (n : Nat) (op : SinkOp) (sink : τ) :
    op.through (n + 1) sink = op.through n sink := by
  cases op <;> rfl

theorem through_eq [Drainable τ] (n : Nat) (op : SinkOp) (sink : τ) :
    op.through n sink = op.perform sink := by
  induction n with
  | zero => rfl
  | succ n ih => rw [through_succ, ih]

/-! ### Runs -/

/-- What is seen of an operation: what came out, if it takes out, and how many rows are there then. -/
structure Seen where
  drained : Option (List OutputRow)
  size : Nat

/-- Do operations one after the other, each through as many handles as are told. -/
def observe [Drainable τ] : List (Nat × SinkOp) → τ → List Seen × τ
  | [], sink => ([], sink)
  | (n, op) :: ops, sink =>
    let (drained, next) := op.through n sink
    let (seen, last) := observe ops next
    (⟨drained, Drainable.size next⟩ :: seen, last)

/-- What is seen of operations on the rows of a sink, and the rows in the end. -/
inductive Runs : List SinkOp → List OutputRow → List Seen → List OutputRow → Prop
  | nil {rows} : Runs [] rows [] rows
  | cons {op : SinkOp} {ops rows seen left} : Runs ops (op.onList rows).2 seen left →
      Runs (op :: ops) rows (⟨(op.onList rows).1, (op.onList rows).2.length⟩ :: seen) left

theorem runs_observe [InMemory τ] (h : Appends τ) (ops : List (Nat × SinkOp)) (sink : τ) :
    Runs (ops.map Prod.snd) (InMemory.rows sink) (observe ops sink).1
      (InMemory.rows (observe ops sink).2) := by
  induction ops generalizing sink with
  | nil => exact .nil
  | cons first ops ih =>
    obtain ⟨n, op⟩ := first
    obtain ⟨hdrained, hrows⟩ := op.perform_of_appends h sink
    have hrest := ih (op.perform sink).2
    rw [hrows] at hrest
    have hseen := Runs.cons hrest
    rw [← hdrained, ← hrows, ← InMemory.size_eq] at hseen
    simp only [observe, through_eq]
    exact hseen

namespace Runs

variable {ops : List SinkOp} {rows left left' : List OutputRow} {seen seen' : List Seen}

theorem unique (h : Runs ops rows seen left) (h' : Runs ops rows seen' left') :
    seen = seen' ∧ left = left' := by
  induction h generalizing seen' left' with
  | nil =>
    cases h'
    exact ⟨rfl, rfl⟩
  | cons _ ih =>
    cases h' with
    | cons hrest =>
      obtain ⟨rfl, rfl⟩ := ih hrest
      exact ⟨rfl, rfl⟩

/-- What came out, followed by what is left, is what was there, followed by what was put. -/
theorem conserves (h : Runs ops rows seen left) :
    seen.flatMap (·.drained.getD []) ++ left = rows ++ ops.flatMap puts := by
  induction h with
  | nil => simp
  | @cons op ops rows seen left _ ih =>
    rw [List.flatMap_cons, List.flatMap_cons, List.append_assoc, ih, ← List.append_assoc,
      onList_conserves, List.append_assoc]

theorem empties (h : Runs ops rows seen left) : ∀ s ∈ seen, s.drained.isSome → s.size = 0 := by
  induction h with
  | nil => simp
  | @cons op ops rows seen left _ ih =>
    refine List.forall_mem_cons.mpr ⟨fun hdrained => ?_, ih⟩
    cases op with
    | drain => rfl
    | putRow row | putRows batch => cases hdrained

end Runs

/-- **Sinks conserve rows.** A buffer and a sink that knows only how to take one row, with the same rows
in them, are used by the same operations, each through any number of handles. Then the same is seen of
both: what each taking out gives and how many rows there are behind each operation. Nothing is left behind
a taking out, and no row is lost, doubled or moved: all that came out and what is left are the rows that
were there and those that were put. -/
theorem conserved [InMemory τ] (hplain : RowByRow τ) {sink : τ} {buffer : RowBuffer}
    (hrows : InMemory.rows sink = buffer.rows) {ops ops' : List (Nat × SinkOp)}
    (hops : ops'.map Prod.snd = ops.map Prod.snd) :
    (observe ops' sink).1 = (observe ops buffer).1 ∧
      InMemory.rows (observe ops' sink).2 = (observe ops buffer).2.rows ∧
      (observe ops buffer).1.flatMap (·.drained.getD []) ++ (observe ops buffer).2.rows =
        buffer.rows ++ (ops.map Prod.snd).flatMap puts ∧
      ∀ s ∈ (observe ops buffer).1, s.drained.isSome → s.size = 0 := by
  have hbuffer : Runs (ops.map Prod.snd) buffer.rows (observe ops buffer).1
      (observe ops buffer).2.rows := runs_observe appends_rowBuffer ops buffer
  have hsink := runs_observe hplain.appends ops' sink
  rw [hrows, hops] at hsink
  obtain ⟨hseen, hleft⟩ := hsink.unique hbuffer
  exact ⟨hseen, hleft, hbuffer.conserves, hbuffer.empties⟩

/-- A list that takes rows one by one, behind two handles, and a buffer that is used itself. -/
theorem conserved_list :
    let ops : List SinkOp := [.putRows [[some "a"], [none]], .drain, .putRow [], .putRows []]
    RowByRow RowList ∧
      (observe (ops.map (2, ·)) RowList.empty).1 = (observe (ops.map (0, ·)) RowBuffer.empty).1 ∧
      (observe (ops.map (0, ·)) RowBuffer.empty).1.map (fun s => (s.drained, s.size)) =
        [(none, 2), (some [[some "a"], [none]], 0), (none, 1), (none, 1)] ∧
      (observe (ops.map (2, ·)) RowList.empty).2.rows = [[]] := by
  intro ops
  have hplain : RowByRow RowList := fun _ _ => rfl
  obtain ⟨hseen, hleft, -, -⟩ :=
    @conserved RowList _ hplain .empty .empty rfl (ops.map (0, ·)) (ops.map (2, ·)) rfl
  exact ⟨hplain, hseen, rfl, hleft⟩

end SinkOp

end RowScript
