import RowScript.Proofs.Feed
import RowScript.Proofs.Simulation

/-!
# Runs on stores that write alike

Once its rows are read, a run does nothing with files but write. So on two stores that write alike from
related states (`Store.WritesAlike`) a run goes alike from there on: it leaves the same pipeline, with
the same log, and the same counts, and files that are related again (`Running.Concordant`). There is one
lemma for each step of a run, in the order in which a run takes them, and `complete_alike` puts them
behind the reading of the rows.
-/

namespace RowScript

open Attempt

variable {φ φ' σ υ ι : Type}

/-- Two stores write alike if writing ends alike from related states and leaves related ones. -/
structure Store.WritesAlike (store : Store φ) (store' : Store φ') (R : φ → φ' → Prop) : Prop where
  create : ∀ target, Sim R Eq (store.create target) (store'.create target)
  append : ∀ target text, Sim R Eq (store.append target text) (store'.append target text)
  flush : ∀ target, Sim R Eq (store.flush target) (store'.flush target)

theorem Store.writesAlike_reading (store : Store φ) (read : φ → String → Except FileFault ByteArray) :
    store.WritesAlike { store with read } Eq where
  create _ := .refl _
  append _ _ := .refl _
  flush _ := .refl _

/-- Two runs that differ in nothing but their files, which are related. -/
structure Running.Concordant (R : φ → φ' → Prop) (r : Running φ σ ι) (r' : Running φ' σ ι) : Prop where
  pipeline : r.toPipeline = r'.toPipeline
  files : R r.files r'.files
  summary : r.summary = r'.summary

namespace Running

variable {ε α : Type} {R : φ → φ' → Prop}

theorem onPipeline_sim (x : Attempt (Pipeline σ ι RowBuffer) ε α) :
    Sim (Concordant R) Eq (onPipeline x) (onPipeline x) := by
  rintro ⟨pipeline, files, summary⟩ ⟨_, files', _⟩ ⟨rfl, hfiles, rfl⟩
  exact ⟨.of_eq rfl, rfl, hfiles, rfl⟩

theorem onFiles_sim {x : Attempt φ ε α} {y : Attempt φ' ε α} (h : Sim R Eq x y) :
    Sim (Concordant R) Eq (onFiles x : Attempt (Running φ σ ι) ε α) (onFiles y) := by
  rintro ⟨pipeline, files, summary⟩ ⟨_, files', _⟩ ⟨rfl, hfiles, rfl⟩
  obtain ⟨ho, hnext⟩ := h files files' hfiles
  exact ⟨ho, rfl, hnext, rfl⟩

theorem onTally_sim (x : Attempt Tally ε α) :
    Sim (Concordant R) Eq (onTally x : Attempt (Running φ σ ι) ε α) (onTally x) := by
  rintro ⟨pipeline, files, summary⟩ ⟨_, files', _⟩ ⟨rfl, hfiles, rfl⟩
  exact ⟨.of_eq rfl, rfl, hfiles, rfl⟩

theorem drain_sim :
    Sim (Concordant R) Eq (drain : Attempt (Running φ σ ι) ε (List OutputRow)) drain := by
  rintro ⟨pipeline, files, summary⟩ ⟨_, files', _⟩ ⟨rfl, hfiles, rfl⟩
  exact ⟨.of_eq rfl, rfl, hfiles, rfl⟩

theorem countRow_sim :
    Sim (Concordant R) Eq
      (.update fun r => { r with summary.rows := r.summary.rows + 1 } :
        Attempt (Running φ σ ι) ε Unit)
      (.update fun r => { r with summary.rows := r.summary.rows + 1 }) :=
  .update fun _ _ h => ⟨h.pipeline, h.files, by rw [h.summary]⟩

end Running

namespace Run

open Running

theorem readRows_file {store : Store φ} (t : Transformer σ υ ι) {p : PlacedJob}
    {options : RunOptions} {path : String} {data : ByteArray} {r : Running φ σ ι}
    (hpath : p.inputPath? options = some path) (hdata : store.read r.files path = .ok data) :
    readRows store t p options r =
      (onTally (tableRows t.config.inputs options.onError (Csv.tableOf (glyphs data)))).mapError
        (.inputUnread path) r := by
  simp only [readRows, hpath]
  rw [readFile, bind_apply_of_ok read_apply, hdata]

variable {store : Store φ} {store' : Store φ'} {R : φ → φ' → Prop}
  (writes : store.WritesAlike store' R) (t : Transformer σ υ ι) (target : Target)
include writes

theorem writeRows_sim (rows : List OutputRow) :
    Sim (Concordant R) Eq (writeRows store target rows : Attempt (Running φ σ ι) RunFault Unit)
      (writeRows store' target rows) := by
  induction rows with
  | nil => exact .pure rfl
  | cons row rest ih =>
    exact .bind ((onFiles_sim (writes.append target _)).mapError _) fun _ _ _ =>
      .bind countRow_sim fun _ _ _ => ih

theorem openOutput_sim :
    Sim (Concordant R) Eq (openOutput store t target : Attempt (Running φ σ ι) RunFault Unit)
      (openOutput store' t target) :=
  .bind ((onFiles_sim (writes.create target)).mapError _) fun _ _ _ =>
    (onFiles_sim (writes.append target _)).mapError _

theorem settle_sim (onError : OnError) (number : Nat)
    (o : Outcome HostError (Option OutputRow)) :
    Sim (Concordant R) Eq
      (settle store target onError number o : Attempt (Running φ σ ι) RunFault Unit)
      (settle store' target onError number o) := by
  cases o with
  | aborted => exact .ofOutcome .aborted
  | ok row => exact .bind (onTally_sim _) fun _ _ _ => writeRows_sim writes target row.toList
  | error e =>
    refine .bind (onTally_sim _) fun _ _ _ => ?_
    split
    · exact onTally_sim _
    · exact .ofOutcome (.error _)

theorem processRecord_sim (onError : OnError) (number : Nat) (row : Row) :
    Sim (Concordant R) Eq
      (processRecord store t target onError number row : Attempt (Running φ σ ι) RunFault Unit)
      (processRecord store' t target onError number row) := by
  refine .bind (onPipeline_sim _).outcome ?_
  rintro o _ rfl
  refine .bind (settle_sim writes target onError number o) fun _ _ _ => .bind drain_sim ?_
  rintro rows _ rfl
  exact writeRows_sim writes target rows

theorem processFrom_sim (onError : OnError) (number : Nat) (rows : List Row) :
    Sim (Concordant R) Eq
      (processFrom store t target onError number rows : Attempt (Running φ σ ι) RunFault Unit)
      (processFrom store' t target onError number rows) := by
  induction rows generalizing number with
  | nil => exact .pure rfl
  | cons row rest ih =>
    exact .bind (processRecord_sim writes t target onError number row) fun _ _ _ => ih (number + 1)

theorem processAll_sim (options : RunOptions) (rows : List Row) :
    Sim (Concordant R) Eq
      (processAll store t target options rows : Attempt (Running φ σ ι) RunFault Unit)
      (processAll store' t target options rows) := by
  have hrecords := processFrom_sim writes t target options.onError 1 rows
  unfold processAll
  split
  · refine .bind (onPipeline_sim _) fun _ _ _ => ?_
    exact hrecords
  · exact hrecords

theorem finish_sim :
    Sim (Concordant R) Eq (finish store target : Attempt (Running φ σ ι) RunFault Unit)
      (finish store' target) := by
  refine .bind drain_sim ?_
  rintro rows _ rfl
  exact writeRows_sim writes target rows

omit writes in
theorem abandon_sim :
    Sim (Concordant R) Eq (abandon t : Attempt (Running φ σ ι) RunFault Unit) (abandon t) := by
  refine .bind (onPipeline_sim _).outcome ?_
  rintro o _ rfl
  cases o with
  | ok _ => exact .pure rfl
  | error e => exact onPipeline_sim _
  | aborted => exact .ofOutcome .aborted

theorem conclude_sim (options : RunOptions) (rows : List Row) :
    Sim (Concordant R) Eq
      (conclude store t target options rows : Attempt (Running φ σ ι) RunFault Unit)
      (conclude store' t target options rows) := by
  have hclosed (o : Outcome RunFault Unit) :
      Sim (Concordant R) Eq
        (do
          let closed ← (onPipeline t.close).outcome
          .ofOutcome (firstFault o (closed.mapError .notClosed))
          finish store target : Attempt (Running φ σ ι) RunFault Unit)
        (do
          let closed ← (onPipeline t.close).outcome
          .ofOutcome (firstFault o (closed.mapError .notClosed))
          finish store' target) := by
    refine .bind (onPipeline_sim _).outcome ?_
    rintro closed _ rfl
    exact .bind (.ofOutcome (.of_eq rfl)) fun _ _ _ => finish_sim writes target
  refine .bind (processAll_sim writes t target options rows).outcome ?_
  rintro o _ rfl
  cases o with
  | ok _ => exact hclosed _
  | error e => exact hclosed _
  | aborted => exact .ofOutcome .aborted

/-- Two runs that read alike go alike up to their last row. -/
theorem run_alike {p : PlacedJob} {options : RunOptions} {r : Running φ σ ι} {r' : Running φ' σ ι}
    (hread : Outcome.Sim Eq (readRows store t p options r).1 (readRows store' t p options r').1 ∧
      Concordant R (readRows store t p options r).2 (readRows store' t p options r').2) :
    Outcome.Sim Eq (run store t p options r).1 (run store' t p options r').1 ∧
      Concordant R (run store t p options r).2 (run store' t p options r').2 := by
  refine Sim.bind_at hread ?_
  rintro rows _ rfl
  refine .bind ((onPipeline_sim _).mapError _) fun _ _ _ => ?_
  refine .bind (openOutput_sim writes t (p.target options)).outcome ?_
  rintro o _ rfl
  cases o with
  | ok _ => exact conclude_sim writes t (p.target options) options rows
  | error e => exact .bind (abandon_sim t) fun _ _ _ => .ofOutcome (.error e)
  | aborted => exact .ofOutcome .aborted

/-- Two runs that read alike go alike to their end. -/
theorem complete_alike {p : PlacedJob} {options : RunOptions} {r : Running φ σ ι}
    {r' : Running φ' σ ι}
    (hread : Outcome.Sim Eq (readRows store t p options r).1 (readRows store' t p options r').1 ∧
      Concordant R (readRows store t p options r).2 (readRows store' t p options r').2) :
    Outcome.Sim Eq (complete store t p options r).1 (complete store' t p options r').1 ∧
      Concordant R (complete store t p options r).2 (complete store' t p options r').2 :=
  Sim.bind_at (run_alike writes t hread) fun _ _ _ =>
    (onFiles_sim (writes.flush (p.target options))).mapError _

end Run

end RowScript
