import RowScript.Proofs.Lifetimes
import RowScript.Proofs.Report

/-!
# The course of a run

A run is a sequence of effects on its script and its files: `Effect` names them, `Effect.attempt` is
each of them as an attempt, and `Performs` says that a run came from one state to another by some
effects in their order. `Course` is the language of these sequences. Each word of it ends at the
first effect that fails, but for closing the script, which a script that was loaded never misses.

`course_of_complete` puts every run into this language. It follows the code: rows are written up to
the first that cannot be (`writeRows_goes`), so a record is a call of the script and some writes
(`processRecord_goes`), and so are records one after the other, by induction over them
(`processFrom_goes`).
-/

namespace RowScript

/-- What a run does to its script and its files. -/
inductive Effect
  /-- Read all of the input. -/
  | read
  | load
  /-- Make the output ready. A file is there afterwards and is empty. -/
  | create
  | header
  /-- Call the script for the record with that number. -/
  | record (number : Nat) (row : Row)
  | write (row : OutputRow)
  | close
  | flush

namespace Effect

def isClose : Effect → Bool
  | close => true
  | _ => false

/-- What is done for the records one after the other. -/
def isOfRecord : Effect → Bool
  | record _ _ | write _ => true
  | _ => false

/-- The record for which the script is called. -/
def row? : Effect → Option Row
  | record _ row => some row
  | _ => none

end Effect

/-- An effect, and how it ended. -/
abbrev Done := Effect × Outcome RunFault Unit

/-- The records for which the script was called, in order. -/
def calledRows (done : List Done) : List Row := done.filterMap (·.1.row?)

namespace Running

variable {φ σ ι : Type}

/-- The script and the files are as they were. Counts, the log and the sink may have changed. -/
structure Alike (r r' : Running φ σ ι) : Prop where
  host : r'.toHosted.silent = r.toHosted.silent
  files : r'.files = r.files

theorem Alike.refl (r : Running φ σ ι) : Alike r r := ⟨rfl, rfl⟩

theorem Alike.trans {r₁ r₂ r₃ : Running φ σ ι} (h : Alike r₁ r₂) (h' : Alike r₂ r₃) :
    Alike r₁ r₃ :=
  ⟨h'.host.trans h.host, h'.files.trans h.files⟩

end Running

namespace Run

open Running Attempt

variable {φ σ υ ι : Type} (store : Store φ) (t : Transformer σ υ ι) (p : PlacedJob)
  (options : RunOptions)

/-- How a run goes on behind a call for a record. -/
def judged (onError : OnError) (number : Nat) :
    Outcome HostError (Option OutputRow) → Outcome RunFault Unit
  | .ok _ => .ok ()
  | .error e =>
    if onError = .skip ∧ !e.isUsageError then .ok () else .error (.recordFailed number e)
  | .aborted => .aborted

end Run

open Running Attempt Run in
/-- An effect as an attempt. A record that is skipped is no failure. -/
def Effect.attempt {φ σ υ ι : Type} (store : Store φ) (t : Transformer σ υ ι) (p : PlacedJob)
    (options : RunOptions) : Effect → Attempt (Running φ σ ι) RunFault Unit
  | read => do
    let _ ← readRows store t p options
  | load => (onPipeline t.load).mapError .notLoaded
  | create =>
    let path := match p.target options with
      | .standard => ""
      | .file path => path
    (onFiles (store.create (p.target options))).mapError (.outputNotCreated path)
  | header =>
    (onFiles (store.append (p.target options) (Csv.line t.outputColumns))).mapError
      .headerNotWritten
  | record number row => do
    .ofOutcome (judged options.onError number (← (onPipeline (t.transform row)).outcome))
  | write row =>
    (onFiles (store.append (p.target options) (Csv.rowLine row))).mapError .rowNotWritten
  | close => (onPipeline t.close).mapError .notClosed
  | flush => (onFiles (store.flush (p.target options))).mapError .notFlushed

namespace Run

open Running Attempt

variable {φ σ υ ι : Type} (store : Store φ) (t : Transformer σ υ ι) (p : PlacedJob)
  (options : RunOptions)

/-- A run came from one state to another by these effects and nothing else. Each of them begins with
the script and the files that the one before left. -/
inductive Performs : Running φ σ ι → List Done → Running φ σ ι → Prop
  | nothing {r r'} (alike : Alike r r') : Performs r [] r'
  | effect {r r₁ r₂ r' e o done} (alike : Alike r r₁)
      (performed : e.attempt store t p options r₁ = (o, r₂)) (others : Performs r₂ done r') :
      Performs r ((e, o) :: done) r'

/-- Calls and writes for records, up to the first that fails, and how they end. -/
inductive Straight : List Done → Outcome RunFault Unit → Prop
  | done : Straight [] (.ok ())
  | failed {e o} (ofRecord : e.isOfRecord) (fails : ¬ o.isOk) : Straight [(e, o)] o
  | passed {e done o} (ofRecord : e.isOfRecord) (others : Straight done o) :
      Straight ((e, .ok ()) :: done) o

/-- What is done while the script is there, and how it ends. -/
inductive Serving : List Done → Outcome RunFault Unit → Prop
  | uncreated {o} (fails : ¬ o.isOk) : Serving [(.create, o)] o
  | unheaded {o} (fails : ¬ o.isOk) : Serving [(.create, .ok ()), (.header, o)] o
  | processed {done o} (straight : Straight done o) :
      Serving ((.create, .ok ()) :: (.header, .ok ()) :: done) o

/-- What is done with a script that was loaded, and how it ends. The script is closed at the end,
unless something was aborted, and of two faults the first is told. -/
inductive Lived : List Done → Outcome RunFault Unit → Prop
  | aborted {done} (serving : Serving done .aborted) : Lived done .aborted
  | closed {done o} (closing : Outcome RunFault Unit) (serving : Serving done o)
      (returned : o ≠ .aborted) : Lived (done ++ [(.close, closing)]) (firstFault o closing)

/-- The courses that a run can take, and its result at the end of each. -/
inductive Course : List Done → Outcome RunFault Unit → Prop
  | unread {o} (fails : ¬ o.isOk) : Course [(.read, o)] o
  | unloaded {o} (fails : ¬ o.isOk) : Course [(.read, .ok ()), (.load, o)] o
  | failed {done o} (lived : Lived done o) (fails : ¬ o.isOk) :
      Course ((.read, .ok ()) :: (.load, .ok ()) :: done) o
  | flushed {done} (lived : Lived done (.ok ())) (o : Outcome RunFault Unit) :
      Course ((.read, .ok ()) :: (.load, .ok ()) :: (done ++ [(.flush, o)])) o

variable {store t p options}

/-! ### Effects one after the other -/

theorem Performs.of_alike {r r₁ r' : Running φ σ ι} {done : List Done} (alike : Alike r r₁)
    (h : Performs store t p options r₁ done r') : Performs store t p options r done r' := by
  cases h with
  | nothing alike' => exact .nothing (alike.trans alike')
  | effect alike' performed others => exact .effect (alike.trans alike') performed others

theorem Performs.append {r r' r'' : Running φ σ ι} {done done' : List Done}
    (h : Performs store t p options r done r') (h' : Performs store t p options r' done' r'') :
    Performs store t p options r (done ++ done') r'' := by
  induction h with
  | nothing alike => exact h'.of_alike alike
  | effect alike performed _ ih => exact .effect alike performed (ih h')

theorem Performs.to_alike {r r' r'' : Running φ σ ι} {done : List Done}
    (h : Performs store t p options r done r') (alike : Alike r' r'') :
    Performs store t p options r done r'' := by
  induction h with
  | nothing alike' => exact .nothing (alike'.trans alike)
  | effect alike' performed _ ih => exact .effect alike' performed (ih alike)

theorem Performs.one {r r' : Running φ σ ι} {e : Effect} {o : Outcome RunFault Unit}
    (performed : e.attempt store t p options r = (o, r')) :
    Performs store t p options r [(e, o)] r' :=
  .effect (.refl r) performed (.nothing (.refl r'))

theorem Straight.append {done done' : List Done} {o o' : Outcome RunFault Unit}
    (h : Straight done o) (hok : o = .ok ()) (h' : Straight done' o') :
    Straight (done ++ done') o' := by
  induction h with
  | done => exact h'
  | failed _ fails => exact absurd (by rw [hok]; rfl) fails
  | passed ofRecord _ ih => exact .passed ofRecord (ih hok)

theorem Straight.one {e : Effect} (ofRecord : e.isOfRecord) (o : Outcome RunFault Unit) :
    Straight [(e, o)] o := by
  cases o with
  | ok _ => exact .passed ofRecord .done
  | error fault => exact .failed ofRecord (by simp [Outcome.isOk])
  | aborted => exact .failed ofRecord (by simp [Outcome.isOk])

variable (store t p options) in
/-- A straight way from one state to another, calling the script for these rows. -/
def Goes (r : Running φ σ ι) (rows : List Row) (o : Outcome RunFault Unit) (r' : Running φ σ ι) :
    Prop :=
  ∃ done, Performs store t p options r done r' ∧ Straight done o ∧ calledRows done = rows

theorem Goes.idle {r r' : Running φ σ ι} (alike : Alike r r') :
    Goes store t p options r [] (.ok ()) r' :=
  ⟨[], .nothing alike, .done, rfl⟩

theorem Goes.of_alike {r r₁ r' : Running φ σ ι} {rows : List Row} {o : Outcome RunFault Unit}
    (h : Goes store t p options r₁ rows o r') (alike : Alike r r₁) :
    Goes store t p options r rows o r' := by
  obtain ⟨done, performs, straight, hrows⟩ := h
  exact ⟨done, performs.of_alike alike, straight, hrows⟩

theorem Goes.to_alike {r r' r'' : Running φ σ ι} {rows : List Row} {o : Outcome RunFault Unit}
    (h : Goes store t p options r rows o r') (alike : Alike r' r'') :
    Goes store t p options r rows o r'' := by
  obtain ⟨done, performs, straight, hrows⟩ := h
  exact ⟨done, performs.to_alike alike, straight, hrows⟩

theorem Goes.append {r r' r'' : Running φ σ ι} {rows rows' : List Row}
    {o : Outcome RunFault Unit} (h : Goes store t p options r rows (.ok ()) r')
    (h' : Goes store t p options r' rows' o r'') :
    Goes store t p options r (rows ++ rows') o r'' := by
  obtain ⟨done, performs, straight, rfl⟩ := h
  obtain ⟨done', performs', straight', rfl⟩ := h'
  exact ⟨done ++ done', performs.append performs', straight.append rfl straight',
    List.filterMap_append⟩

theorem Goes.one {r r' : Running φ σ ι} {e : Effect} {o : Outcome RunFault Unit}
    (ofRecord : e.isOfRecord) (performed : e.attempt store t p options r = (o, r')) :
    Goes store t p options r e.row?.toList o r' := by
  refine ⟨[(e, o)], .one performed, .one ofRecord o, ?_⟩
  cases e <;> rfl

/-! ### Records -/

theorem writeRows_goes (rows : List OutputRow) (r : Running φ σ ι) :
    Goes store t p options r [] (writeRows store (p.target options) rows r).1
      (writeRows store (p.target options) rows r).2 := by
  induction rows generalizing r with
  | nil => exact .idle (.refl r)
  | cons row rest ih =>
    rcases hwrite : (onFiles (store.append (p.target options) (Csv.rowLine row))).mapError
      RunFault.rowNotWritten r with ⟨o, r₁⟩
    have hone : Goes store t p options r [] o r₁ := .one (e := .write row) rfl hwrite
    rw [writeRows]
    cases o with
    | ok _ =>
      rw [bind_apply_of_ok hwrite, bind_apply_of_ok (update_apply _)]
      exact hone.append ((ih _).of_alike ⟨rfl, rfl⟩)
    | error fault =>
      rw [bind_apply_of_error hwrite]
      exact hone
    | aborted =>
      rw [bind_apply_of_aborted hwrite]
      exact hone

variable (store p options) in
/-- A record from its call to the row that it gave back. -/
theorem settle_goes (number : Nat) {row : Row} {r : Running φ σ ι}
    {o : Outcome HostError (Option OutputRow)} {pipeline : Pipeline σ ι RowBuffer}
    (htransform : t.transform row r.toPipeline = (o, pipeline)) :
    let r₁ : Running φ σ ι := { r with toPipeline := pipeline }
    Goes store t p options r [row] (settle store (p.target options) options.onError number o r₁).1
      (settle store (p.target options) options.onError number o r₁).2 := by
  intro r₁
  have hcall : Goes store t p options r [row] (judged options.onError number o) r₁ := by
    refine .one (e := .record number row) rfl ?_
    rw [Effect.attempt, bind_apply_of_ok (outcome_apply_of (onPipeline_apply_of htransform))]
    rfl
  generalize r₁ = r₁ at hcall ⊢
  cases o with
  | aborted => exact hcall
  | ok back =>
    rw [settle, bind_apply_of_ok (onTally_apply_of (update_apply _))]
    exact hcall.append ((writeRows_goes _ _).of_alike ⟨rfl, rfl⟩)
  | error e =>
    rw [settle, bind_apply_of_ok (onTally_apply_of (update_apply _))]
    rw [judged] at hcall
    split
    · next hskip =>
      rw [if_pos hskip] at hcall
      exact hcall.to_alike ⟨rfl, rfl⟩
    · next hskip =>
      rw [if_neg hskip] at hcall
      exact hcall.to_alike ⟨rfl, rfl⟩

variable (store t p options) in
theorem processRecord_goes (number : Nat) (row : Row) (r : Running φ σ ι) :
    Goes store t p options r [row]
      (processRecord store t (p.target options) options.onError number row r).1
      (processRecord store t (p.target options) options.onError number row r).2 := by
  rcases htransform : t.transform row r.toPipeline with ⟨called, pipeline⟩
  have hsettled := settle_goes store p options number htransform
  rw [processRecord, bind_apply_of_ok (outcome_apply_of (onPipeline_apply_of htransform))]
  rcases hsettle : settle store (p.target options) options.onError number called
    { r with toPipeline := pipeline } with ⟨o, r₁⟩
  simp only [hsettle] at hsettled
  cases o with
  | ok _ =>
    rw [bind_apply_of_ok hsettle]
    exact hsettled.append ((writeRows_goes _ _).of_alike ⟨rfl, rfl⟩)
  | error fault =>
    rw [bind_apply_of_error hsettle]
    exact hsettled
  | aborted =>
    rw [bind_apply_of_aborted hsettle]
    exact hsettled

variable (store t p options) in
theorem processFrom_goes (rows : List Row) (number : Nat) (r : Running φ σ ι) :
    ∃ called, called <+: rows ∧ Goes store t p options r called
      (processFrom store t (p.target options) options.onError number rows r).1
      (processFrom store t (p.target options) options.onError number rows r).2 := by
  induction rows generalizing number r with
  | nil => exact ⟨[], List.prefix_refl [], .idle (.refl r)⟩
  | cons row rest ih =>
    have hrecord := processRecord_goes store t p options number row r
    rw [processFrom]
    rcases hrun : processRecord store t (p.target options) options.onError number row r with ⟨o, r₁⟩
    rw [hrun] at hrecord
    cases o with
    | ok _ =>
      rw [bind_apply_of_ok hrun]
      obtain ⟨called, hcalled, hgoes⟩ := ih (number + 1) r₁
      exact ⟨row :: called, List.cons_prefix_cons.mpr ⟨rfl, hcalled⟩, hrecord.append hgoes⟩
    | error fault =>
      rw [bind_apply_of_error hrun]
      exact ⟨[row], List.cons_prefix_cons.mpr ⟨rfl, List.nil_prefix⟩, hrecord⟩
    | aborted =>
      rw [bind_apply_of_aborted hrun]
      exact ⟨[row], List.cons_prefix_cons.mpr ⟨rfl, List.nil_prefix⟩, hrecord⟩

variable (store t p options) in
theorem processAll_goes (rows : List Row) (r : Running φ σ ι) :
    ∃ called, called <+: rows ∧ Goes store t p options r called
      (processAll store t (p.target options) options rows r).1
      (processAll store t (p.target options) options rows r).2 := by
  rw [processAll_apply]
  obtain ⟨called, hcalled, hgoes⟩ := processFrom_goes store t p options rows 1 _
  exact ⟨called, hcalled, hgoes.of_alike ⟨rfl, rfl⟩⟩

/-! ### What closing finds in the sink -/

variable (store) in
theorem writeRows_kept (target : Target) (rows : List OutputRow) (r : Running φ σ ι) :
    ∃ files count,
      (writeRows store target rows r).2 = { r with files, summary.rows := count } := by
  induction rows generalizing r with
  | nil => exact ⟨r.files, r.summary.rows, rfl⟩
  | cons row rest ih =>
    rcases hwrite : store.append target (Csv.rowLine row) r.files with ⟨written, files⟩
    have hrow := mapError_apply_of RunFault.rowNotWritten (onFiles_apply_of (r := r) hwrite)
    rw [writeRows]
    cases written with
    | ok _ =>
      rw [bind_apply_of_ok hrow, bind_apply_of_ok (update_apply _)]
      obtain ⟨files', count, hrest⟩ := ih { r with files, summary.rows := r.summary.rows + 1 }
      exact ⟨files', count, hrest⟩
    | error fault =>
      rw [bind_apply_of_error hrow]
      exact ⟨files, r.summary.rows, rfl⟩
    | aborted =>
      rw [bind_apply_of_aborted hrow]
      exact ⟨files, r.summary.rows, rfl⟩

theorem toPipeline_writeRows {target : Target} {rows : List OutputRow} {r r' : Running φ σ ι}
    {o : Outcome RunFault Unit} (h : writeRows store target rows r = (o, r')) :
    r'.toPipeline = r.toPipeline := by
  obtain ⟨files, count, hkept⟩ := writeRows_kept store target rows r
  rw [h] at hkept
  obtain rfl : r' = _ := hkept
  rfl

/-- Behind a record nothing is in the sink. -/
theorem processRecord_sink {target : Target} {onError : OnError} {number : Nat} {row : Row}
    {r r' : Running φ σ ι}
    (h : processRecord store t target onError number row r = (.ok (), r')) : r'.sink = .empty := by
  obtain ⟨_, r₁, -, h⟩ := bind_eq_ok.mp h
  obtain ⟨⟨⟩, r₂, -, h⟩ := bind_eq_ok.mp h
  obtain ⟨_, r₃, hdrain, h⟩ := bind_eq_ok.mp h
  cases hdrain
  rw [toPipeline_writeRows h]

theorem processFrom_sink {target : Target} {onError : OnError} {rows : List Row} {number : Nat}
    {r r' : Running φ σ ι} (hsink : r.sink = .empty)
    (h : processFrom store t target onError number rows r = (.ok (), r')) : r'.sink = .empty := by
  induction rows generalizing number r with
  | nil =>
    cases h
    exact hsink
  | cons row rest ih =>
    obtain ⟨⟨⟩, r₁, hrecord, h⟩ := bind_eq_ok.mp h
    exact ih (processRecord_sink hrecord) h

theorem processAll_sink {target : Target} {rows : List Row} {r r' : Running φ σ ι}
    (hsink : r.sink = .empty) (h : processAll store t target options rows r = (.ok (), r')) :
    r'.sink = .empty := by
  rw [processAll_apply] at h
  refine processFrom_sink ?_ h
  exact hsink

theorem conclude_eq {target : Target} (rows : List Row) {r : Running φ σ ι}
    (hsink : r.sink = .empty) :
    conclude store t target options rows r =
      closing t (processAll store t target options rows r).1
        (processAll store t target options rows r).2 :=
  conclude_apply rfl fun hok => processAll_sink hsink (Prod.ext hok rfl)

/-! ### The whole run -/

theorem openOutput_eq : (openOutput store t (p.target options) : Attempt (Running φ σ ι) _ _) =
    (do
      Effect.create.attempt store t p options
      Effect.header.attempt store t p options) := rfl

theorem performs_openOutput {r r' : Running φ σ ι} {o : Outcome RunFault Unit}
    (h : openOutput store t (p.target options) r = (o, r')) :
    ∃ done, Performs store t p options r done r' ∧ calledRows done = [] ∧
      if o.isOk then done = [(.create, .ok ()), (.header, .ok ())] else Serving done o := by
  rcases hcreate : Effect.create.attempt store t p options r with ⟨created, r₁⟩
  rw [openOutput_eq] at h
  cases created with
  | ok _ =>
    rw [bind_apply_of_ok hcreate] at h
    refine ⟨_, (Performs.one hcreate).append (.one h), rfl, ?_⟩
    cases o with
    | ok _ => exact rfl
    | error fault => exact .unheaded (by simp [Outcome.isOk])
    | aborted => exact .unheaded (by simp [Outcome.isOk])
  | error fault =>
    rw [bind_apply_of_error hcreate] at h
    cases h
    exact ⟨_, .one hcreate, rfl, .uncreated (by simp [Outcome.isOk])⟩
  | aborted =>
    rw [bind_apply_of_aborted hcreate] at h
    cases h
    exact ⟨_, .one hcreate, rfl, .uncreated (by simp [Outcome.isOk])⟩

theorem calledRows_append (done done' : List Done) :
    calledRows (done ++ done') = calledRows done ++ calledRows done' :=
  List.filterMap_append

theorem performs_close {r r₁ r₂ : Running φ σ ι} {done : List Done} {o : Outcome RunFault Unit}
    {closed : Outcome HostError Unit} (h : Performs store t p options r done r₁)
    (hclose : (onPipeline t.close : Attempt (Running φ σ ι) _ _) r₁ = (closed, r₂))
    (serving : Serving done o) (returned : o ≠ .aborted) :
    ∃ done', Performs store t p options r done' r₂ ∧ calledRows done' = calledRows done ∧
      Lived done' (firstFault o (closed.mapError .notClosed)) := by
  have hattempt : Effect.close.attempt store t p options r₁ = (closed.mapError .notClosed, r₂) :=
    mapError_apply_of _ hclose
  refine ⟨_, h.append (.one hattempt), ?_, .closed _ serving returned⟩
  rw [calledRows_append]
  exact List.append_nil _

theorem lived_conclude {r r₁ : Running φ σ ι} {rows : List Row} (hsink : r₁.sink = .empty)
    (hopen : Performs store t p options r [(.create, .ok ()), (.header, .ok ())] r₁) :
    ∃ done, Performs store t p options r done
        (conclude store t (p.target options) options rows r₁).2 ∧ calledRows done <+: rows ∧
      Lived done (conclude store t (p.target options) options rows r₁).1 := by
  obtain ⟨called, hcalled, done, performs, straight, hdone⟩ :=
    processAll_goes store t p options rows r₁
  rcases hall : processAll store t (p.target options) options rows r₁ with ⟨o, r₂⟩
  rw [hall] at performs straight
  have hserving :
      Performs store t p options r ((.create, .ok ()) :: (.header, .ok ()) :: done) r₂ :=
    hopen.append performs
  rw [conclude_eq rows hsink, hall]
  have hclose : (onPipeline t.close : Attempt (Running φ σ ι) HostError Unit) r₂ =
    ((t.host.close r₂.toHosted).1, { r₂ with toHosted := (t.host.close r₂.toHosted).2 }) := rfl
  cases o with
  | aborted => exact ⟨_, hserving, hdone ▸ hcalled, .aborted (.processed straight)⟩
  | ok _ =>
    obtain ⟨done', performs', hrows, lived⟩ :=
      performs_close hserving hclose (.processed straight) (by simp)
    exact ⟨done', performs', hrows ▸ hdone ▸ hcalled, lived⟩
  | error fault =>
    obtain ⟨done', performs', hrows, lived⟩ :=
      performs_close hserving hclose (.processed straight) (by simp)
    exact ⟨done', performs', hrows ▸ hdone ▸ hcalled, lived⟩

/-- A script is closed whose output cannot be made ready; that it cannot be closed either is
logged. -/
theorem abandon_apply {r r₁ : Running φ σ ι} {closed : Outcome HostError Unit} (fault : RunFault)
    (hclose : (onPipeline t.close : Attempt (Running φ σ ι) _ _) r = (closed, r₁)) :
    ∃ r₂, Alike r₁ r₂ ∧ r₂.summary = r.summary ∧ (do
      abandon t
      .fail fault : Attempt (Running φ σ ι) RunFault Unit) r =
        (firstFault (.error fault) (closed.mapError .notClosed), r₂) := by
  have hsummary : r₁.summary = r.summary := by
    cases hclose
    rfl
  cases closed with
  | ok _ =>
    have h : abandon t r = (.ok (), r₁) := by
      rw [abandon, bind_apply_of_ok (outcome_apply_of hclose)]
      rfl
    exact ⟨r₁, .refl r₁, hsummary, bind_apply_of_ok h⟩
  | error e =>
    have h : abandon t r = warn "failed to close transformer" [("error", e.message)] r₁ := by
      rw [abandon, bind_apply_of_ok (outcome_apply_of hclose)]
    refine ⟨_, ?_, ?_, bind_apply_of_ok (h.trans (warn_apply _ _ _))⟩
    · exact ⟨rfl, rfl⟩
    · exact hsummary
  | aborted =>
    have h : abandon t r = (.aborted, r₁) := by
      rw [abandon, bind_apply_of_ok (outcome_apply_of hclose)]
      rfl
    exact ⟨r₁, .refl r₁, hsummary, bind_apply_of_aborted h⟩

variable (store t p options) in
/-- What a run does behind the load, by how the output was made ready. -/
def serve (rows : List Row) : Outcome RunFault Unit → Attempt (Running φ σ ι) RunFault Unit
  | .aborted => .ofOutcome .aborted
  | .error fault => do
    abandon t
    .fail fault
  | .ok () => conclude store t (p.target options) options rows

theorem run_of_loaded {r r₁ r₂ r₃ : Running φ σ ι} {rows : List Row} {o : Outcome RunFault Unit}
    (hread : readRows store t p options r = (.ok rows, r₁))
    (hload : (onPipeline t.load : Attempt (Running φ σ ι) HostError Unit) r₁ = (.ok (), r₂))
    (hopen : openOutput store t (p.target options) r₂ = (o, r₃)) :
    run store t p options r = serve store t p options rows o r₃ := by
  rw [run, bind_apply_of_ok hread, bind_apply_of_ok (mapError_apply_of _ hload),
    bind_apply_of_ok (outcome_apply_of hopen)]
  cases o <;> rfl

theorem lived_run {r r₁ r₂ : Running φ σ ι} {rows : List Row}
    (hread : readRows store t p options r = (.ok rows, r₁))
    (hload : (onPipeline t.load : Attempt (Running φ σ ι) HostError Unit) r₁ = (.ok (), r₂))
    (hsink : r₂.sink = .empty) :
    ∃ done, Performs store t p options r₂ done (run store t p options r).2 ∧
      calledRows done <+: rows ∧ Lived done (run store t p options r).1 := by
  rcases hopen : openOutput store t (p.target options) r₂ with ⟨o, r₃⟩
  obtain ⟨done, performs, hcalled, hdone⟩ := performs_openOutput hopen
  rw [run_of_loaded hread hload hopen]
  cases o with
  | aborted =>
    exact ⟨done, performs, hcalled ▸ List.nil_prefix, .aborted hdone⟩
  | ok _ =>
    cases hdone
    obtain ⟨files, rfl⟩ := openOutput_kept hopen
    exact lived_conclude hsink performs
  | error fault =>
    rcases hclose : (onPipeline t.close : Attempt (Running φ σ ι) HostError Unit) r₃
      with ⟨closed, r₄⟩
    obtain ⟨done', performs', hrows, lived⟩ := performs_close performs hclose hdone (by simp)
    obtain ⟨r₅, alike, -, habandon⟩ := abandon_apply fault hclose
    rw [serve, habandon]
    exact ⟨done', performs'.to_alike alike, by simp [hrows, hcalled], lived⟩

theorem readFile_alike (path : String) (onError : OnError) (r : Running φ σ ι) :
    Alike r (readFile store t path onError r).2 ∧
      (readFile store t path onError r).2.sink = r.sink := by
  rw [readFile, bind_apply_of_ok read_apply]
  cases store.read r.files path with
  | error fault => exact ⟨.refl r, rfl⟩
  | ok data => exact ⟨⟨rfl, rfl⟩, rfl⟩

theorem readRows_alike {r r' : Running φ σ ι} {o : Outcome RunFault (List Row)}
    (h : readRows store t p options r = (o, r')) : Alike r r' ∧ r'.sink = r.sink := by
  obtain rfl : _ = r' := congrArg Prod.snd h
  unfold readRows
  cases hpath : p.inputPath? options with
  | some path => exact readFile_alike path _ r
  | none =>
    cases hsource : p.job.source with
    | none => exact ⟨.refl r, rfl⟩
    | some source => cases source <;> exact ⟨.refl r, rfl⟩

theorem load_sink {r r' : Running φ σ ι}
    (h : (onPipeline t.load : Attempt (Running φ σ ι) HostError Unit) r = (.ok (), r')) :
    r'.sink = r.sink := by
  obtain ⟨pipeline, hload, rfl⟩ := zoom_eq_ok.mp h
  exact (load_ok hload).2

theorem run_of_unread {r r₁ : Running φ σ ι} {o : Outcome RunFault (List Row)}
    (hread : readRows store t p options r = (o, r₁)) (fails : ¬ o.isOk) :
    complete store t p options r = (o.map fun _ => (), r₁) := by
  cases o with
  | ok rows => exact absurd rfl fails
  | error fault => exact bind_apply_of_error (bind_apply_of_error hread)
  | aborted => exact bind_apply_of_aborted (bind_apply_of_aborted hread)

theorem run_of_unloaded {r r₁ r₂ : Running φ σ ι} {rows : List Row} {o : Outcome HostError Unit}
    (hread : readRows store t p options r = (.ok rows, r₁))
    (hload : (onPipeline t.load : Attempt (Running φ σ ι) _ _) r₁ = (o, r₂)) (fails : ¬ o.isOk) :
    complete store t p options r = (o.mapError .notLoaded, r₂) := by
  have hfails := mapError_apply_of RunFault.notLoaded hload
  cases o with
  | ok _ => exact absurd rfl fails
  | error e =>
    exact bind_apply_of_error ((bind_apply_of_ok hread).trans (bind_apply_of_error hfails))
  | aborted =>
    exact bind_apply_of_aborted ((bind_apply_of_ok hread).trans (bind_apply_of_aborted hfails))

/-- A script that was loaded is closed, and then what was written is brought to the output. -/
theorem course_of_loaded {r r₁ r₂ : Running φ σ ι} {rows : List Row} (hsink : r.sink = .empty)
    (hread : readRows store t p options r = (.ok rows, r₁))
    (hload : (onPipeline t.load : Attempt (Running φ σ ι) HostError Unit) r₁ = (.ok (), r₂)) :
    ∃ done, Performs store t p options r₂ done (complete store t p options r).2 ∧
      Course ((.read, .ok ()) :: (.load, .ok ()) :: done) (complete store t p options r).1 ∧
      calledRows done <+: rows := by
  have hkept : r₂.sink = .empty := (load_sink hload).trans ((readRows_alike hread).2.trans hsink)
  obtain ⟨done, performs, hcalled, lived⟩ := lived_run hread hload hkept
  rcases hrun : run store t p options r with ⟨o, r₃⟩
  rw [hrun] at performs lived
  rw [complete]
  cases o with
  | error fault =>
    rw [bind_apply_of_error hrun]
    exact ⟨done, performs, .failed lived (by simp [Outcome.isOk]), hcalled⟩
  | aborted =>
    rw [bind_apply_of_aborted hrun]
    exact ⟨done, performs, .failed lived (by simp [Outcome.isOk]), hcalled⟩
  | ok _ =>
    rw [bind_apply_of_ok hrun]
    rcases hflush : Effect.flush.attempt store t p options r₃ with ⟨flushed, r₄⟩
    have hlast : (onFiles (store.flush (p.target options))).mapError RunFault.notFlushed r₃ =
      (flushed, r₄) := hflush
    rw [hlast]
    refine ⟨_, performs.append (.one hflush), .flushed lived flushed, ?_⟩
    rw [calledRows_append]
    exact (List.append_nil _).symm ▸ hcalled

variable (store t p options) in
theorem complete_kept (r : Running φ σ ι) : ∃ files,
    (complete store t p options r).2 = { (run store t p options r).2 with files } ∧
      ∀ ledger : store.Ledger, ledger.holds files (p.target options) =
        ledger.holds (run store t p options r).2.files (p.target options) := by
  rcases hrun : run store t p options r with ⟨o, r'⟩
  rw [complete]
  cases o with
  | error fault =>
    rw [bind_apply_of_error hrun]
    exact ⟨r'.files, rfl, fun _ => rfl⟩
  | aborted =>
    rw [bind_apply_of_aborted hrun]
    exact ⟨r'.files, rfl, fun _ => rfl⟩
  | ok _ =>
    rw [bind_apply_of_ok hrun]
    rcases hflush : store.flush (p.target options) r'.files with ⟨flushed, files⟩
    rw [mapError_apply_of _ (onFiles_apply_of hflush)]
    exact ⟨files, rfl, fun ledger => ledger.flush hflush⟩

theorem complete_of_fails {r r' : Running φ σ ι} {o : Outcome RunFault Unit}
    (h : run store t p options r = (o, r')) (fails : ¬ o.isOk) :
    complete store t p options r = (o, r') := by
  cases o with
  | ok _ => exact absurd rfl fails
  | error fault => exact bind_apply_of_error h
  | aborted => exact bind_apply_of_aborted h

variable (store t p options) in
/-- A run that reads its input and loads the script. -/
def Loads (r : Running φ σ ι) : Prop :=
  ∃ rows r₁ r₂, readRows store t p options r = (.ok rows, r₁) ∧
    (onPipeline t.load : Attempt (Running φ σ ι) HostError Unit) r₁ = (.ok (), r₂)

variable (store t p options) in
/-- Every run takes one of the courses, and calls the script for the first of the rows it has
read. -/
theorem course_of_complete {r : Running φ σ ι} (hsink : r.sink = .empty) :
    ∃ done, Performs store t p options r done (complete store t p options r).2 ∧
      Course done (complete store t p options r).1 ∧
      (∀ rows r₁, readRows store t p options r = (.ok rows, r₁) → calledRows done <+: rows) ∧
      ((.load, .ok ()) ∈ done → Loads store t p options r) := by
  rcases hread : readRows store t p options r with ⟨o, r₁⟩
  have hreading : Effect.read.attempt store t p options r = (o.map fun _ => (), r₁) := by
    rw [Effect.attempt, bind_pure_apply fun _ => (), hread]
  -- a run ends unread or unloaded, or its script lives
  rcases o.ok_or_fails with ⟨rows, rfl⟩ | hunread
  · rcases hload : (onPipeline t.load : Attempt (Running φ σ ι) HostError Unit) r₁
      with ⟨loaded, r₂⟩
    have hloading : Effect.load.attempt store t p options r₁ = (loaded.mapError .notLoaded, r₂) :=
      mapError_apply_of _ hload
    have hbegun := (Performs.one hreading).append (.one hloading)
    rcases loaded.ok_or_fails with ⟨⟨⟩, rfl⟩ | hunloaded
    · obtain ⟨done, performs, course, hcalled⟩ := course_of_loaded hsink hread hload
      refine ⟨_, hbegun.append performs, course, ?_, fun _ => ⟨rows, r₁, r₂, hread, hload⟩⟩
      rintro _ _ ⟨⟩
      exact hcalled
    · rw [run_of_unloaded hread hload hunloaded]
      have hfails : ¬ (loaded.mapError RunFault.notLoaded).isOk := by rwa [Outcome.isOk_mapError]
      refine ⟨_, hbegun, .unloaded hfails, fun _ _ _ => List.nil_prefix, fun hmem => ?_⟩
      simp only [List.mem_append, List.mem_singleton, Prod.mk.injEq, reduceCtorEq, false_and,
        true_and, false_or] at hmem
      rw [← hmem] at hfails
      exact absurd rfl hfails
  · rw [run_of_unread hread hunread]
    have hfails : ¬ (o.map fun _ => ()).isOk := by rwa [Outcome.isOk_map]
    refine ⟨_, .one hreading, .unread hfails, fun _ _ _ => List.nil_prefix, fun hmem => ?_⟩
    rcases List.mem_singleton.mp hmem with ⟨⟩

end Run

end RowScript
