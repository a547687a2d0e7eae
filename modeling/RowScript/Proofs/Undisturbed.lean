import RowScript.Proofs.Course

/-!
# Runs that the output does not disturb

A run is undisturbed if it neither ended with a fault of its output nor was aborted. Then everything
that it had to write has been written: a write that fails ends the run with a fault of the output,
at the first row (`appendAll_of_writeRows`), in a record (`appendAll_of_processRecord`) and in
records one after the other, by induction over them (`appendAll_of_processFrom`).

So such a run comes to what its records give (`complete_of_undisturbed`). Where it writes has no
part in that, and two runs that differ in their outputs alone come to the same (`complete_elsewhere`).
-/

namespace RowScript

/-- A fault of making an output ready or writing to it. -/
def RunFault.isOfOutput : RunFault → Bool
  | outputNotCreated _ _ | headerNotWritten _ | rowNotWritten _ | notFlushed _ => true
  | _ => false

namespace Run

open Running Attempt

variable {φ σ υ ι : Type} {store : Store φ} {t : Transformer σ υ ι}

/-- Neither a fault of the output nor an abortion. -/
def Undisturbed : Outcome RunFault Unit → Bool
  | .ok _ => true
  | .error fault => !fault.isOfOutput
  | .aborted => false

/-! ### All has been written -/

theorem ok_of_undisturbed {ε : Type} {fault : ε → RunFault} (hfault : ∀ e, (fault e).isOfOutput)
    {o : Outcome ε Unit} (h : Undisturbed (o.mapError fault)) : o = .ok () := by
  cases o with
  | ok _ => rfl
  | error e => simp [Outcome.mapError, Undisturbed, hfault] at h
  | aborted => cases h

/-- What a step does that is undisturbed, a chain of it and others does. -/
theorem undisturbed_of_bind {x : Attempt (Running φ σ ι) RunFault Unit}
    {f : Unit → Attempt (Running φ σ ι) RunFault Unit} {r : Running φ σ ι}
    (h : Undisturbed ((x >>= f) r).1) : Undisturbed (x r).1 := by
  rcases hx : x r with ⟨o, r'⟩
  cases o with
  | ok _ => rfl
  | error fault =>
    rw [bind_apply_of_error hx] at h
    exact h
  | aborted =>
    rw [bind_apply_of_aborted hx] at h
    exact h

theorem appendAll_of_writeRows {target : Target} {rows : List OutputRow} {r : Running φ σ ι}
    (h : Undisturbed (writeRows store target rows r).1) :
    ∃ files, store.appendAll target (rows.map Csv.rowLine) r.files = (.ok (), files) := by
  induction rows generalizing r with
  | nil => exact ⟨r.files, rfl⟩
  | cons row rest ih =>
    rw [writeRows] at h
    rcases hwrite : store.append target (Csv.rowLine row) r.files with ⟨written, between⟩
    have hrow := mapError_apply_of RunFault.rowNotWritten (onFiles_apply_of (r := r) hwrite)
    have hfirst := undisturbed_of_bind h
    rw [hrow] at hfirst
    obtain rfl := ok_of_undisturbed (fun _ => rfl) hfirst
    rw [bind_apply_of_ok hrow, bind_apply_of_ok (update_apply _)] at h
    obtain ⟨files, hrest⟩ := ih h
    exact ⟨files, Store.appendAll_cons_ok.mpr ⟨between, hwrite, hrest⟩⟩

theorem appendAll_of_settle {target : Target} {onError : OnError} {number : Nat}
    {back : Option OutputRow} {r : Running φ σ ι}
    (h : Undisturbed (settle store target onError number (.ok back) r).1) :
    ∃ files, store.appendAll target (back.toList.map Csv.rowLine) r.files = (.ok (), files) := by
  rw [settle, bind_apply_of_ok (onTally_apply_of (update_apply _))] at h
  obtain ⟨files, hback⟩ := appendAll_of_writeRows h
  exact ⟨files, hback⟩

theorem appendAll_of_processRecord {target : Target} {onError : OnError} {number : Nat} {row : Row}
    {s : Hosted σ ι} {r : Running φ σ ι} (hbetween : Between s r)
    (h : Undisturbed (processRecord store t target onError number row r).1) :
    ∃ files, store.appendAll target ((t.given row s).1.rows.map Csv.rowLine) r.files =
      (.ok (), files) := by
  obtain ⟨hready, hhost, hsink⟩ := hbetween
  obtain ⟨⟨s', sink⟩, before, summary⟩ := r
  cases hsink
  have hready' : s'.lifecycle.isReady := by rwa [Hosted.lifecycle_of_silent_eq hhost]
  obtain ⟨houtcome, -⟩ := t.given_of_silent_eq row hready hhost
  obtain ⟨hgives, -⟩ := t.transform_gives row hready'
  rw [← houtcome]
  generalize htransform : t.transform row (⟨s', .empty⟩ : Pipeline σ ι RowBuffer) = result at hgives
  generalize t.given row s' = given at hgives ⊢
  unfold processRecord at h
  cases hgives with
  | aborted after => exact ⟨before, rfl⟩
  | error e after hproper => exact ⟨before, rfl⟩
  | rows back sink after =>
    rw [bind_apply_of_ok (outcome_apply_of (onPipeline_apply_of htransform))] at h
    -- the row that came back is written, and then those that went to the sink
    obtain ⟨between, hback⟩ := appendAll_of_settle (undisturbed_of_bind h)
    rw [bind_apply_of_ok (settle_ok hback)] at h
    obtain ⟨files, hsent⟩ := appendAll_of_writeRows h
    rw [Outcome.rows, List.map_append]
    exact ⟨files, Store.appendAll_append_ok.mpr ⟨between, hback, hsent⟩⟩

theorem appendAll_of_processFrom {target : Target} {onError : OnError} {rows : List Row}
    {number : Nat} {s : Hosted σ ι} {r : Running φ σ ι} (hbetween : Between s r)
    (h : Undisturbed (processFrom store t target onError number rows r).1) :
    ∃ files, store.appendAll target
      (((t.passed onError rows s).1.flatMap Outcome.rows).map Csv.rowLine) r.files =
        (.ok (), files) := by
  induction rows generalizing number s r with
  | nil => exact ⟨r.files, rfl⟩
  | cons row rest ih =>
    obtain ⟨between, hfirst⟩ := appendAll_of_processRecord hbetween (undisturbed_of_bind h)
    obtain ⟨r₁, hrecord, hbetween₁, rfl, -⟩ := processRecord_between number row hbetween hfirst
    rw [Transformer.passed]
    by_cases hends : (t.given row s).1.ends onError
    · rw [if_pos hends]
      exact ⟨r₁.files, by simpa using hfirst⟩
    · rw [if_neg hends]
      rw [verdict_of_not_ends hends] at hrecord
      rw [processFrom, bind_apply_of_ok hrecord] at h
      obtain ⟨files, hrest⟩ := ih hbetween₁ h
      refine ⟨files, ?_⟩
      rw [List.flatMap_cons, List.map_append]
      exact Store.appendAll_append_ok.mpr ⟨r₁.files, hfirst, hrest⟩

theorem appendAll_of_processAll {target : Target} {options : RunOptions} {rows : List Row}
    {s : Hosted σ ι} {r : Running φ σ ι} (hbetween : Between s r)
    (h : Undisturbed (processAll store t target options rows r).1) :
    ∃ files, store.appendAll target
      (((t.passed options.onError rows s).1.flatMap Outcome.rows).map Csv.rowLine) r.files =
        (.ok (), files) := by
  rw [processAll_apply] at h
  have hfiles := appendAll_of_processFrom (hbetween.logAll _) h
  exact hfiles

theorem undisturbed_of_firstFault {processed closed : Outcome RunFault Unit}
    (h : Undisturbed (firstFault processed closed)) : Undisturbed processed := by
  cases processed with
  | ok _ => rfl
  | aborted => exact h
  | error fault =>
    cases closed with
    | ok _ => exact h
    | error _ => exact h
    | aborted => cases h

theorem undisturbed_of_conclude {target : Target} {options : RunOptions} {rows : List Row}
    {r : Running φ σ ι} (h : Undisturbed (conclude store t target options rows r).1) :
    Undisturbed (processAll store t target options rows r).1 := by
  rcases hall : processAll store t target options rows r with ⟨processed, r₁⟩
  rw [conclude, bind_apply_of_ok (outcome_apply_of hall)] at h
  cases processed with
  | ok _ => rfl
  | aborted => exact h
  | error fault =>
    rcases hclose : (onPipeline t.close : Attempt (Running φ σ ι) HostError Unit) r₁
      with ⟨closed, r₂⟩
    simp only at h
    rw [bind_apply_of_ok (outcome_apply_of hclose)] at h
    exact undisturbed_of_firstFault (undisturbed_of_bind h)

theorem Passes.none_ends_of_undisturbed {onError : OnError} {rows : List Row}
    {outcomes : List (Outcome HostError (List OutputRow))} {processed : Outcome RunFault Unit}
    (hpasses : Passes onError rows outcomes processed) (hskip : onError = .skip)
    (h : Undisturbed processed) : ∀ o ∈ outcomes, o.ends onError = false := by
  refine Passes.none_ends_of_skip hskip fun haborted => ?_
  obtain ⟨k, hk⟩ := List.getElem?_of_mem haborted
  rw [(hpasses.of_ends k _ hk rfl).2] at h
  cases h

/-! ### The whole run -/

theorem openOutput_of_undisturbed {target : Target} {r r' : Running φ σ ι}
    {o : Outcome RunFault Unit} (h : openOutput store t target r = (o, r')) (ho : Undisturbed o) :
    o = .ok () := by
  rcases hcreate : store.create target r.files with ⟨created, files⟩
  have hcreating := fun path => mapError_apply_of (RunFault.outputNotCreated path)
    (onFiles_apply_of (r := r) hcreate)
  have hfirst : Undisturbed (openOutput store t target r).1 := by rwa [h]
  have hopened := undisturbed_of_bind hfirst
  rw [hcreating] at hopened
  obtain rfl := ok_of_undisturbed (fun _ => rfl) hopened
  rcases hheader : store.append target (Csv.line t.outputColumns) files with ⟨written, files'⟩
  unfold openOutput at h
  rw [bind_apply_of_ok (hcreating _), mapError_apply_of _ (onFiles_apply_of hheader)] at h
  cases h
  rw [ok_of_undisturbed (fun _ => rfl) ho]
  rfl

variable {p : PlacedJob} {options : RunOptions}

theorem prepare_of_undisturbed {r r₁ r₂ : Running φ σ ι}
    {rows : List Row} (hread : readRows store t p options r = (.ok rows, r₁))
    (hload : (onPipeline t.load : Attempt (Running φ σ ι) HostError Unit) r₁ = (.ok (), r₂))
    (h : Undisturbed (complete store t p options r).1) :
    ∃ files, prepare store t p options r = (.ok rows, { r₂ with files }) := by
  have hrun := undisturbed_of_bind h
  rcases hopen : openOutput store t (p.target options) r₂ with ⟨o, r₃⟩
  rw [run_of_loaded hread hload hopen] at hrun
  have hopened : o = .ok () := by
    cases o with
    | ok _ => rfl
    | aborted => cases hrun
    | error fault =>
      rcases hclose : (onPipeline t.close : Attempt (Running φ σ ι) HostError Unit) r₃
        with ⟨closed, r₄⟩
      obtain ⟨r₅, -, -, habandon⟩ := abandon_apply fault hclose
      rw [serve, habandon] at hrun
      exact openOutput_of_undisturbed hopen (undisturbed_of_firstFault hrun)
  subst hopened
  obtain ⟨files, rfl⟩ := openOutput_kept hopen
  exact ⟨files, prepare_eq_ok.mpr ⟨r₁, r₂, hread, hload, hopen⟩⟩

/-- An undisturbed run ends with what came first, a record or closing the script, and leaves the
header and the rows of the records that passed. -/
theorem complete_of_undisturbed (ledger : store.Ledger) {world : World σ} {files : φ}
    {rows : List Row} {start : Running φ σ ι}
    (hprepare : prepare store t p options (.new world files) = (.ok rows, start))
    (h : Undisturbed (complete store t p options (.new world files)).1) :
    let outcomes := (t.passed options.onError rows start.toHosted).1
    let last := (t.passed options.onError rows start.toHosted).2
    ∃ r, complete store t p options (.new world files) =
        (firstFault (verdicts options.onError 1 outcomes)
          ((t.host.close last).1.mapError .notClosed), r) ∧
      r.summary = outcomes.foldl (Summary.count options.onError) start.summary ∧
      ledger.holds r.files (p.target options) =
        heldBefore ledger.toAccount files (p.target options) ++
          (Csv.line t.outputColumns ++
            String.join ((outcomes.flatMap Outcome.rows).map Csv.rowLine)).toUTF8 := by
  intro outcomes last
  obtain ⟨-, hbetween, hheader⟩ := prepared_of_prepare ledger.toAccount hprepare
  have hrun := undisturbed_of_bind h
  rw [run_of_prepare hprepare] at hrun
  obtain ⟨written, hwrites⟩ :=
    appendAll_of_processAll hbetween (undisturbed_of_conclude hrun)
  obtain ⟨r, hconclude, -, rfl, hsummary⟩ := conclude_between options rows hbetween hwrites
  have hholds : ledger.holds r.files (p.target options) =
      heldBefore ledger.toAccount files (p.target options) ++
        (Csv.line t.outputColumns ++
          String.join ((outcomes.flatMap Outcome.rows).map Csv.rowLine)).toUTF8 := by
    rw [ledger.toAccount.holds_appendAll hwrites, hheader]
    simp [String.toByteArray_append, ByteArray.append_assoc, outcomes]
  rw [complete] at h ⊢
  rw [← run_of_prepare hprepare] at hconclude
  generalize firstFault (verdicts options.onError 1 outcomes)
    ((t.host.close last).1.mapError .notClosed) = result at hconclude ⊢
  cases result with
  | error fault => exact ⟨r, bind_apply_of_error hconclude, hsummary, hholds⟩
  | aborted => exact ⟨r, bind_apply_of_aborted hconclude, hsummary, hholds⟩
  | ok _ =>
    rw [bind_apply_of_ok hconclude] at h ⊢
    rcases hflush : store.flush (p.target options) r.files with ⟨flushed, files'⟩
    rw [mapError_apply_of _ (onFiles_apply_of hflush)] at h ⊢
    cases flushed with
    | error fault => cases h
    | aborted => cases h
    | ok _ => exact ⟨_, rfl, hsummary, (ledger.flush hflush).trans hholds⟩

/-- Where a run writes has no part in what it comes to. -/
theorem complete_elsewhere (ledger : store.Ledger) {world : World σ} {files : φ} {path : String}
    (other : String) (htarget : p.target options = .file path)
    (h : Undisturbed (complete store t p options (.new world files)).1)
    (hother : Undisturbed
      (complete store t p { options with output := some other } (.new world files)).1) :
    let here := complete store t p options (.new world files)
    let there := complete store t p { options with output := some other } (.new world files)
    there.1 = here.1 ∧ there.2.summary = here.2.summary ∧
      (Loads store t p options (.new world files : Running φ σ ι) →
        ledger.holds there.2.files (.file other) = ledger.holds here.2.files (.file path)) := by
  intro here there
  rcases hread : readRows store t p options (.new world files) with ⟨o, r₁⟩
  have hread' : readRows store t p { options with output := some other } (.new world files) =
    (o, r₁) := hread
  rcases o.ok_or_fails with ⟨rows, rfl⟩ | hunread
  · rcases hload : (onPipeline t.load : Attempt (Running φ σ ι) HostError Unit) r₁
      with ⟨loaded, r₂⟩
    rcases loaded.ok_or_fails with ⟨⟨⟩, rfl⟩ | hunloaded
    · obtain ⟨opened, hprepare⟩ := prepare_of_undisturbed hread hload h
      obtain ⟨opened', hprepare'⟩ := prepare_of_undisturbed hread' hload hother
      obtain ⟨r, hhere, hsummary, hholds⟩ := complete_of_undisturbed ledger hprepare h
      obtain ⟨r', hthere, hsummary', hholds'⟩ := complete_of_undisturbed ledger hprepare' hother
      simp only [here, there, hhere, hthere, true_and]
      refine ⟨hsummary'.trans hsummary.symm, fun _ => ?_⟩
      rw [htarget] at hholds
      exact hholds'.trans hholds.symm
    · simp only [here, there, run_of_unloaded hread hload hunloaded,
        run_of_unloaded hread' hload hunloaded, true_and]
      rintro ⟨_, _, r₃, hreads, hloads⟩
      cases hread.symm.trans hreads
      cases hload.symm.trans hloads
      exact absurd rfl hunloaded
  · simp only [here, there, run_of_unread hread hunread, run_of_unread hread' hunread, true_and]
    rintro ⟨rows, r₃, _, hreads, -⟩
    cases hread.symm.trans hreads
    exact absurd rfl hunread

end Run

end RowScript
