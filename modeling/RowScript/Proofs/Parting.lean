import RowScript.Proofs.Course
import RowScript.Proofs.Feed

/-!
# Where runs part

A run under `fail` and a run under `skip` that begin alike go the same way until a record cannot be
read or fails. There the one under `fail` stops, and the other goes on from the same files and the
same script.

* If a record cannot be read, then the reading fails under `fail`, and under `skip` it is counted
  (`readRows_policies`).
* `Parting` is the relation of processing records under both: it goes one way and counts none as
  failed, or it parts, and what goes on counts one. A step keeps it if what comes behind does
  (`Parting.bind`); so does a record (`processRecord_parting`), and by induction so do records one
  after the other (`processFrom_parting`).
-/

namespace RowScript

/-- The same options under a policy. -/
def RunOptions.under (options : RunOptions) (onError : OnError) : RunOptions :=
  { options with onError }

/-- A fault of one record: it cannot be read, or it fails. -/
def RunFault.isOfRecord : RunFault → Bool
  | inputUnread _ (.cell _ _) | recordFailed _ _ => true
  | _ => false

/-- Under `fail` reading changes nothing. Under `skip` records are read alike, or one is counted as
failed. -/
theorem rowsFrom_policies (columns : List (InputColumn × Nat)) (number : Nat)
    (records : List (Except Csv.TableFault (List String))) (tally : Tally) :
    ∃ o, rowsFrom columns .fail number records tally = (o, tally) ∧
      (rowsFrom columns .skip number records tally = (o, tally) ∨
        (∃ place fault, o = .error (.cell place fault)) ∧
          tally.summary.failed <
            (rowsFrom columns .skip number records tally).2.summary.failed) := by
  induction records generalizing number tally with
  | nil => exact ⟨.ok [], rfl, .inl rfl⟩
  | cons record rest ih =>
    cases record with
    | error fault => exact ⟨.error (.record fault), rfl, .inl rfl⟩
    | ok cells =>
      cases hrow : rowOfCells cells columns .empty with
      | ok row =>
        obtain ⟨o, hfail, hskip⟩ := ih (number + 1) tally
        simp only [rowsFrom, hrow]
        rw [Attempt.bind_pure_apply (row :: ·), Attempt.bind_pure_apply (row :: ·), hfail]
        refine ⟨_, rfl, ?_⟩
        rcases hskip with hskip | ⟨⟨place, fault, rfl⟩, hcounted⟩
        · rw [hskip]
          exact .inl rfl
        · exact .inr ⟨⟨place, fault, rfl⟩, hcounted⟩
      | error fault =>
        simp only [rowsFrom, hrow]
        refine ⟨_, rfl, .inr ⟨⟨_, _, rfl⟩, ?_⟩⟩
        rw [Attempt.bind_apply_of_ok (Attempt.update_apply _)]
        -- the record is counted, and from there on the count does not fall
        obtain ⟨o, -, hskip⟩ := ih (number + 1)
          (tally.countFailed "skipping unreadable record" number fault.toHostError).countRecord
        rcases hskip with hskip | ⟨-, hcounted⟩
        · rw [hskip]
          exact Nat.lt_succ_self _
        · exact Nat.lt_trans (Nat.lt_succ_self _) hcounted

namespace Run

open Running Attempt

variable {φ σ υ ι : Type} {store : Store φ} {t : Transformer σ υ ι} {p : PlacedJob}
  {options : RunOptions}

theorem readRows_policies (store : Store φ) (t : Transformer σ υ ι) (p : PlacedJob)
    (options : RunOptions) (r : Running φ σ ι) :
    ∃ o, readRows store t p (options.under .fail) r = (o, r) ∧
      (readRows store t p (options.under .skip) r = (o, r) ∨
        (∃ fault, fault.isOfRecord ∧ o = .error fault) ∧ r.summary.failed <
          (readRows store t p (options.under .skip) r).2.summary.failed) := by
  rw [readRows_eq, readRows_eq]
  show ∃ o, readFeed .fail (p.feed store r.files options t.config.inputs) r = (o, r) ∧
    (readFeed .skip (p.feed store r.files options t.config.inputs) r = (o, r) ∨
      (∃ fault, fault.isOfRecord ∧ o = .error fault) ∧ r.summary.failed <
        (readFeed .skip (p.feed store r.files options t.config.inputs) r).2.summary.failed)
  cases p.feed store r.files options t.config.inputs with
  | nothing fault => exact ⟨_, rfl, .inl rfl⟩
  | given rows => exact ⟨_, rfl, .inl rfl⟩
  | table path columns records =>
    obtain ⟨o, hfail, hskip⟩ := rowsFrom_policies columns 1 records ⟨r.summary, r.world.log⟩
    refine ⟨_, mapError_apply_of _ (onTally_apply_of hfail), ?_⟩
    rcases hskip with hskip | ⟨⟨place, fault, rfl⟩, hcounted⟩
    · exact .inl (mapError_apply_of _ (onTally_apply_of hskip))
    · exact .inr ⟨⟨_, rfl, rfl⟩, hcounted⟩

/-! ### The count of failed records -/

theorem failed_writeRows (target : Target) (rows : List OutputRow) (r : Running φ σ ι) :
    (writeRows store target rows r).2.summary.failed = r.summary.failed := by
  obtain ⟨files, count, hkept⟩ := writeRows_kept store target rows r
  rw [hkept]

variable (store) in
theorem failed_settle_le (target : Target) (onError : OnError) (number : Nat)
    (o : Outcome HostError (Option OutputRow)) (r : Running φ σ ι) :
    r.summary.failed ≤ (settle store target onError number o r).2.summary.failed := by
  cases o with
  | aborted => exact Nat.le_refl _
  | ok back =>
    rw [settle, bind_apply_of_ok (onTally_apply_of (update_apply _)), failed_writeRows]
    exact Nat.le_refl _
  | error e =>
    rw [settle, bind_apply_of_ok (onTally_apply_of (update_apply _))]
    split
    · exact Nat.le_succ _
    · exact Nat.le_refl _

variable (store t) in
theorem failed_processRecord_le (target : Target) (onError : OnError) (number : Nat) (row : Row)
    (r : Running φ σ ι) :
    r.summary.failed ≤ (processRecord store t target onError number row r).2.summary.failed := by
  rcases htransform : t.transform row r.toPipeline with ⟨called, pipeline⟩
  rw [processRecord, bind_apply_of_ok (outcome_apply_of (onPipeline_apply_of htransform))]
  refine bind_keeps (P := fun r' : Running φ σ ι => r.summary.failed ≤ r'.summary.failed)
    (failed_settle_le store target onError number called { r with toPipeline := pipeline })
    fun _ r₁ hsettled => ?_
  have hsent : (writeRows store target r₁.sink.rows { r₁ with sink := .empty }).2.summary.failed =
    r₁.summary.failed := failed_writeRows _ _ _
  exact Nat.le_trans hsettled (Nat.le_of_eq hsent.symm)

variable (store t) in
theorem failed_processFrom_le (target : Target) (onError : OnError) (rows : List Row) (number : Nat)
    (r : Running φ σ ι) :
    r.summary.failed ≤ (processFrom store t target onError number rows r).2.summary.failed := by
  induction rows generalizing number r with
  | nil => exact Nat.le_refl _
  | cons row rest ih =>
    exact bind_keeps (P := fun r' : Running φ σ ι => r.summary.failed ≤ r'.summary.failed)
      (failed_processRecord_le store t target onError number row r)
      fun _ r₁ hrecord => Nat.le_trans hrecord (ih (number + 1) r₁)

/-! ### Records -/

variable (store t p options) in
/-- How records go under `fail` and under `skip` from one state on: they go one way, on which none
is counted as failed, or they part where one failed, at which the one run stops and the other does
not. -/
inductive Parting (r : Running φ σ ι) : Outcome RunFault Unit × Running φ σ ι →
    Outcome RunFault Unit × Running φ σ ι → Prop
  | same {result} (uncounted : result.2.summary.failed = r.summary.failed) :
      Parting r result result
  | parted {fault stopped skipped shared more result} (ofRecord : RunFault.isOfRecord fault)
      (reached : Goes store t p (options.under .skip) r shared (.ok ()) skipped)
      (alike : Alike skipped stopped)
      (others : Goes store t p (options.under .skip) skipped more result.1 result.2)
      (counted : r.summary.failed < result.2.summary.failed) :
      Parting r (.error fault, stopped) result

/-- Two runs part in a step, or behind it. -/
theorem Parting.bind {x x' : Attempt (Running φ σ ι) RunFault Unit}
    {f f' : Unit → Attempt (Running φ σ ι) RunFault Unit} {r r₀ : Running φ σ ι} {rows : List Row}
    (h : Parting store t p options r (x r₀) (x' r₀))
    (hgoes : Goes store t p (options.under .skip) r rows (x' r₀).1 (x' r₀).2)
    (hrest : ∀ r₁, Parting store t p options r₁ (f () r₁) (f' () r₁))
    (hothers : ∀ r₁, ∃ rows',
      Goes store t p (options.under .skip) r₁ rows' (f' () r₁).1 (f' () r₁).2)
    (hfailed : ∀ r₁, r₁.summary.failed ≤ (f' () r₁).2.summary.failed) :
    Parting store t p options r ((x >>= f) r₀) ((x' >>= f') r₀) := by
  rcases hx' : x' r₀ with ⟨o', r'⟩
  rcases hx : x r₀ with ⟨o, r₁⟩
  rw [hx, hx'] at h
  rw [hx'] at hgoes
  cases h with
  -- the runs have gone alike so far, and can part in what is left
  | same uncounted =>
    cases o' with
    | error fault =>
      rw [bind_apply_of_error hx, bind_apply_of_error hx']
      exact .same uncounted
    | aborted =>
      rw [bind_apply_of_aborted hx, bind_apply_of_aborted hx']
      exact .same uncounted
    | ok _ =>
      rw [bind_apply_of_ok hx, bind_apply_of_ok hx']
      have uncounted : r'.summary.failed = r.summary.failed := uncounted
      have hparting := hrest r'
      generalize f () r' = failing at hparting ⊢
      generalize f' () r' = skipping at hparting ⊢
      cases hparting with
      | same uncounted' => exact .same (uncounted'.trans uncounted)
      -- one run has ended, and the other goes on alone
      | parted ofRecord reached alike others counted =>
        exact .parted ofRecord (hgoes.append reached) alike others (uncounted ▸ counted)
  | parted ofRecord reached alike others counted =>
    rw [bind_apply_of_error hx]
    cases o' with
    | error fault' =>
      rw [bind_apply_of_error hx']
      exact .parted ofRecord reached alike others counted
    | aborted =>
      rw [bind_apply_of_aborted hx']
      exact .parted ofRecord reached alike others counted
    | ok _ =>
      rw [bind_apply_of_ok hx']
      obtain ⟨rows', hmore⟩ := hothers r'
      exact .parted ofRecord reached alike (others.append hmore)
        (Nat.lt_of_lt_of_le counted (hfailed r'))

theorem settle_parting (number : Nat) {row : Row} {r : Running φ σ ι}
    {o : Outcome HostError (Option OutputRow)} {pipeline : Pipeline σ ι RowBuffer}
    (htransform : t.transform row r.toPipeline = (o, pipeline)) :
    let r₁ : Running φ σ ι := { r with toPipeline := pipeline }
    Parting store t p options r (settle store (p.target options) .fail number o r₁)
      (settle store (p.target options) .skip number o r₁) := by
  intro r₁
  have hgoes := settle_goes store p (options.under .skip) number htransform
  cases o with
  | aborted => exact .same rfl
  | ok back =>
    refine .same ?_
    rw [settle, bind_apply_of_ok (onTally_apply_of (update_apply _)), failed_writeRows]
    rfl
  | error e =>
    by_cases husage : e.isUsageError
    · have hsame : settle store (p.target options) .skip number (.error e) r₁ =
          settle store (p.target options) .fail number (.error e) r₁ := by
        simp [settle, husage]
      rw [hsame]
      exact .same rfl
    · have hskip : settle store (p.target options) .skip number (.error e) r₁ =
          (do
            onTally (.update Tally.countRecord)
            onTally (.update (Tally.countFailed "skipping record" number e))) r₁ := by
        simp [settle, husage]
      have hgoes : Goes store t p (options.under .skip) r [row]
        (settle store (p.target options) .skip number (.error e) r₁).1
        (settle store (p.target options) .skip number (.error e) r₁).2 := hgoes
      rw [hskip] at hgoes ⊢
      exact .parted rfl hgoes ⟨rfl, rfl⟩ (.idle (.refl _)) (Nat.lt_succ_self _)

variable (store t p options) in
theorem processRecord_parting (number : Nat) (row : Row) (r : Running φ σ ι) :
    Parting store t p options r
      (processRecord store t (p.target options) .fail number row r)
      (processRecord store t (p.target options) .skip number row r) := by
  rcases htransform : t.transform row r.toPipeline with ⟨called, pipeline⟩
  have hsettled : Goes store t p (options.under .skip) r [row]
      (settle store (p.target options) .skip number called { r with toPipeline := pipeline }).1
      (settle store (p.target options) .skip number called { r with toPipeline := pipeline }).2 :=
    settle_goes store p (options.under .skip) number htransform
  rw [processRecord, processRecord,
    bind_apply_of_ok (outcome_apply_of (onPipeline_apply_of htransform)),
    bind_apply_of_ok (outcome_apply_of (onPipeline_apply_of htransform))]
  -- what was sent to the sink is written under both
  have hsent : ∀ r₁ : Running φ σ ι, ∃ files count, ((do
      writeRows store (p.target options) (← drain) : Attempt (Running φ σ ι) RunFault Unit) r₁).2 =
        { r₁ with sink := .empty, files, summary.rows := count } := fun r₁ =>
    writeRows_kept store (p.target options) r₁.sink.rows { r₁ with sink := .empty }
  refine (settle_parting number htransform).bind hsettled (fun r₁ => .same ?_) (fun r₁ => ?_)
    (fun r₁ => ?_)
  · obtain ⟨files, count, hkept⟩ := hsent r₁
    rw [hkept]
  · have hgoes : Goes store t p (options.under .skip) { r₁ with sink := .empty } [] _ _ :=
      writeRows_goes r₁.sink.rows { r₁ with sink := .empty }
    exact ⟨[], hgoes.of_alike ⟨rfl, rfl⟩⟩
  · obtain ⟨files, count, hkept⟩ := hsent r₁
    exact Nat.le_of_eq (by rw [hkept])

variable (store t p options) in
theorem processFrom_parting (rows : List Row) (number : Nat) (r : Running φ σ ι) :
    Parting store t p options r
      (processFrom store t (p.target options) .fail number rows r)
      (processFrom store t (p.target options) .skip number rows r) := by
  induction rows generalizing number r with
  | nil => exact .same rfl
  | cons row rest ih =>
    refine (processRecord_parting store t p options number row r).bind
      (processRecord_goes store t p (options.under .skip) number row r)
      (fun r₁ => ih (number + 1) r₁) (fun r₁ => ?_)
      (fun r₁ => failed_processFrom_le store t _ _ _ _ r₁)
    obtain ⟨called, -, hgoes⟩ :=
      processFrom_goes store t p (options.under .skip) rest (number + 1) r₁
    exact ⟨called, hgoes⟩

theorem Parting.of_alike {r r₁ : Running φ σ ι}
    {failing skipping : Outcome RunFault Unit × Running φ σ ι}
    (h : Parting store t p options r₁ failing skipping) (alike : Alike r r₁)
    (hfailed : r₁.summary.failed = r.summary.failed) :
    Parting store t p options r failing skipping := by
  cases h with
  | same uncounted => exact .same (uncounted.trans hfailed)
  | parted ofRecord reached alike' others counted =>
    exact .parted ofRecord (reached.of_alike alike) alike' others (hfailed ▸ counted)

variable (store t p options) in
theorem processAll_parting (rows : List Row) (r : Running φ σ ι) :
    Parting store t p options r
      (processAll store t (p.target options) (options.under .fail) rows r)
      (processAll store t (p.target options) (options.under .skip) rows r) := by
  rw [processAll_apply, processAll_apply]
  refine (processFrom_parting store t p options rows 1 _).of_alike ?_ ?_
  · exact ⟨rfl, rfl⟩
  · exact rfl

end Run

end RowScript
