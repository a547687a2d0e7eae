import RowScript.Proofs.Logs
import RowScript.Proofs.Storage
import RowScript.Run.Process

/-!
# Processing records

Between two records the sink is empty and the script is ready (`Running.Between`). One record keeps
this, writes the rows that it gives, and counts itself (`processRecord_between`); so records one
after the other write the rows and make the counts of those that pass (`processAll_between`). That a
run is in another state than `Transformer.passed` tells of is because of its warnings only, which no
script sees.
-/

namespace RowScript

/-- Count a record by its outcome. -/
def Summary.count (onError : OnError) (s : Summary) :
    Outcome HostError (List OutputRow) → Summary
  | .ok rows => { s with records := s.records + 1, rows := s.rows + rows.length }
  | .error _ =>
    { s with records := s.records + 1, failed := s.failed + if onError = .skip then 1 else 0 }
  | .aborted => s

theorem Summary.foldl_count {onError : OnError}
    {outcomes : List (Outcome HostError (List OutputRow))}
    (h : ∀ o ∈ outcomes, o.ends onError = false)
    (s : Summary) :
    outcomes.foldl (Summary.count onError) s =
      ⟨s.records + outcomes.length, s.rows + (outcomes.flatMap Outcome.rows).length,
        s.failed + outcomes.countP Outcome.isError⟩ := by
  induction outcomes generalizing s with
  | nil => rfl
  | cons o rest ih =>
    have hfirst := h o List.mem_cons_self
    rw [List.foldl_cons, ih fun o ho => h o (List.mem_cons_of_mem _ ho)]
    cases o with
    | aborted => cases hfirst
    | ok rows =>
      simp [Summary.count, Outcome.rows, Outcome.isError]
      omega
    | error e =>
      have hskip : onError = .skip := by
        cases onError with
        | fail => cases hfirst
        | skip => rfl
      simp [Summary.count, Outcome.rows, Outcome.isError, List.countP_cons, hskip]
      omega

namespace Running

variable {φ σ ι : Type}

/-- A run between two records, by the script's state: it is ready, and nothing is in the sink. The
logs may differ. -/
structure Between (s : Hosted σ ι) (r : Running φ σ ι) : Prop where
  ready : s.lifecycle.isReady
  host : r.toHosted.silent = s.silent
  sink : r.sink = .empty

theorem Between.logAll {s : Hosted σ ι} {r : Running φ σ ι} (h : Between s r)
    (es : List LogEvent) : Between s { r with world := r.world.logAll es } :=
  ⟨h.ready, h.host, h.sink⟩

end Running

namespace Run

open Running Attempt

variable {φ σ υ ι : Type} (store : Store φ) (t : Transformer σ υ ι) (target : Target)
  (onError : OnError)

/-- How a run goes on behind a record. -/
def verdict (number : Nat) : Outcome HostError (List OutputRow) → Outcome RunFault Unit
  | .ok _ => .ok ()
  | .error e => if onError = .skip then .ok () else .error (.recordFailed number e)
  | .aborted => .aborted

/-- How a run goes on behind records, numbered from the given number on. -/
def verdicts : Nat → List (Outcome HostError (List OutputRow)) → Outcome RunFault Unit
  | _, [] => .ok ()
  | number, o :: rest => (verdict onError number o).bind fun _ => verdicts (number + 1) rest

variable {store t target onError}

theorem writeRows_apply {rows : List OutputRow} {r : Running φ σ ι} {files : φ}
    (h : store.appendAll target (rows.map Csv.rowLine) r.files = (.ok (), files)) :
    writeRows store target rows r =
      (.ok (), { r with files, summary.rows := r.summary.rows + rows.length }) := by
  induction rows generalizing r with
  | nil =>
    cases h
    rfl
  | cons row rest ih =>
    obtain ⟨between, hfirst, hrest⟩ := Store.appendAll_cons_ok.mp h
    rw [writeRows, bind_apply_of_ok (mapError_apply_of _ (onFiles_apply_of hfirst)),
      bind_apply_of_ok (update_apply _), ih hrest]
    simp only [List.length_cons, Nat.add_assoc, Nat.add_comm 1]

theorem settle_ok {number : Nat} {back : Option OutputRow} {r : Running φ σ ι} {files : φ}
    (h : store.appendAll target (back.toList.map Csv.rowLine) r.files = (.ok (), files)) :
    settle store target onError number (.ok back) r =
      (.ok (), { r with
        files
        summary.records := r.summary.records + 1
        summary.rows := r.summary.rows + back.toList.length }) := by
  rw [settle, bind_apply_of_ok (onTally_apply_of (update_apply _))]
  exact writeRows_apply h

variable (store target onError) in
theorem settle_error (number : Nat) {e : HostError} (hproper : e.isUsageError = false)
    (r : Running φ σ ι) :
    ∃ log, settle store target onError number (.error e) r =
      (verdict onError number (.error e), { r with
        summary := r.summary.count onError (.error e)
        world.log := log }) := by
  rw [settle, bind_apply_of_ok (onTally_apply_of (update_apply _))]
  cases onError with
  | fail => exact ⟨_, rfl⟩
  | skip =>
    rw [if_pos ⟨rfl, by rw [hproper]; rfl⟩]
    exact ⟨_, onTally_apply_of (update_apply _)⟩

theorem processRecord_between (number : Nat) (row : Row) {s : Hosted σ ι} {r : Running φ σ ι}
    {files : φ} (h : Between s r)
    (hwrites : store.appendAll target ((t.given row s).1.rows.map Csv.rowLine) r.files =
      (.ok (), files)) :
    ∃ r', processRecord store t target onError number row r =
        (verdict onError number (t.given row s).1, r') ∧
      Between (t.given row s).2 r' ∧ r'.files = files ∧
      r'.summary = r.summary.count onError (t.given row s).1 := by
  obtain ⟨hready, hhost, hsink⟩ := h
  obtain ⟨⟨s', sink⟩, before, summary⟩ := r
  cases hsink
  -- the record runs in the state of `r`, whose log may have more warnings than that of `s`
  obtain ⟨houtcome, hafter⟩ := t.given_of_silent_eq row hready hhost
  have hready' : s'.lifecycle.isReady := by rwa [Hosted.lifecycle_of_silent_eq hhost]
  obtain ⟨hgives, -⟩ := t.transform_gives row hready'
  obtain ⟨-, hnext⟩ := t.transform_gives row hready
  rw [← houtcome] at hwrites ⊢
  generalize htransform : t.transform row (⟨s', .empty⟩ : Pipeline σ ι RowBuffer) = result at hgives
  generalize t.given row s' = given at hgives hwrites hafter ⊢
  unfold processRecord
  cases hgives with
  | aborted after =>
    cases hwrites
    rw [bind_apply_of_ok (outcome_apply_of (onPipeline_apply_of htransform))]
    exact ⟨_, bind_apply_of_aborted rfl, ⟨hnext, hafter, rfl⟩, rfl, rfl⟩
  | error e after hproper =>
    cases hwrites
    rw [bind_apply_of_ok (outcome_apply_of (onPipeline_apply_of htransform))]
    obtain ⟨log, hsettle⟩ := settle_error store target onError number hproper
      ⟨⟨after, .empty⟩, before, summary⟩
    cases onError with
    | fail => exact ⟨_, bind_apply_of_error hsettle, ⟨hnext, hafter, rfl⟩, rfl, rfl⟩
    | skip =>
      rw [bind_apply_of_ok hsettle]
      exact ⟨_, rfl, ⟨hnext, hafter, rfl⟩, rfl, rfl⟩
  | rows back sink after =>
    simp only [Outcome.rows, List.map_append] at hwrites
    obtain ⟨between, hback, hsent⟩ := Store.appendAll_append_ok.mp hwrites
    rw [bind_apply_of_ok (outcome_apply_of (onPipeline_apply_of htransform)),
      bind_apply_of_ok (settle_ok hback)]
    refine ⟨_, (bind_apply_of_ok rfl).trans (writeRows_apply hsent), ⟨hnext, hafter, rfl⟩, rfl, ?_⟩
    simp [Summary.count, Nat.add_assoc]

theorem bind_apply_of_ends {o : Outcome HostError (List OutputRow)} (hends : o.ends onError)
    {number : Nat} {x : Attempt (Running φ σ ι) RunFault Unit}
    {f : Unit → Attempt (Running φ σ ι) RunFault Unit} {r r' : Running φ σ ι}
    (hx : x r = (verdict onError number o, r')) :
    (x >>= f) r = (verdicts onError number [o], r') := by
  cases o with
  | ok rows => cases hends
  | aborted => exact bind_apply_of_aborted hx
  | error e =>
    cases onError with
    | fail => exact bind_apply_of_error hx
    | skip => cases hends

theorem verdict_of_not_ends {o : Outcome HostError (List OutputRow)} (h : ¬ o.ends onError)
    (number : Nat) : verdict onError number o = .ok () := by
  cases o with
  | ok rows => rfl
  | aborted => exact absurd rfl h
  | error e =>
    cases onError with
    | fail => exact absurd rfl h
    | skip => rfl

theorem verdicts_passed_of_ends {rows : List Row} {s : Hosted σ ι} {k : Nat}
    {o : Outcome HostError (List OutputRow)} (h : (t.passed onError rows s).1[k]? = some o)
    (hends : o.ends onError) (number : Nat) :
    verdicts onError number (t.passed onError rows s).1 = verdict onError (number + k) o := by
  induction rows generalizing s k number with
  | nil => simp [Transformer.passed] at h
  | cons row rest ih =>
    rw [Transformer.passed] at h ⊢
    by_cases hfirst : (t.given row s).1.ends onError
    · rw [if_pos hfirst] at h ⊢
      cases k with
      | zero =>
        cases h
        rw [verdicts]
        cases verdict onError number (t.given row s).1 <;> rfl
      | succ k => simp at h
    · rw [if_neg hfirst] at h ⊢
      cases k with
      | zero =>
        cases h
        exact absurd hends hfirst
      | succ k =>
        rw [List.getElem?_cons_succ] at h
        rw [verdicts, verdict_of_not_ends hfirst, Outcome.bind_ok, ih h, Nat.add_right_comm,
          Nat.add_assoc]

theorem verdicts_of_none_ends {outcomes : List (Outcome HostError (List OutputRow))}
    (h : ∀ o ∈ outcomes, o.ends onError = false) (number : Nat) :
    verdicts onError number outcomes = .ok () := by
  induction outcomes generalizing number with
  | nil => rfl
  | cons o rest ih =>
    rw [verdicts, verdict_of_not_ends (by simp [h o List.mem_cons_self]), Outcome.bind_ok,
      ih fun o ho => h o (List.mem_cons_of_mem _ ho)]

/-- Records pass until one of them ends the run, and how the run goes on is up to that one. -/
structure Passes (onError : OnError) (rows : List Row)
    (outcomes : List (Outcome HostError (List OutputRow))) (processed : Outcome RunFault Unit) :
    Prop where
  of_ends : ∀ k o, outcomes[k]? = some o → o.ends onError →
    outcomes.length = k + 1 ∧ processed = verdict onError (k + 1) o
  of_none_ends : (∀ o ∈ outcomes, o.ends onError = false) →
    outcomes.length = rows.length ∧ processed = .ok ()

variable (t onError) in
theorem passes_passed (rows : List Row) (s : Hosted σ ι) :
    Passes onError rows (t.passed onError rows s).1
      (verdicts onError 1 (t.passed onError rows s).1) where
  of_ends k o hk hends := by
    refine ⟨t.length_passed_of_ends onError hk hends, ?_⟩
    rw [verdicts_passed_of_ends hk hends, Nat.add_comm]
  of_none_ends h := ⟨t.length_passed_of_none_ends onError h, verdicts_of_none_ends h 1⟩

namespace Passes

variable {rows : List Row} {outcomes : List (Outcome HostError (List OutputRow))}
  {processed : Outcome RunFault Unit}

theorem none_ends_of_ok (h : Passes onError rows outcomes processed) (hok : processed = .ok ()) :
    ∀ o ∈ outcomes, o.ends onError = false := by
  intro o ho
  obtain ⟨k, hk⟩ := List.getElem?_of_mem ho
  cases hends : o.ends onError with
  | false => rfl
  | true =>
    obtain ⟨-, hverdict⟩ := h.of_ends k o hk hends
    rw [hok] at hverdict
    cases o with
    | ok rows => cases hends
    | aborted => cases hverdict
    | error e =>
      cases onError with
      | fail => cases hverdict
      | skip => cases hends

theorem none_ends_of_skip (hskip : onError = .skip) (haborted : .aborted ∉ outcomes) :
    ∀ o ∈ outcomes, o.ends onError = false := by
  intro o ho
  cases o with
  | ok rows => rfl
  | aborted => exact absurd ho haborted
  | error e => rw [hskip]; rfl

theorem ne_aborted (h : Passes onError rows outcomes processed) (haborted : .aborted ∉ outcomes) :
    processed ≠ .aborted := by
  cases hany : outcomes.any (·.ends onError) with
  | false =>
    rw [(h.of_none_ends fun o ho => by simpa using List.any_eq_false.mp hany o ho).2]
    simp
  | true =>
    obtain ⟨o, ho, hends⟩ := List.any_eq_true.mp hany
    obtain ⟨k, hk⟩ := List.getElem?_of_mem ho
    rw [(h.of_ends k o hk hends).2]
    cases o with
    | ok rows => cases hends
    | aborted => exact absurd ho haborted
    | error e => cases onError <;> simp [verdict]

end Passes

/-- Records write the rows of those that pass, and no other record is looked at. -/
theorem processFrom_between (rows : List Row) (number : Nat) {s : Hosted σ ι} {r : Running φ σ ι}
    {files : φ} (h : Between s r)
    (hwrites : store.appendAll target
      (((t.passed onError rows s).1.flatMap Outcome.rows).map Csv.rowLine) r.files =
        (.ok (), files)) :
    ∃ r', processFrom store t target onError number rows r =
        (verdicts onError number (t.passed onError rows s).1, r') ∧
      Between (t.passed onError rows s).2 r' ∧ r'.files = files ∧
      r'.summary = (t.passed onError rows s).1.foldl (Summary.count onError) r.summary := by
  -- the state `s` goes through what the records give, and `r` follows it up to its log
  induction rows generalizing number s r with
  | nil =>
    cases hwrites
    exact ⟨r, rfl, h, rfl, rfl⟩
  | cons row rest ih =>
    rw [Transformer.passed] at hwrites ⊢
    by_cases hends : (t.given row s).1.ends onError
    · rw [if_pos hends] at hwrites ⊢
      simp only [List.flatMap_cons, List.flatMap_nil, List.append_nil] at hwrites
      obtain ⟨r', hrecord, hbetween, hfiles, hsummary⟩ :=
        processRecord_between number row h hwrites
      exact ⟨r', bind_apply_of_ends hends hrecord, hbetween, hfiles, hsummary⟩
    · rw [if_neg hends] at hwrites ⊢
      simp only [List.flatMap_cons, List.map_append] at hwrites
      obtain ⟨between, hfirst, hrest⟩ := Store.appendAll_append_ok.mp hwrites
      obtain ⟨r₁, hrecord, hbetween, rfl, hsummary⟩ :=
        processRecord_between number row h hfirst
      rw [verdict_of_not_ends hends] at hrecord
      obtain ⟨r₂, hothers, hbetween, hfiles, hcounts⟩ := ih (number + 1) hbetween hrest
      refine ⟨r₂, ?_, hbetween, hfiles, ?_⟩
      · rw [processFrom, bind_apply_of_ok hrecord, hothers, verdicts, verdict_of_not_ends hends]
        rfl
      · rw [hcounts, hsummary]
        rfl

/-- What is logged of threads that are asked for. -/
def threadWarnings (options : RunOptions) : List LogEvent :=
  if 1 < options.threads then
    [⟨.warn, "built without the \x60parallel\x60 feature; processing rows sequentially",
      [("threads", toString options.threads)]⟩]
  else []

theorem processAll_apply (options : RunOptions) (rows : List Row) (r : Running φ σ ι) :
    processAll store t target options rows r =
      processFrom store t target options.onError 1 rows
        { r with world := r.world.logAll (threadWarnings options) } := by
  rw [threadWarnings]
  by_cases hthreads : 1 < options.threads
  · rw [processAll, if_pos hthreads, if_pos hthreads, bind_apply_of_ok (warn_apply _ _ r)]
  · have hlogged : r.world.logAll [] = r.world := by simp [World.logAll]
    rw [processAll, if_neg hthreads, if_neg hthreads, hlogged]

theorem processAll_between (options : RunOptions) (rows : List Row) {s : Hosted σ ι}
    {r : Running φ σ ι} {files : φ} (h : Between s r)
    (hwrites : store.appendAll target
      (((t.passed options.onError rows s).1.flatMap Outcome.rows).map Csv.rowLine) r.files =
        (.ok (), files)) :
    ∃ r', processAll store t target options rows r =
        (verdicts options.onError 1 (t.passed options.onError rows s).1, r') ∧
      Between (t.passed options.onError rows s).2 r' ∧ r'.files = files ∧
      r'.summary =
        (t.passed options.onError rows s).1.foldl (Summary.count options.onError) r.summary := by
  rw [processAll_apply]
  exact processFrom_between rows 1 (h.logAll _) hwrites

end Run

end RowScript
