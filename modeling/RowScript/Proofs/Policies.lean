import RowScript.Proofs.Exits
import RowScript.Proofs.Parting

/-!
# Failing and skipping

The same run under `fail` and under `skip`: `policies_of_complete`. Either both are one run, or the
one under `fail` ends before it has an output, or they part at a record (`Compared`). If they part,
then the files and the script are in one state there. Behind it the run under `skip` only adds to
what its target holds (`holds_of_performs`) and to the calls of the script (`events_of_goes`), and
the other closes the script.
-/

namespace RowScript

/-- Two traces of the engine are one up to a point, behind which the second goes on. Only the closing
hook may be called at the end of each. -/
def Transformer.Outlasts {σ υ ι : Type} (t : Transformer σ υ ι) (es es' : List EngineEvent) : Prop :=
  ∃ shared more life, (es = shared ∨ es = shared ++ t.pending life [.close]) ∧
    (es' = shared ++ more ∨ es' = shared ++ more ++ t.pending life [.close])

namespace Run

open Running Attempt

variable {φ σ υ ι : Type} {store : Store φ} {t : Transformer σ υ ι} {p : PlacedJob}
  {options : RunOptions}

/-! ### The whole run -/

theorem closing_kept (o : Outcome RunFault Unit) (r : Running φ σ ι) :
    (closing t o r).2.summary = r.summary ∧ (closing t o r).2.files = r.files := by
  cases o <;> exact ⟨rfl, rfl⟩

theorem summary_serve (rows : List Row) {o : Outcome RunFault Unit} (fails : ¬ o.isOk)
    (r : Running φ σ ι) : (serve store t p options rows o r).2.summary = r.summary := by
  cases o with
  | ok _ => exact absurd rfl fails
  | aborted => rfl
  | error fault =>
    obtain ⟨r', -, hkept, habandon⟩ := abandon_apply fault (t := t) (r := r) (Prod.ext rfl rfl)
    rw [serve, habandon]
    exact hkept

theorem failed_serve_le (rows : List Row) (o : Outcome RunFault Unit) {r : Running φ σ ι}
    (hsink : r.sink = .empty) :
    r.summary.failed ≤ (serve store t p options rows o r).2.summary.failed := by
  rcases o.ok_or_fails with ⟨⟨⟩, rfl⟩ | hunopened
  · rw [serve, conclude_eq rows hsink, (closing_kept _ _).1, processAll_apply]
    have hrecords := failed_processFrom_le store t (p.target options) options.onError rows 1
      { r with world := r.world.logAll (threadWarnings options) }
    exact hrecords
  · exact Nat.le_of_eq (by rw [summary_serve rows hunopened])

theorem failed_complete_le {r : Running φ σ ι} (hsink : r.sink = .empty) :
    (readRows store t p options r).2.summary.failed ≤
      (complete store t p options r).2.summary.failed := by
  rcases hread : readRows store t p options r with ⟨o, r₁⟩
  rcases o.ok_or_fails with ⟨rows, rfl⟩ | hunread
  · rcases hload : (onPipeline t.load : Attempt (Running φ σ ι) HostError Unit) r₁
      with ⟨loaded, r₂⟩
    have hsummary : r₁.summary = r₂.summary := by
      cases hload
      rfl
    rcases loaded.ok_or_fails with ⟨⟨⟩, rfl⟩ | hunloaded
    · rcases hopen : openOutput store t (p.target options) r₂ with ⟨opening, r₃⟩
      obtain ⟨opened, hopened⟩ := openOutput_kept hopen
      have hempty : r₃.sink = .empty := by
        rw [hopened]
        exact (load_sink hload).trans ((readRows_alike hread).2.trans hsink)
      obtain ⟨arrived, hcomplete, -⟩ := complete_kept store t p options r
      rw [hcomplete, run_of_loaded hread hload hopen]
      have hbefore : r₁.summary = r₃.summary := by
        rw [hopened]
        exact hsummary
      show r₁.summary.failed ≤ _
      rw [hbefore]
      exact failed_serve_le rows opening hempty
    · rw [run_of_unloaded hread hload hunloaded]
      exact Nat.le_of_eq (congrArg Summary.failed hsummary)
  · exact Nat.le_of_eq (by rw [run_of_unread hread hunread])

variable (store t p options) in
/-- How a run ends under `fail` and under `skip`: alike, or the one under `fail` ends before it has
an output, or they part at a record, and the script is closed in both, where the one stops and where
the other ends. -/
inductive Compared (world : World σ) (files : φ) : Outcome RunFault Unit × Running φ σ ι →
    Outcome RunFault Unit × Running φ σ ι → Prop
  | same {result} (uncounted : result.2.summary.failed = 0) : Compared world files result result
  | unread {fault result} (ofRecord : RunFault.isOfRecord fault)
      (unloaded : ¬ Loads store t p (options.under .fail) (.new world files : Running φ σ ι))
      (counted : 0 < result.2.summary.failed) :
      Compared world files (.error fault, .new world files) result
  | parted {fault stopped skipped last more processed arrived result}
      (ofRecord : RunFault.isOfRecord fault) (suits : t.Suits skipped.lifecycle)
      (alike : Alike skipped stopped)
      (others : Goes store t p (options.under .skip) skipped more processed last)
      (counted : 0 < last.summary.failed)
      (ended : result.2 = { (closing t processed last).2 with files := arrived })
      (kept : ∀ ledger : store.Ledger,
        ledger.holds arrived (p.target options) = ledger.holds last.files (p.target options)) :
      Compared world files (closing t (.error fault) stopped) result

theorem complete_under {r : Running φ σ ι}
    (h : run store t p (options.under .fail) r = run store t p (options.under .skip) r) :
    complete store t p (options.under .fail) r = complete store t p (options.under .skip) r := by
  rcases hrun : run store t p (options.under .skip) r with ⟨o, r₁⟩
  rw [hrun] at h
  rw [complete, complete]
  cases o with
  | ok _ =>
    rw [bind_apply_of_ok h, bind_apply_of_ok hrun]
    rfl
  | error fault => rw [bind_apply_of_error h, bind_apply_of_error hrun]
  | aborted => rw [bind_apply_of_aborted h, bind_apply_of_aborted hrun]

/-- Runs with a ready output part at a record, or not at all. -/
theorem compared_of_opened {world : World σ} {files : φ} {rows : List Row} {start : Running φ σ ι}
    (hfailing : run store t p (options.under .fail) (.new world files) =
      conclude store t (p.target options) (options.under .fail) rows start)
    (hskipping : run store t p (options.under .skip) (.new world files) =
      conclude store t (p.target options) (options.under .skip) rows start)
    (hsuits : t.Suits start.lifecycle) (hsink : start.sink = .empty)
    (hsummary : start.summary = {}) :
    Compared store t p options world files
      (complete store t p (options.under .fail) (.new world files))
      (complete store t p (options.under .skip) (.new world files)) := by
  rw [conclude_eq rows hsink] at hfailing hskipping
  obtain ⟨arrived, hcomplete, hkept⟩ :=
    complete_kept store t p (options.under .skip) (.new world files)
  have hparting := processAll_parting store t p options rows start
  generalize processAll store t (p.target options) (options.under .fail) rows start = failed
    at hfailing hparting
  generalize processAll store t (p.target options) (options.under .skip) rows start = skipped
    at hskipping hparting
  cases hparting with
  | same uncounted =>
    rw [complete_under (hfailing.trans hskipping.symm)]
    refine .same ?_
    rw [hcomplete, hskipping]
    show (closing t failed.1 failed.2).2.summary.failed = 0
    rw [(closing_kept _ _).1, uncounted, hsummary]
  | @parted fault stopped _ _ _ _ ofRecord reached alike others counted =>
    have hfails : ¬ (closing t (.error fault) stopped).1.isOk := by
      show ¬ (firstFault (.error fault) _).isOk
      cases (t.host.close stopped.toHosted).1 <;> simp [firstFault, Outcome.mapError, Outcome.isOk]
    rw [complete_of_fails hfailing hfails]
    obtain ⟨done, performs, straight, -⟩ := reached
    have hloadless := straight.ordered.loadless (by omega)
    rw [hskipping] at hcomplete hkept
    rw [(closing_kept _ _).2] at hkept
    rw [hsummary] at counted
    exact .parted ofRecord (suits_of_performs performs hloadless hsuits) alike others counted
      hcomplete hkept

theorem compared_of_loaded {world : World σ} {files : φ} {rows : List Row} {r : Running φ σ ι}
    (hfail : readRows store t p (options.under .fail) (.new world files) =
      (.ok rows, .new world files))
    (hskip : readRows store t p (options.under .skip) (.new world files) =
      (.ok rows, .new world files))
    (hload : (onPipeline t.load : Attempt (Running φ σ ι) HostError Unit) (.new world files) =
      (.ok (), r)) :
    Compared store t p options world files
      (complete store t p (options.under .fail) (.new world files))
      (complete store t p (options.under .skip) (.new world files)) := by
  have hloading : Effect.load.attempt store t p options (.new world files) = (.ok (), r) :=
    mapError_apply_of _ hload
  have hsuits : t.Suits r.lifecycle := (begins_of_attempt rfl hloading []).suits
  have hsink : r.sink = .empty := load_sink hload
  have hsummary : r.summary = {} := by
    obtain ⟨pipeline, -, rfl⟩ := zoom_eq_ok.mp hload
    rfl
  rcases hopen : openOutput store t (p.target options) r with ⟨o, start⟩
  obtain ⟨opened, rfl⟩ := openOutput_kept hopen
  have hfailing := run_of_loaded hfail hload hopen
  have hskipping := run_of_loaded hskip hload hopen
  rcases o.ok_or_fails with ⟨⟨⟩, rfl⟩ | hunopened
  · exact compared_of_opened hfailing hskipping hsuits hsink hsummary
  · have hserve : serve store t p (options.under .fail) rows o { r with files := opened } =
        serve store t p (options.under .skip) rows o { r with files := opened } := by
      cases o with
      | ok _ => exact absurd rfl hunopened
      | aborted => rfl
      | error fault => rfl
    obtain ⟨arrived, hcomplete, -⟩ :=
      complete_kept store t p (options.under .skip) (.new world files)
    rw [complete_under (hfailing.trans (hserve.trans hskipping.symm))]
    refine .same ?_
    rw [hcomplete, hskipping]
    show (serve store t p (options.under .skip) rows o _).2.summary.failed = 0
    rw [summary_serve rows hunopened]
    exact congrArg Summary.failed hsummary

variable (store t p options) in
theorem compared_of_complete (world : World σ) (files : φ) :
    Compared store t p options world files
      (complete store t p (options.under .fail) (.new world files))
      (complete store t p (options.under .skip) (.new world files)) := by
  obtain ⟨o, hfail, hskip⟩ := readRows_policies store t p options (.new world files)
  rcases hskip with hskip | ⟨⟨fault, ofRecord, rfl⟩, hcounted⟩
  · rcases o.ok_or_fails with ⟨rows, rfl⟩ | hunread
    · rcases hload : (onPipeline t.load : Attempt (Running φ σ ι) HostError Unit)
        (.new world files) with ⟨loaded, r⟩
      rcases loaded.ok_or_fails with ⟨⟨⟩, rfl⟩ | hunloaded
      · exact compared_of_loaded hfail hskip hload
      · rw [run_of_unloaded hfail hload hunloaded, run_of_unloaded hskip hload hunloaded]
        refine .same ?_
        cases hload
        rfl
    · rw [run_of_unread hfail hunread, run_of_unread hskip hunread]
      exact .same rfl
  · rw [run_of_unread hfail (by simp [Outcome.isOk])]
    refine .unread ofRecord ?_ (Nat.lt_of_lt_of_le hcounted (failed_complete_le rfl))
    rintro ⟨rows, r₁, r₂, hread, -⟩
    cases hfail.symm.trans hread

/-! ### What the runs have in common -/

theorem holds_of_attempt (ledger : store.Ledger) {e : Effect} (ofRecord : e.isOfRecord)
    {r r' : Running φ σ ι} {o : Outcome RunFault Unit}
    (h : e.attempt store t p options r = (o, r')) :
    ∃ part, ledger.holds r'.files (p.target options) =
      ledger.holds r.files (p.target options) ++ part := by
  cases e with
  | record number row =>
    have hfiles : r'.files = r.files := by
      obtain rfl : _ = r' := congrArg Prod.snd h
      rfl
    exact ⟨.empty, by rw [hfiles, ByteArray.append_empty]⟩
  | write row =>
    rcases happend : store.append (p.target options) (Csv.rowLine row) r.files with ⟨written, files⟩
    rw [Effect.attempt, mapError_apply_of _ (onFiles_apply_of happend)] at h
    cases h
    exact ledger.append_grows happend
  | read => cases ofRecord
  | load => cases ofRecord
  | create => cases ofRecord
  | header => cases ofRecord
  | close => cases ofRecord
  | flush => cases ofRecord

/-- Records only add to what the target holds. -/
theorem holds_of_performs (ledger : store.Ledger) {r r' : Running φ σ ι} {done : List Done}
    (h : Performs store t p options r done r') (ofRecord : ∀ d ∈ done, d.1.isOfRecord) :
    ∃ part, ledger.holds r'.files (p.target options) =
      ledger.holds r.files (p.target options) ++ part := by
  induction h with
  | nothing alike => exact ⟨.empty, by rw [alike.files, ByteArray.append_empty]⟩
  | effect alike performed _ ih =>
    obtain ⟨part, hfirst⟩ := holds_of_attempt ledger (ofRecord _ List.mem_cons_self) performed
    obtain ⟨part', hrest⟩ := ih fun d hd => ofRecord d (List.mem_cons_of_mem _ hd)
    exact ⟨part ++ part', by rw [hrest, hfirst, alike.files, ByteArray.append_assoc]⟩

theorem pending_append_close (life : Lifecycle ι) {ops : List Operation} (hops : .close ∉ ops) :
    t.pending life (ops ++ [.close]) = t.pending life ops ++ t.pending life [.close] := by
  cases life with
  | unloaded => rfl
  | closed => rfl
  | ready entries gate =>
    show t.served entries gate.inst.number (ops ++ [.close]) =
      t.served entries gate.inst.number ops ++ t.served entries gate.inst.number [.close]
    induction ops with
    | nil => rfl
    | cons op rest ih =>
      have hrest := ih fun hmem => hops (List.mem_cons_of_mem _ hmem)
      cases op with
      | load => exact hrest
      | transform row => exact congrArg (t.recordEvent gate.inst.number row :: ·) hrest
      | close => exact absurd List.mem_cons_self hops

theorem events_closing (processed : Outcome RunFault Unit) {r : Running φ σ ι}
    (hsuits : t.Suits r.lifecycle) :
    (closing t processed r).2.world.events = r.world.events ∨
      (closing t processed r).2.world.events.toList =
        r.world.events.toList ++ t.pending r.lifecycle [.close] := by
  have hclose := (stepsOn_of_perform (t := t) (e := .close) (s := r.toPipeline) rfl (by simp)
    hsuits).events []
  rw [t.pending_nil, List.append_nil, t.perform_close] at hclose
  cases processed with
  | aborted => exact .inl rfl
  | ok _ => exact .inr hclose
  | error fault => exact .inr hclose

theorem Straight.close_notMem {done : List Done} {o : Outcome RunFault Unit} (h : Straight done o) :
    .close ∉ operations done := by
  intro hmem
  obtain ⟨⟨e, _⟩, hd, hop⟩ := List.mem_filterMap.mp hmem
  have hclose := Effect.stage_of_isClose ((Effect.isClose_iff e).mpr hop)
  rw [Effect.stage_of_isOfRecord (h.ofRecord _ hd)] at hclose
  omega

/-- What the script is called for behind a state from which records are processed to their end. -/
theorem events_of_goes {r r' : Running φ σ ι} {rows : List Row} {processed : Outcome RunFault Unit}
    (h : Goes store t p options r rows processed r') (hsuits : t.Suits r.lifecycle) :
    ∃ more, (closing t processed r').2.world.events.toList = r.world.events.toList ++ more ∨
      (closing t processed r').2.world.events.toList =
        r.world.events.toList ++ more ++ t.pending r.lifecycle [.close] := by
  obtain ⟨done, performs, straight, -⟩ := h
  have hloadless := straight.ordered.loadless (by omega)
  have hevents := events_of_performs performs hloadless hsuits
  refine ⟨t.pending r.lifecycle (operations done), ?_⟩
  rcases events_closing processed (suits_of_performs performs hloadless hsuits)
    with hsame | hclosed
  · have hrecords := hevents []
    rw [t.pending_nil, List.append_nil, List.append_nil] at hrecords
    exact .inl (hsame ▸ hrecords)
  · rw [hclosed, hevents, pending_append_close _ straight.close_notMem, List.append_assoc]
    exact .inr rfl

/-- Under `fail`, the rows are those of the records before the first that fails under `skip`. -/
theorem rows_passed_fail (rows : List Row) (s : Hosted σ ι) :
    (t.passed .fail rows s).1.flatMap Outcome.rows =
      ((t.passed .skip rows s).1.takeWhile fun o => !o.isError).flatMap Outcome.rows := by
  induction rows generalizing s with
  | nil => rfl
  | cons row rest ih =>
    rw [Transformer.passed, Transformer.passed]
    cases hgiven : (t.given row s).1 with
    | ok given => simp [Outcome.ends, Outcome.isError, ih]
    | error e => simp [Outcome.ends, Outcome.isError, Outcome.rows]
    | aborted => simp [Outcome.ends, Outcome.isError, Outcome.rows]

theorem prepare_under {r start : Running φ σ ι} {rows : List Row}
    (h : prepare store t p (options.under .fail) r = (.ok rows, start)) :
    prepare store t p (options.under .skip) r = (.ok rows, start) := by
  obtain ⟨rows', r₁, hread, hrest⟩ := bind_eq_ok.mp h
  obtain ⟨o, hfail, hskip⟩ := readRows_policies store t p options r
  cases hread.symm.trans hfail
  rcases hskip with hskip | ⟨⟨fault, -, hfault⟩, -⟩
  · exact bind_eq_ok.mpr ⟨rows', r, hskip, hrest⟩
  · cases hfault

variable (t) in
/-- The text of an output: the header, and the rows that records gave. -/
def outputText (outcomes : List (Outcome HostError (List OutputRow))) : ByteArray :=
  (Csv.line t.outputColumns ++
    String.join ((outcomes.flatMap Outcome.rows).map Csv.rowLine)).toUTF8

variable (store t p options) in
/-- What a run under `fail` and a run under `skip` have in common that begin alike. -/
structure Policies (world : World σ) (files : φ)
    (failing skipping : Outcome RunFault Unit × Running φ σ ι) : Prop where
  /-- If the run under `fail` comes to its output, then what it leaves there is the beginning of
  what the other leaves. -/
  output : Loads store t p (options.under .fail) (.new world files : Running φ σ ι) →
    ∀ ledger : store.Ledger, ∃ rest, ledger.holds skipping.2.files (p.target options) =
      ledger.holds failing.2.files (p.target options) ++ rest
  /-- If they can write it, they leave the rows of all records that pass under `skip`, and of those
  before the first that fails. -/
  text : ∀ (ledger : store.Ledger) rows start,
    prepare store t p (options.under .fail) (.new world files) = (.ok rows, start) →
    let outcomes := (t.passed .skip rows start.toHosted).1
    let before := heldBefore ledger.toAccount files (p.target options)
    (Undisturbed failing.1 → ledger.holds failing.2.files (p.target options) =
      before ++ outputText t (outcomes.takeWhile fun o => !o.isError)) ∧
    (Undisturbed skipping.1 → ledger.holds skipping.2.files (p.target options) =
      before ++ outputText t outcomes)
  /-- The script sees the same calls from both, and behind them others under `skip` only. -/
  calls : t.Outlasts failing.2.world.events.toList skipping.2.world.events.toList
  /-- If no record is skipped, then both are one run: its result, its output, its summary. -/
  agree : skipping.2.summary.failed = 0 → failing = skipping
  /-- If a record is skipped, then the run under `fail` fails at a record. It does not come to tell
  so only if its closing hook is aborted. -/
  fails : 0 < skipping.2.summary.failed →
    (∃ fault, fault.isOfRecord ∧ failing.1 = .error fault) ∨
      failing.1 = .aborted ∧ ∃ s, t.host.close s = (.aborted, failing.2.toHosted)

theorem output_of_compared {world : World σ} {files : φ}
    {failing skipping : Outcome RunFault Unit × Running φ σ ι}
    (h : Compared store t p options world files failing skipping)
    (hloads : Loads store t p (options.under .fail) (.new world files : Running φ σ ι))
    (ledger : store.Ledger) :
    ∃ rest, ledger.holds skipping.2.files (p.target options) =
      ledger.holds failing.2.files (p.target options) ++ rest := by
  cases h with
  | same _ => exact ⟨.empty, ByteArray.append_empty.symm⟩
  | unread _ unloaded _ => exact absurd hloads unloaded
  | parted _ _ alike others _ ended kept =>
    obtain ⟨done, performs, straight, -⟩ := others
    obtain ⟨rest, hrest⟩ := holds_of_performs ledger performs straight.ofRecord
    refine ⟨rest, ?_⟩
    rw [ended, (closing_kept _ _).2, alike.files]
    exact (kept ledger).trans hrest

theorem calls_of_compared {world : World σ} {files : φ}
    {failing skipping : Outcome RunFault Unit × Running φ σ ι}
    (h : Compared store t p options world files failing skipping)
    (hgrows : ∃ es, skipping.2.world.events.toList = world.events.toList ++ es) :
    t.Outlasts failing.2.world.events.toList skipping.2.world.events.toList := by
  cases h with
  | same _ => exact ⟨_, [], .closed, .inl rfl, .inl (List.append_nil _).symm⟩
  | unread _ _ _ =>
    obtain ⟨es, hes⟩ := hgrows
    exact ⟨_, es, .closed, .inl rfl, .inl hes⟩
  | @parted fault stopped skipped _ _ _ _ _ _ suits alike others _ ended _ =>
    have hlifecycle := Hosted.lifecycle_of_silent_eq alike.host
    obtain ⟨more, hmore⟩ := events_of_goes others suits
    have hsame := Hosted.events_of_silent_eq alike.host
    have hclosed := events_closing (.error fault) (hlifecycle ▸ suits)
    rw [hlifecycle, hsame] at hclosed
    refine ⟨_, more, skipped.lifecycle, hclosed.imp_left (congrArg _), ?_⟩
    rw [ended]
    exact hmore

theorem agree_of_compared {world : World σ} {files : φ}
    {failing skipping : Outcome RunFault Unit × Running φ σ ι}
    (h : Compared store t p options world files failing skipping)
    (hnone : skipping.2.summary.failed = 0) : failing = skipping := by
  cases h with
  | same _ => rfl
  | unread _ _ counted => omega
  | parted _ _ _ _ counted ended _ =>
    rw [ended] at hnone
    have hcount : (closing t _ _).2.summary.failed = 0 := hnone
    rw [(closing_kept _ _).1] at hcount
    omega

theorem fails_of_compared {world : World σ} {files : φ}
    {failing skipping : Outcome RunFault Unit × Running φ σ ι}
    (h : Compared store t p options world files failing skipping)
    (hsome : 0 < skipping.2.summary.failed) :
    (∃ fault, fault.isOfRecord ∧ failing.1 = .error fault) ∨
      failing.1 = .aborted ∧ ∃ s, t.host.close s = (.aborted, failing.2.toHosted) := by
  cases h with
  | same uncounted => omega
  | @unread fault _ ofRecord _ _ => exact .inl ⟨fault, ofRecord, rfl⟩
  | @parted fault stopped _ _ _ _ _ _ ofRecord _ _ _ _ _ _ =>
    rcases firstFault_error fault (t.host.close stopped.toHosted).1 with hfault | ⟨haborted, hclose⟩
    · exact .inl ⟨fault, ofRecord, hfault⟩
    · exact .inr ⟨haborted, stopped.toHosted, Prod.ext hclose rfl⟩

variable (store t p options) in
/-- **What a run leaves under `fail` is the beginning of what it leaves under `skip`.** The two runs
have the same job, input and script, and begin in the same world. If the one under `fail` comes to
its output, it leaves there the rows of the records before the first that fails, and the other goes
on from there; so do the calls that the script sees. If under `skip` no record is counted as failed,
then both are one run, and else the one under `fail` fails. -/
theorem policies_of_complete (world : World σ) (files : φ) :
    Policies store t p options world files
      (complete store t p (options.under .fail) (.new world files))
      (complete store t p (options.under .skip) (.new world files)) := by
  have hcompared := compared_of_complete store t p options world files
  obtain ⟨done, performs, course, -⟩ :=
    course_of_complete store t p (options.under .skip) (r := .new world files) rfl
  obtain ⟨es, hgrows, -⟩ := traced_of_course rfl performs course
  refine ⟨output_of_compared hcompared, ?_, calls_of_compared hcompared ⟨es, hgrows⟩,
    agree_of_compared hcompared, fails_of_compared hcompared⟩
  intro ledger rows start hprepare outcomes before
  -- either run is told by its own records; those of the first are a beginning of those of the second
  refine ⟨fun h => ?_, fun h => ?_⟩
  · obtain ⟨r, hcomplete, -, hholds⟩ := complete_of_undisturbed ledger hprepare h
    rw [hcomplete, outputText, ← rows_passed_fail]
    exact hholds
  · obtain ⟨r, hcomplete, -, hholds⟩ :=
      complete_of_undisturbed ledger (prepare_under hprepare) h
    rw [hcomplete, outputText]
    exact hholds

/-- The script fails at the first of two records, at which one run stops, and which the other skips. -/
example :
    let script : Transformer Nat Unit Unit := {
      engine := {
        example? := fun _ => none
        compileUnit := fun _ => .ofOutcome (.ok ())
        defines := fun _ _ => .ok true
        makeInstance := fun _ => .ofOutcome (.ok ())
        runEntry := fun _ entry _ inst scene =>
          (if scene.engine = 0 then .error (.invocation entry.name "no") else .ok .null, inst,
            { scene with engine := scene.engine + 1 }) }
      config := { inputs := [⟨"n", .any⟩], code := some "transform", variant := .simple } }
    let job : PlacedJob := ⟨{ transformer := script.config, source := some (.inline [[], []]) }, ""⟩
    let result (onError : OnError) :=
      complete (.ofData .empty) script job { onError } (.new { engine := 0 } "")
    (result .fail).1 = .error (.recordFailed 1 (.script (.invocation "transform" "no"))) ∧
      (result .skip).1 = .ok () ∧
      (result .skip).2.summary = { records := 2, rows := 1, failed := 1 } := by
  decide +kernel

end Run

end RowScript
