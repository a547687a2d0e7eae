import RowScript.Proofs.Feed
import RowScript.Proofs.Logs
import RowScript.Proofs.Undisturbed

/-!
# Warnings of skipped records

Under `skip` the log of a run is what its script logs, and the warnings of the records that were
skipped: first those that could not be read, by their place in the input, and then, each behind its
own log, those that failed, by their place among the records that could be read
(`warnings_of_complete`).

So a warning of a record that failed tells its place in the input only as long as no record before
it was unreadable (`place_of_readable`). Else it carries the number of another record, and two
warnings may carry one number (`numbers_of_refusing`).
-/

namespace RowScript

/-- The warning of a record that is skipped. -/
def skipWarning (message : String) (number : Nat) (e : HostError) : LogEvent :=
  ⟨.warn, message, [("record", toString number), ("error", e.message)]⟩

/-- The number that a warning carries. -/
def LogEvent.number? (e : LogEvent) : Option String := e.fields.lookup "record"

/-- An event warns of the record with that number. -/
def Warns (message : String) (number : Nat) (event : LogEvent) : Prop :=
  ∃ e, event = skipWarning message number e

/-- What the policy warns of when a record ended so. -/
def skipWarnings {α : Type} (onError : OnError) (number : Nat) : Outcome HostError α → List LogEvent
  | .error e =>
    if onError = .skip ∧ !e.isUsageError then [skipWarning "skipping record" number e] else []
  | .ok _ | .aborted => []

theorem skipWarnings_map {α β : Type} (onError : OnError) (number : Nat) (f : α → β)
    (o : Outcome HostError α) :
    skipWarnings onError number (o.map f) = skipWarnings onError number o := by
  cases o <;> rfl

/-! ### Places -/

/-- The readable record that is `k`-th from zero is at place `k` from the start if all up to it can
be read, and else behind it. -/
theorem place_of_readable {α : Type} {records : List (Option α)} {start k place : Nat}
    (h : (records.findIdxs Option.isSome start)[k]? = some place) :
    start + k ≤ place ∧ (place = start + k ↔ none ∉ records.take (k + 1)) := by
  induction records generalizing start k with
  | nil => simp at h
  | cons record rest ih =>
    rw [List.findIdxs_cons] at h
    cases record with
    | none =>
      obtain ⟨hle, -⟩ := ih h
      refine ⟨by omega, fun heq => by omega, fun hall => absurd (by simp) hall⟩
    | some a =>
      cases k with
      | zero =>
        obtain rfl : start = place := by simpa using h
        simp
      | succ k =>
        obtain ⟨hle, hiff⟩ := ih (by simpa using h)
        refine ⟨by omega, ?_⟩
        rw [show start + (k + 1) = start + 1 + k by omega, hiff]
        simp

/-! ### The logs of records -/

namespace Transformer

variable {σ υ ι : Type} (t : Transformer σ υ ι) (onError : OnError)

/-- What is logged of a record: what it logs itself, and the warning if it is skipped. -/
def recordLog (number : Nat) (row : Row) (s : Hosted σ ι) : List LogEvent :=
  (t.given row s.silent).2.world.log.toList ++ skipWarnings onError number (t.given row s).1

/-- What is logged of records one after the other, numbered from the given number on. -/
def recordLogs : Nat → List Row → Hosted σ ι → List (List LogEvent)
  | _, [], _ => []
  | number, row :: rest, s =>
    t.recordLog onError number row s :: recordLogs (number + 1) rest (t.given row s).2

/-- What is logged when the script is loaded. -/
def loadLog (w : World σ) : List LogEvent :=
  (t.load (.new w.silent .empty : Pipeline σ ι RowBuffer)).2.world.log.toList

/-- What is logged when the script is closed. -/
def closeLog (s : Hosted σ ι) : List LogEvent := (t.host.close s.silent).2.world.log.toList

theorem log_load {w : World σ} {log : Array LogEvent} {o : Outcome HostError Unit}
    {p : Pipeline σ ι RowBuffer}
    (h : t.load (⟨⟨.unloaded, { w with log }⟩, .empty⟩ : Pipeline σ ι RowBuffer) = (o, p)) :
    p.world.log.toList = log.toList ++ t.loadLog w := by
  have hbehind := t.load_behind log (⟨.unloaded, w.silent⟩ : Hosted σ ι)
  have hworld : (⟨.unloaded, w.silent⟩ : Hosted σ ι).behind log = ⟨.unloaded, { w with log }⟩ := by
    simp [Hosted.behind, World.behind, World.silent]
  rw [hworld, h] at hbehind
  rw [(Prod.mk.inj hbehind).2]
  exact Array.toList_append

theorem log_close (s : Hosted σ ι) :
    (t.host.close s).2.world.log.toList = s.world.log.toList ++ t.closeLog s := by
  have hbehind := t.host.close_behind s.world.log s.silent
  rw [s.silent_behind] at hbehind
  rw [hbehind]
  exact Array.toList_append

theorem closeLog_of_silent_eq {s s' : Hosted σ ι} (h : s'.silent = s.silent) :
    t.closeLog s' = t.closeLog s := by
  rw [closeLog, h, closeLog]

theorem log_given (row : Row) {s : Hosted σ ι} (hready : s.lifecycle.isReady) :
    (t.given row s).2.world.log = s.world.log ++ (t.given row s.silent).2.world.log := by
  have hbehind := t.given_behind row s.world.log (s := s.silent) hready
  rw [s.silent_behind] at hbehind
  rw [hbehind]
  rfl

theorem skipWarnings_transform (number : Nat) (row : Row) (s : Hosted σ ι) :
    skipWarnings onError number (t.transform row (⟨s, .empty⟩ : Pipeline σ ι RowBuffer)).1 =
      skipWarnings onError number (t.given row s).1 := by
  unfold given
  cases t.config.variant <;> exact (skipWarnings_map _ _ _ _).symm

end Transformer

namespace Run

open Running Attempt

variable {φ σ υ ι : Type} {store : Store φ} {t : Transformer σ υ ι}

/-! ### Reading -/

theorem log_rowsFrom {columns : List (InputColumn × Nat)} {number : Nat}
    {records : List (Except Csv.TableFault (List String))} {rows : List Row} {tally tally' : Tally}
    (h : rowsFrom columns .skip number records tally = (.ok rows, tally')) :
    ∃ warnings, tally'.log.toList = tally.log.toList ++ warnings ∧
      List.Forall₂ (Warns "skipping unreadable record")
        ((readings columns records).findIdxs Option.isNone number) warnings := by
  induction records generalizing number rows tally with
  | nil =>
    cases h
    exact ⟨[], (List.append_nil _).symm, .nil⟩
  | cons record rest ih =>
    obtain ⟨cells, rfl, ⟨row, others, hrow, rfl, hrest⟩ | ⟨fault, hrow, -, hrest⟩⟩ :=
      rowsFrom_cons_eq_ok h
    · rw [readings_cons, hrow, List.findIdxs_cons]
      exact ih hrest
    · rw [readings_cons, hrow, List.findIdxs_cons]
      obtain ⟨warnings, hlog, hwarnings⟩ := ih hrest
      let first := skipWarning "skipping unreadable record" number fault.toHostError
      refine ⟨first :: warnings, ?_, ?_⟩
      · rw [hlog]
        simp [Tally.countFailed, Tally.countRecord, first, skipWarning]
      · simpa [Except.toOption] using List.Forall₂.cons ⟨fault.toHostError, rfl⟩ hwarnings

theorem log_readRows {p : PlacedJob} {options : RunOptions} (hskip : options.onError = .skip)
    {r r' : Running φ σ ι} {rows : List Row}
    (h : readRows store t p options r = (.ok rows, r')) :
    ∃ warnings, r'.world.log.toList = r.world.log.toList ++ warnings ∧
      List.Forall₂ (Warns "skipping unreadable record")
        ((p.inputRecords store r.files options t.config.inputs).findIdxs Option.isNone 1)
          warnings := by
  rw [readRows_eq, hskip] at h
  rw [← PlacedJob.readings_feed]
  cases hfeed : p.feed store r.files options t.config.inputs with
  | nothing fault =>
    rw [hfeed] at h
    cases h
  | given rows =>
    rw [hfeed] at h
    cases h
    refine ⟨[], (List.append_nil _).symm, ?_⟩
    rw [List.findIdxs_eq_nil_iff.mpr (by simp [Feed.readings])]
    exact .nil
  | table path columns records =>
    rw [hfeed] at h
    obtain ⟨tally, hrows, rfl⟩ := readFeed_table_eq_ok.mp h
    exact log_rowsFrom hrows

/-! ### Records -/

variable (store) in
theorem log_settle (target : Target) (onError : OnError) (number : Nat)
    (o : Outcome HostError (Option OutputRow)) (r : Running φ σ ι) :
    (settle store target onError number o r).2.world.log.toList =
      r.world.log.toList ++ skipWarnings onError number o := by
  cases o with
  | aborted => exact (List.append_nil _).symm
  | ok back =>
    rw [settle, bind_apply_of_ok (onTally_apply_of (update_apply _)),
      toPipeline_writeRows (Prod.ext rfl rfl)]
    exact (List.append_nil _).symm
  | error e =>
    rw [settle, bind_apply_of_ok (onTally_apply_of (update_apply _)), skipWarnings]
    split
    · rw [onTally_apply_of (update_apply _)]
      exact Array.toList_push
    · exact (List.append_nil _).symm

theorem log_processRecord (target : Target) (onError : OnError) (number : Nat) (row : Row)
    (r : Running φ σ ι) :
    (processRecord store t target onError number row r).2.world.log.toList =
      (t.transform row r.toPipeline).2.world.log.toList ++
        skipWarnings onError number (t.transform row r.toPipeline).1 := by
  rcases htransform : t.transform row r.toPipeline with ⟨called, pipeline⟩
  have hsettled := log_settle store target onError number called
    { r with toPipeline := pipeline }
  rw [processRecord, bind_apply_of_ok (outcome_apply_of (onPipeline_apply_of htransform))]
  rcases hsettle : settle store target onError number called { r with toPipeline := pipeline }
    with ⟨o, r₁⟩
  rw [hsettle] at hsettled
  cases o with
  | error fault =>
    rw [bind_apply_of_error hsettle]
    exact hsettled
  | aborted =>
    rw [bind_apply_of_aborted hsettle]
    exact hsettled
  | ok _ =>
    rw [bind_apply_of_ok hsettle]
    have hsent : (writeRows store target r₁.sink.rows { r₁ with sink := .empty }).2.toPipeline =
        { r₁ with sink := .empty }.toPipeline := toPipeline_writeRows (Prod.ext rfl rfl)
    show (writeRows store target r₁.sink.rows { r₁ with sink := .empty }).2.world.log.toList = _
    rw [hsent]
    exact hsettled

variable (store t) in
theorem log_processRecord_between (target : Target) (onError : OnError) (number : Nat) (row : Row)
    {s : Hosted σ ι} {r : Running φ σ ι} (h : Between s r) :
    (processRecord store t target onError number row r).2.world.log.toList =
      r.world.log.toList ++ t.recordLog onError number row s := by
  obtain ⟨hready, hhost, hsink⟩ := h
  have hpipeline : r.toPipeline = ⟨r.toHosted, .empty⟩ := by rw [← hsink]
  have hready' : r.lifecycle.isReady := by rwa [Hosted.lifecycle_of_silent_eq hhost]
  obtain ⟨houtcome, -⟩ := t.given_of_silent_eq row hready hhost
  have hown : (t.given row r.toHosted).2.world.log.toList =
      r.world.log.toList ++ (t.given row s.silent).2.world.log.toList := by
    rw [t.log_given row hready', hhost, Array.toList_append]
  rw [log_processRecord, hpipeline, t.skipWarnings_transform, houtcome, Transformer.recordLog,
    ← List.append_assoc, ← hown]
  rfl

theorem log_processFrom {target : Target} {onError : OnError} {number : Nat} {rows : List Row}
    {s : Hosted σ ι} {r r' : Running φ σ ι} (hbetween : Between s r)
    (h : processFrom store t target onError number rows r = (.ok (), r')) :
    r'.world.log.toList =
      r.world.log.toList ++ (t.recordLogs onError number rows s).flatten := by
  induction rows generalizing number s r with
  | nil =>
    cases h
    exact (List.append_nil _).symm
  | cons row rest ih =>
    obtain ⟨⟨⟩, r₁, hrecord, hrest⟩ := bind_eq_ok.mp h
    have hlog := log_processRecord_between store t target onError number row hbetween
    obtain ⟨files, hwrites⟩ := appendAll_of_processRecord hbetween (by rw [hrecord]; rfl)
    obtain ⟨r₂, hverdict, hnext, -, -⟩ := processRecord_between number row hbetween hwrites
    obtain rfl : r₁ = r₂ := congrArg Prod.snd (hrecord.symm.trans hverdict)
    rw [hrecord] at hlog
    rw [ih hnext hrest, hlog, Transformer.recordLogs, List.flatten_cons, List.append_assoc]

/-! ### The whole run -/

theorem log_processAll {target : Target} {options : RunOptions} {rows : List Row} {s : Hosted σ ι}
    {r r' : Running φ σ ι} (hbetween : Between s r)
    (h : processAll store t target options rows r = (.ok (), r')) :
    r'.world.log.toList = r.world.log.toList ++ threadWarnings options ++
      (t.recordLogs options.onError 1 rows s).flatten := by
  rw [processAll_apply] at h
  rw [log_processFrom (hbetween.logAll _) h]
  simp [World.logAll]

theorem log_prepare {p : PlacedJob} {options : RunOptions}
    (hskip : options.onError = .skip) {world : World σ} {files : φ} {rows : List Row}
    {start : Running φ σ ι}
    (h : prepare store t p options (.new world files) = (.ok rows, start)) :
    ∃ warnings, start.world.log.toList = world.log.toList ++ warnings ++ t.loadLog world ∧
      List.Forall₂ (Warns "skipping unreadable record")
        ((p.inputRecords store files options t.config.inputs).findIdxs Option.isNone 1)
          warnings := by
  obtain ⟨r₁, r₂, hread, hload, hopen⟩ := prepare_eq_ok.mp h
  obtain ⟨warnings, hlog, hwarnings⟩ := log_readRows hskip hread
  obtain ⟨log, summary, rfl, -⟩ := intake_readRows hread
  obtain ⟨loaded, hloaded, rfl⟩ := zoom_eq_ok.mp hload
  obtain ⟨opened, rfl⟩ := openOutput_kept hopen
  refine ⟨warnings, ?_, hwarnings⟩
  have hown := t.log_load hloaded
  have hlog : log.toList = world.log.toList ++ warnings := hlog
  rw [hlog] at hown
  exact hown

/-- Under `skip`, all records of an undisturbed run are processed. -/
theorem processed_of_skip {target : Target} {options : RunOptions} (hskip : options.onError = .skip)
    {rows : List Row} {s : Hosted σ ι} {r : Running φ σ ι} (hbetween : Between s r)
    (h : Undisturbed (processAll store t target options rows r).1) :
    ∃ r', processAll store t target options rows r = (.ok (), r') ∧
      Between (t.passed options.onError rows s).2 r' := by
  obtain ⟨files, hwrites⟩ := appendAll_of_processAll hbetween h
  obtain ⟨r', hall, hafter, -, -⟩ := processAll_between options rows hbetween hwrites
  have hpasses := passes_passed t options.onError rows s
  rw [hall] at h
  rw [(hpasses.of_none_ends (hpasses.none_ends_of_undisturbed hskip h)).2] at hall
  exact ⟨r', hall, hafter⟩

/-- What a run logs that skips the records that it cannot read and those that fail. -/
structure Warned (t : Transformer σ υ ι) (options : RunOptions) (world : World σ)
    (records : List (Option Row)) (rows : List Row) (start : Hosted σ ι) (log : List LogEvent) :
    Prop where
  read : rows = records.filterMap id
  /-- Records that cannot be read are warned of by their place in the input. Each record that is
  transformed has its own log and then, if it failed, a warning by its place among the rows. -/
  log : ∃ unread, List.Forall₂ (Warns "skipping unreadable record")
      (records.findIdxs Option.isNone 1) unread ∧
    log = world.log.toList ++ unread ++ t.loadLog world ++ threadWarnings options ++
      (t.recordLogs .skip 1 rows start).flatten ++ t.closeLog (t.passed .skip rows start).2
  /-- The place of a row in the input is its place among the rows if and only if all records up to
  it can be read. -/
  places : ∀ k place, (records.findIdxs Option.isSome 1)[k]? = some place →
    (place = 1 + k ↔ none ∉ records.take (k + 1))

/-- **Records that could not be read are warned of by their place in the input, and records that
failed by their place among the others.** Besides these warnings there is in the log of an
undisturbed run under `skip` what the script logs, and nothing else. -/
theorem warnings_of_complete {p : PlacedJob} {options : RunOptions}
    (hskip : options.onError = .skip) {world : World σ} {files : φ} {rows : List Row}
    {start : Running φ σ ι}
    (hprepare : prepare store t p options (.new world files) = (.ok rows, start))
    (h : Undisturbed (complete store t p options (.new world files)).1) :
    Warned t options world (p.inputRecords store files options t.config.inputs) rows start.toHosted
      (complete store t p options (.new world files)).2.world.log.toList := by
  obtain ⟨hintake, hbetween⟩ := between_of_prepare hprepare
  obtain ⟨unread, hstart, hunread⟩ := log_prepare hskip hprepare
  refine ⟨hintake.rows, ⟨unread, hunread, ?_⟩, fun k place hplace => (place_of_readable hplace).2⟩
  have hrun := undisturbed_of_bind h
  rw [run_of_prepare hprepare] at hrun
  obtain ⟨r, hall, hafter⟩ := processed_of_skip hskip hbetween (undisturbed_of_conclude hrun)
  have hlog := log_processAll hbetween hall
  rw [hskip, hstart] at hlog
  have hclosed := t.log_close r.toHosted
  rw [t.closeLog_of_silent_eq hafter.host, hlog, hskip] at hclosed
  have hconclude := conclude_apply hall fun _ => hafter.sink
  rw [← run_of_prepare hprepare] at hconclude
  obtain ⟨written, hcomplete, -⟩ := complete_kept store t p options (.new world files)
  rw [hcomplete, hconclude]
  exact hclosed

/-- A transformer whose script fails at every record. -/
def refusing : Transformer Unit Unit Unit where
  engine := {
    example? := fun _ => none
    compileUnit := fun _ => .ofOutcome (.ok ())
    defines := fun _ _ => .ok true
    makeInstance := fun _ => .ofOutcome (.ok ())
    runEntry := fun _ entry _ inst scene => (.error (.invocation entry.name "no"), inst, scene) }
  config := { inputs := [⟨"n", .integer⟩], code := some "transform", variant := .simple }

/-- A job for the rows of a file. -/
def refusingJob : PlacedJob := ⟨{ transformer := refusing.config, source := some (.file "in") }, ""⟩

/-- The text `n`, `x`, `0` in lines: a header, a record that is no integer, and one that is. -/
def unevenData : ByteArray := ⟨#[110, 10, 120, 10, 48, 10]⟩

/-- The first record cannot be read, and the second fails. -/
theorem warnings_of_refusing :
    let options : RunOptions := { onError := .skip }
    let records := refusingJob.inputRecords (.ofData unevenData) "" options refusing.config.inputs
    records.map Option.isSome = [false, true] ∧ ∃ rows start,
      prepare (.ofData unevenData) refusing refusingJob options (.new { engine := () } "") =
        (.ok rows, start) ∧
      Warned refusing options { engine := () } records rows start.toHosted
        (complete (.ofData unevenData) refusing refusingJob options
          (.new { engine := () } "")).2.world.log.toList := by
  intro options records
  have prepared : (prepare (.ofData unevenData) refusing refusingJob options
      (.new { engine := () } "")).1.isOk := by decide +kernel
  have undisturbed : Undisturbed (complete (.ofData unevenData) refusing refusingJob options
      (.new { engine := () } "")).1 := by decide +kernel
  rcases hprepare : prepare (.ofData unevenData) refusing refusingJob options
    (.new { engine := () } "") with ⟨o, start⟩
  rw [hprepare] at prepared
  obtain ⟨rows, rfl⟩ | fails := o.ok_or_fails
  · exact ⟨by decide +kernel, rows, start, rfl, warnings_of_complete rfl hprepare undisturbed⟩
  · exact absurd prepared fails

/-- The first record cannot be read and the second fails, and both are warned of as the first. -/
theorem numbers_of_refusing :
    let result := complete (.ofData unevenData) refusing refusingJob { onError := .skip }
      (.new { engine := () } "")
    result.1 = .ok () ∧ result.2.summary = { records := 2, rows := 0, failed := 2 } ∧
      result.2.world.log.toList.map (·.number?) = [some "1", some "1"] := by
  decide +kernel

end Run

end RowScript
