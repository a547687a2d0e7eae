import Mathlib.Data.List.Forall2
import RowScript.Proofs.Delivery
import RowScript.Proofs.Lifecycle

/-!
# Lifetimes of instances

The engine events of a transformer over a whole run fall into lifetimes, one for each load that
finds the configuration in order and the transformer not ready. A lifetime (`Transformer.Lifetime`)
begins with the events of its load, and if the instance came up, goes on with the call of each
record until the first close and ends with the closing hook (`Transformer.served`); no event belongs
to none.

`events_of_run` states this, with the numbers of the instances telling them apart. An operation
begins a lifetime (`perform_begins`) or continues what was begun (`perform_continues`), and the run
follows by induction over its operations, where the events before the first lifetime are those that
the instance alive at the beginning still has to serve (`Transformer.pending`).

What an operation makes of the lifecycle is told once, for whatever a ready lifecycle keeps
(`Transformer.Turns`).
-/

namespace RowScript

/-- Cut a list before each of the elements that begin a segment: what stands before the first of
them, and the segments, each as its first element and the others. -/
def segments {α : Type} (begins : α → Bool) : List α → List α × List (α × List α)
  | [] => ([], [])
  | a :: rest =>
    let (head, cut) := segments begins rest
    if begins a then ([], (a, head) :: cut) else (a :: head, cut)

theorem length_segments {α : Type} (begins : α → Bool) (l : List α) :
    (segments begins l).2.length = (l.filter begins).length := by
  induction l with
  | nil => rfl
  | cons a rest ih =>
    by_cases h : begins a
    · simp [segments, h, ih]
    · simp [segments, h, ih]

/-- An operation on a transformer. -/
inductive Operation
  | load
  | transform (row : Row)
  | close

/-- An operation, and the state that it finds. -/
structure Step (σ ι τ : Type) where
  before : Pipeline σ ι τ
  op : Operation

namespace Transformer

variable {σ υ ι τ : Type} (t : Transformer σ υ ι)

section Run

variable [RowSink τ]

def perform : Operation → Attempt (Pipeline σ ι τ) HostError (Option OutputRow)
  | .load => do
    t.load
    return none
  | .transform row => t.transform row
  | .close => do
    t.close
    return none

/-- The state after operations. -/
def after (ops : List Operation) (p : Pipeline σ ι τ) : Pipeline σ ι τ :=
  ops.foldl (fun p op => (t.perform op p).2) p

/-- The operations of a run, each with the state it finds. -/
def steps : List Operation → Pipeline σ ι τ → List (Step σ ι τ)
  | [], _ => []
  | op :: rest, p => ⟨p, op⟩ :: steps rest (t.perform op p).2

end Run

/-- A load that finds the configuration in order and the transformer not ready. -/
def begins (s : Step σ ι τ) : Bool :=
  match s.op with
  | .load => !s.before.lifecycle.isReady && (t.config.source t.engine.example?).isOk
  | .transform _ | .close => false

/-- The call of a record, as an event of the instance with that number. -/
def recordEvent (number : Nat) (row : Row) : EngineEvent :=
  .call number t.host.entry t.host.policy.access <|
    .values (toValueMap t.config.inputs row) ::
      match t.config.variant with
      | .simple | .standard _ => []
      | .advanced _ => [.collector []]

/-- The arguments of the call of a record that comes in a world. -/
def recordArgs (row : Row) (w : World σ) : List Arg :=
  .values (toValueMap t.config.inputs row) ::
    match t.config.variant with
    | .simple | .standard _ => []
    | .advanced _ => [.collector w.collectors.fresh.1]

/-- The world that the call of a record finds: there is a collector for the record if it emits rows. -/
def recordWorld (w : World σ) : World σ :=
  match t.config.variant with
  | .simple | .standard _ => w
  | .advanced _ => { w with collectors := w.collectors.fresh.2 }

/-- The events of a live instance: the records until the first close, and the closing hook. -/
def served (entries : EntryPoints) (number : Nat) : List Operation → List EngineEvent
  | [] => []
  | .load :: rest => served entries number rest
  | .transform row :: rest => t.recordEvent number row :: served entries number rest
  | .close :: _ =>
    (t.host.hook? entries.closing).toList.map fun hook => .call number hook .exclusive []

/-- The events that begin with a load of `source` in the world `w` and end before the next load:
those of the load, and if the instance came up, those that it serves. -/
inductive Lifetime (source : String) (w : World σ) (rest : List Operation) :
    List EngineEvent → Prop
  | failed {es r w'} (loading : t.host.Loading source w es r w') (fails : r.isOk = false) :
      Lifetime source w rest es
  | lived {es entries gate w'} (loading : t.host.Loading source w es (.ok (entries, gate)) w') :
      Lifetime source w rest (es ++ t.served entries w.instances rest)

/-- The events that the instance alive in a state still has to serve. -/
def pending (life : Lifecycle ι) (ops : List Operation) : List EngineEvent :=
  match life with
  | .ready entries gate => t.served entries gate.inst.number ops
  | .unloaded | .closed => []

/-- The entry point and the policy of a live instance are those of the variant. -/
def Suits (life : Lifecycle ι) : Prop :=
  ∀ entries gate, life = .ready entries gate →
    entries.transform = t.host.entry ∧ gate.policy = t.host.policy

/-! ### One operation -/

section Perform

variable [RowSink τ]

theorem perform_load (p : Pipeline σ ι τ) :
    t.perform .load p = ((t.load p).1.map fun _ => none, (t.load p).2) :=
  Attempt.bind_pure_apply _

theorem perform_close (p : Pipeline σ ι τ) :
    t.perform .close p = ((t.close p).1.map fun _ => none, (t.close p).2) :=
  Attempt.bind_pure_apply _

theorem collectingCall_noted (entries : EntryPoints) (gate : Gate ι) (row : Row) (w : World σ) :
    let call := t.collectingCall entries gate row w
    ∃ inst, call.gate = { gate with inst } ∧ inst.number = gate.inst.number ∧
      call.world.events = w.events.push (.call gate.inst.number entries.transform gate.policy.access
        [.values (toValueMap t.config.inputs row), .collector []]) ∧
      call.world.instances = w.instances := by
  intro call
  obtain ⟨inst, hgate, hnumber, hevents, hinstances⟩ := Gate.call_noted
    (show gate.call t.engine entries.transform
      [.values (toValueMap t.config.inputs row), .collector w.collectors.fresh.1]
      { w with collectors := w.collectors.fresh.2 } =
        (call.outcome, call.gate, call.world) from rfl)
  simp only [List.map_cons, List.map_nil, World.see, Collectors.rows_fresh] at hevents
  exact ⟨inst, hgate, hnumber, hevents, hinstances⟩

/-- A record of a ready transformer is one call of the live instance. -/
theorem transform_noted {entries : EntryPoints} {gate : Gate ι}
    (hentry : entries.transform = t.host.entry) (hpolicy : gate.policy = t.host.policy) (row : Row)
    (w : World σ) (sink : τ) :
    ∃ o inst w' sink', t.transform row ⟨⟨.ready entries gate, w⟩, sink⟩ =
        (o, ⟨⟨.ready entries { gate with inst }, w'⟩, sink'⟩) ∧
      inst.number = gate.inst.number ∧
      w'.events = w.events.push (t.recordEvent gate.inst.number row) ∧
      w'.instances = w.instances := by
  rcases t.config.variant.single_or_advanced with hsingle | ⟨config, hconfig⟩
  · rcases hcall : gate.call t.engine entries.transform [.values (toValueMap t.config.inputs row)] w
      with ⟨o, gate', w'⟩
    obtain ⟨inst, rfl, hnumber, hevents, hinstances⟩ := Gate.call_noted hcall
    have hevent : t.recordEvent gate.inst.number row = .call gate.inst.number entries.transform
        gate.policy.access [.values (toValueMap t.config.inputs row)] := by
      rw [recordEvent, hentry, hpolicy]
      cases hconfig : t.config.variant with
      | simple => rfl
      | standard concurrent => rfl
      | advanced config => exact absurd hconfig (hsingle config)
    rw [t.transform_of_single hsingle]
    simp only [Host.transform, host_engine, hcall]
    exact ⟨_, inst, w', sink, rfl, hnumber, by rw [hevents, hevent]; rfl, hinstances⟩
  · obtain ⟨inst, hgate, hnumber, hevents, hinstances⟩ := t.collectingCall_noted entries gate row w
    have hevent : t.recordEvent gate.inst.number row = .call gate.inst.number entries.transform
        gate.policy.access [.values (toValueMap t.config.inputs row), .collector []] := by
      rw [recordEvent, hconfig, hentry, hpolicy]
    rw [← hevent] at hevents
    rw [t.transform_of_advanced hconfig, t.transformCollecting_ready, hgate]
    -- what follows the call logs, but notes nothing
    cases (t.collectingCall entries gate row w).outcome with
    | error e => exact ⟨_, inst, _, sink, rfl, hnumber, hevents, hinstances⟩
    | aborted => exact ⟨_, inst, _, sink, rfl, hnumber, hevents, hinstances⟩
    | ok returned =>
      simp only
      cases config.refused? (t.collectingCall entries gate row w).emitted with
      | some values => exact ⟨_, inst, _, sink, rfl, hnumber, hevents, hinstances⟩
      | none => exact ⟨_, inst, _, _, rfl, hnumber, hevents, hinstances⟩

theorem transform_unnoted {life : Lifecycle ι} (hidle : ¬ life.isReady) (row : Row) (w : World σ)
    (sink : τ) :
    ∃ e w', t.transform row ⟨⟨life, w⟩, sink⟩ = (.error e, ⟨⟨life, w'⟩, sink⟩) ∧
      w'.events = w.events ∧ w'.instances = w.instances ∧
      e = if life.isClosed then .closed else .notInitialized := by
  obtain ⟨e, he, hhost⟩ : ∃ e : HostError, (e = if life.isClosed then .closed else .notInitialized) ∧
      ∀ args w, t.host.transform args ⟨life, w⟩ = (.error e, ⟨life, w⟩) := by
    cases life with
    | unloaded => exact ⟨.notInitialized, rfl, fun _ _ => rfl⟩
    | closed => exact ⟨.closed, rfl, fun _ _ => rfl⟩
    | ready _ _ => exact absurd rfl hidle
  rcases t.config.variant.single_or_advanced with hsingle | ⟨config, hconfig⟩
  · rw [t.transform_of_single hsingle]
    simp only [hhost]
    exact ⟨e, w, rfl, rfl, rfl, he⟩
  · rw [t.transform_of_advanced hconfig, t.transformCollecting_idle config row life w sink hhost]
    exact ⟨e, _, rfl, rfl, rfl, he⟩

theorem perform_begins {p : Pipeline σ ι τ} {op : Operation} (hbegins : t.begins ⟨p, op⟩) :
    op = .load ∧ ¬ p.lifecycle.isReady ∧ ∃ source es r w',
      t.config.source t.engine.example? = .ok source ∧ t.host.Loading source p.world es r w' ∧
      t.perform op p = ((Host.loadEnd p.lifecycle w' r).1.map fun _ => none,
        ⟨(Host.loadEnd p.lifecycle w' r).2, p.sink⟩) := by
  cases op with
  | transform row => cases hbegins
  | close => cases hbegins
  | load =>
    obtain ⟨hready, hsource⟩ := Bool.and_eq_true_iff.mp hbegins
    have hidle : ¬ p.lifecycle.isReady := by simpa using hready
    cases hload : t.config.source t.engine.example? with
    | error fault => simp [hload, Except.isOk, Except.toBool] at hsource
    | ok source =>
      obtain ⟨es, r, w', hl⟩ := t.host.exists_loading source p.world
      refine ⟨rfl, hidle, source, es, r, w', rfl, hl, ?_⟩
      rw [perform_load, load, hload]
      show ((t.host.load source p.toHosted).1.map fun _ => none,
        (⟨(t.host.load source p.toHosted).2, p.sink⟩ : Pipeline σ ι τ)) = _
      rw [t.host.load_of_loading hidle hl]

theorem load_of_not_begins {p : Pipeline σ ι τ} (hbegins : ¬ t.begins ⟨p, .load⟩) :
    (t.perform .load p).2 = p := by
  rw [perform_load, load]
  cases hload : t.config.source t.engine.example? with
  | error fault => rfl
  | ok source =>
    have hready : p.lifecycle.isReady := by
      simpa [begins, hload, Except.isOk, Except.toBool] using hbegins
    show (⟨(t.host.load source p.toHosted).2, p.sink⟩ : Pipeline σ ι τ) = _
    rw [(t.host.loadContract p.toHosted source).of_ready hready]

omit [RowSink τ] in
theorem begins_of_isOk {p : Pipeline σ ι τ} (succeeds : (t.load p).1.isOk) :
    t.begins ⟨p, .load⟩ := by
  unfold load at succeeds
  cases hsource : t.config.source t.engine.example? with
  | error fault =>
    rw [hsource] at succeeds
    cases succeeds
  | ok source =>
    have idle : ¬ p.lifecycle.isReady := fun hready => by
      rw [hsource] at succeeds
      have refused := (t.host.loadContract p.toHosted source).of_ready hready
      simp only [Pipeline.onHost, Attempt.zoom, refused] at succeeds
      cases succeeds
    simp [begins, idle, hsource, Except.isOk, Except.toBool]

theorem recorded_of_single (hsingle : ∀ config, t.config.variant ≠ .advanced config) (row : Row)
    (w : World σ) : t.recordArgs row w = [.values (toValueMap t.config.inputs row)] ∧
      t.recordWorld w = w := by
  rw [recordArgs, recordWorld]
  cases hconfig : t.config.variant with
  | simple => exact ⟨rfl, rfl⟩
  | standard concurrent => exact ⟨rfl, rfl⟩
  | advanced config => exact absurd hconfig (hsingle config)

theorem recorded_of_advanced {config : AdvancedConfig} (hconfig : t.config.variant = .advanced config)
    (row : Row) (w : World σ) : t.recordArgs row w =
      [.values (toValueMap t.config.inputs row), .collector w.collectors.fresh.1] ∧
        t.recordWorld w = { w with collectors := w.collectors.fresh.2 } := by
  rw [recordArgs, recordWorld, hconfig]
  exact ⟨rfl, rfl⟩

/-- What a record makes of a ready transformer is what its one call makes of the instance, and if the
call fails, so does the record. -/
theorem transform_calls (entries : EntryPoints) (gate : Gate ι) (row : Row) (w : World σ) (sink : τ) :
    let called := t.host.engine.call gate.policy.access entries.transform (t.recordArgs row w)
      gate.inst (t.recordWorld w)
    let result := t.transform row ⟨⟨.ready entries gate, w⟩, sink⟩
    result.2.lifecycle = .ready entries { gate with inst := called.2.1 } ∧
      (∀ e, called.1 = .error e → result.1 = .error (.script e)) ∧
      (called.1 = .aborted → result.1 = .aborted) := by
  rcases t.config.variant.single_or_advanced with hsingle | ⟨config, hconfig⟩
  · obtain ⟨hargs, hworld⟩ := t.recorded_of_single hsingle row w
    rw [hargs, hworld, t.transform_of_single hsingle]
    simp only [Host.transform, Gate.call, Gate.enter, true_and]
    exact ⟨fun e he => by rw [he]; rfl, fun haborted => by rw [haborted]; rfl⟩
  · obtain ⟨hargs, hworld⟩ := t.recorded_of_advanced hconfig row w
    rw [hargs, hworld, t.transform_of_advanced hconfig, t.transformCollecting_ready, host_engine]
    intro called
    have outcome : (t.collectingCall entries gate row w).outcome = called.1 := rfl
    have left : (t.collectingCall entries gate row w).gate = { gate with inst := called.2.1 } := rfl
    rw [outcome, left]
    -- what follows the call does not touch the instance
    cases called.1 with
    | error e =>
      refine ⟨rfl, fun _ he => ?_, fun haborted => ?_⟩
      · cases he
        rfl
      · cases haborted
    | aborted =>
      refine ⟨rfl, fun _ he => ?_, fun _ => rfl⟩
      cases he
    | ok returned =>
      refine ⟨?_, fun _ he => ?_, fun haborted => ?_⟩
      · simp only
        cases config.refused? (t.collectingCall entries gate row w).emitted <;> rfl
      · cases he
      · cases haborted

/-- What an operation makes of the lifecycle. -/
inductive Turns : Lifecycle ι → Operation → Lifecycle ι → Prop
  /-- A load that is refused or fails changes nothing, and nothing does where no script is live. -/
  | kept {life op} (h : life.isReady → op = .load) : Turns life op life
  | began {life source w es entries gate w'} (idle : ¬ life.isReady)
      (configured : t.config.source t.engine.example? = .ok source)
      (loading : t.host.Loading source w es (.ok (entries, gate)) w') :
      Turns life .load (.ready entries gate)
  | called {entries gate row args w o inst w'}
      (called : t.host.engine.call gate.policy.access entries.transform args gate.inst w =
        (o, inst, w')) :
      Turns (.ready entries gate) (.transform row) (.ready entries { gate with inst })
  | ended {entries gate} : Turns (.ready entries gate) .close .closed

theorem turns_perform (op : Operation) (p : Pipeline σ ι τ) :
    t.Turns p.lifecycle op (t.perform op p).2.lifecycle := by
  by_cases hbegins : t.begins ⟨p, op⟩
  · obtain ⟨rfl, hidle, source, es, r, w', hsource, hl, hrun⟩ := t.perform_begins hbegins
    rw [hrun]
    rcases r with ⟨entries, gate⟩ | e | _
    · exact .began hidle hsource hl
    · exact .kept fun hready => absurd hready hidle
    · exact .kept fun hready => absurd hready hidle
  · obtain ⟨⟨life, w⟩, sink⟩ := p
    cases op with
    | load =>
      rw [t.load_of_not_begins hbegins]
      exact .kept fun _ => rfl
    | transform row =>
      by_cases hready : life.isReady
      · obtain ⟨entries, gate, rfl⟩ := Lifecycle.exists_of_isReady hready
        obtain ⟨hafter, -⟩ := t.transform_calls entries gate row w sink
        rw [perform, hafter]
        exact .called rfl
      · obtain ⟨e, w', hrun, -⟩ := t.transform_unnoted hready row w sink
        rw [perform, hrun]
        exact .kept fun h => absurd h hready
    | close =>
      rw [perform_close]
      cases life with
      | unloaded => exact .kept nofun
      | closed => exact .kept nofun
      | ready entries gate => exact .ended

variable {t} in
theorem Turns.suits {life life' : Lifecycle ι} {op : Operation} (h : t.Turns life op life')
    (hsuits : t.Suits life) : t.Suits life' := by
  cases h with
  | kept => exact hsuits
  | began _ _ loading =>
    rintro _ _ ⟨⟩
    exact loading.entry
  | @called entries gate =>
    rintro _ _ ⟨⟩
    exact hsuits entries gate rfl
  | ended => rintro _ _ ⟨⟩

theorem suits_perform (op : Operation) {p : Pipeline σ ι τ} (hsuits : t.Suits p.lifecycle) :
    t.Suits (t.perform op p).2.lifecycle :=
  (t.turns_perform op p).suits hsuits

/-- What an operation notes that begins no lifetime: calls of the live instance that were pending. -/
theorem perform_continues {p : Pipeline σ ι τ} {op : Operation} (hbegins : ¬ t.begins ⟨p, op⟩)
    (hsuits : t.Suits p.lifecycle) :
    ∃ es, (t.perform op p).2.world.events.toList = p.world.events.toList ++ es ∧
      (∀ e ∈ es, e.isCall) ∧ (t.perform op p).2.world.instances = p.world.instances ∧
      ∀ rest, t.pending p.lifecycle (op :: rest) =
        es ++ t.pending (t.perform op p).2.lifecycle rest := by
  obtain ⟨⟨life, w⟩, sink⟩ := p
  cases op with
  | load =>
    rw [t.load_of_not_begins hbegins]
    refine ⟨[], by simp, by simp, rfl, fun rest => ?_⟩
    cases life <;> rfl
  | transform row =>
    by_cases hready : life.isReady
    · obtain ⟨entries, gate, rfl⟩ := Lifecycle.exists_of_isReady hready
      obtain ⟨hentry, hpolicy⟩ := hsuits entries gate rfl
      obtain ⟨o, inst, w', sink', hrun, hnumber, hevents, hinstances⟩ :=
        t.transform_noted hentry hpolicy row w sink
      refine ⟨[t.recordEvent gate.inst.number row], ?_, by simp [recordEvent, EngineEvent.isCall],
        ?_, fun rest => ?_⟩
      · rw [perform, hrun]
        simp [hevents]
      · rw [perform, hrun]
        exact hinstances
      · rw [perform, hrun]
        simp only [pending, served, hnumber]
        rfl
    · obtain ⟨e, w', hrun, hevents, hinstances, -⟩ := t.transform_unnoted hready row w sink
      rw [perform, hrun]
      refine ⟨[], by simp [hevents], by simp, hinstances, fun rest => ?_⟩
      cases life with
      | unloaded => rfl
      | closed => rfl
      | ready _ _ => exact absurd rfl hready
  | close =>
    have hclose : (t.perform .close (⟨⟨life, w⟩, sink⟩ : Pipeline σ ι τ)).2 =
        ⟨(t.host.close ⟨life, w⟩).2, sink⟩ := by
      rw [perform_close]
      rfl
    rw [hclose]
    have contract := t.host.closeContract ⟨life, w⟩
    cases life with
    | unloaded =>
      rw [contract.of_unloaded rfl]
      exact ⟨[], by simp, by simp, rfl, fun _ => rfl⟩
    | closed =>
      rw [contract.of_closed rfl]
      exact ⟨[], by simp, by simp, rfl, fun _ => rfl⟩
    | ready entries gate =>
      rcases hhook : t.host.hook? entries.closing with _ | hook
      · rw [contract.of_unhooked rfl hhook]
        refine ⟨[], by simp, by simp, rfl, fun rest => ?_⟩
        simp [pending, served, hhook]
      · rcases hcall : t.host.engine.call .exclusive hook [] gate.inst w with ⟨o, inst, w'⟩
        obtain ⟨hevents, hinstances, -⟩ := Engine.call_noted hcall
        rw [contract.of_hook rfl hhook hcall]
        refine ⟨[.call gate.inst.number hook .exclusive []], by simp [hevents],
          by simp [EngineEvent.isCall], hinstances, fun rest => ?_⟩
        simp [pending, served, hhook]

end Perform

/-! ### Runs -/

section Run

variable [RowSink τ]

/-- The trace of one lifetime of a run. -/
def IsTrace (life : Step σ ι τ × List (Step σ ι τ)) (trace : List EngineEvent) : Prop :=
  ∃ source, t.config.source t.engine.example? = .ok source ∧
    t.Lifetime source life.1.before.world (life.2.map (·.op)) trace

theorem made?_of_calls {es : List EngineEvent} (hcalls : ∀ e ∈ es, e.isCall) :
    es.filterMap EngineEvent.made? = [] := by
  rw [List.filterMap_eq_nil_iff]
  intro e he
  cases e with
  | call => rfl
  | compile => cases hcalls _ he
  | instantiate => cases hcalls _ he

theorem mem_pending {life : Lifecycle ι} {ops : List Operation} {e : EngineEvent}
    (he : e ∈ t.pending life ops) :
    ∃ entries gate, life = .ready entries gate ∧
      ((∃ row, e = t.recordEvent gate.inst.number row) ∨
        ∃ hook, e = .call gate.inst.number hook .exclusive []) := by
  cases life with
  | unloaded => cases he
  | closed => cases he
  | ready entries gate =>
    refine ⟨entries, gate, rfl, ?_⟩
    rw [pending] at he
    induction ops with
    | nil => cases he
    | cons op rest ih =>
      cases op with
      | load => exact ih he
      | transform row =>
        rcases List.mem_cons.mp he with rfl | he
        · exact .inl ⟨row, rfl⟩
        · exact ih he
      | close =>
        obtain ⟨hook, -, rfl⟩ := List.mem_map.mp he
        exact .inr ⟨hook, rfl⟩

theorem pending_calls (life : Lifecycle ι) (ops : List Operation) :
    ∀ e ∈ t.pending life ops, e.isCall := by
  intro e he
  obtain ⟨entries, gate, -, ⟨row, rfl⟩ | ⟨hook, rfl⟩⟩ := t.mem_pending he
  · rfl
  · rfl

theorem pending_of_idle {life : Lifecycle ι} (hidle : ¬ life.isReady) (ops : List Operation) :
    t.pending life ops = [] := by
  cases life with
  | unloaded => rfl
  | closed => rfl
  | ready _ _ => exact absurd rfl hidle

theorem lifetime_of_loading {source : String} {w w' : World σ} {es : List EngineEvent}
    {r : Outcome ScriptError (EntryPoints × Gate ι)} (hl : t.host.Loading source w es r w')
    {life : Lifecycle ι} (hidle : ¬ life.isReady) (ops : List Operation) :
    t.Lifetime source w ops (es ++ t.pending (Host.loadEnd life w' r).2.lifecycle ops) := by
  rcases r with ⟨entries, gate⟩ | e | _
  · have hserved : t.pending (.ready entries gate) ops = t.served entries w.instances ops := by
      rw [pending, hl.number.1]
    show t.Lifetime source w ops (es ++ t.pending (.ready entries gate) ops)
    rw [hserved]
    exact .lived hl
  · show t.Lifetime source w ops (es ++ t.pending life ops)
    rw [t.pending_of_idle hidle, List.append_nil]
    exact .failed hl rfl
  · show t.Lifetime source w ops (es ++ t.pending life ops)
    rw [t.pending_of_idle hidle, List.append_nil]
    exact .failed hl rfl

/-- The events of a run from any state: those pending, then the lifetimes. Instances are asked for
under consecutive numbers. -/
theorem events_from (ops : List Operation) (p : Pipeline σ ι τ) (hsuits : t.Suits p.lifecycle) :
    ∃ traces, List.Forall₂ t.IsTrace (segments t.begins (t.steps ops p)).2 traces ∧
      (t.after ops p).world.events.toList = p.world.events.toList ++
        t.pending p.lifecycle ((segments t.begins (t.steps ops p)).1.map (·.op)) ++
        traces.flatten ∧
      ∃ count, traces.flatten.filterMap EngineEvent.made? =
        List.range' p.world.instances count := by
  -- the operations before the next lifetime are those that the instance of this one still serves
  induction ops generalizing p with
  | nil =>
    refine ⟨[], .nil, ?_, 0, rfl⟩
    obtain ⟨⟨life, w⟩, sink⟩ := p
    cases life <;> simp [steps, segments, after, pending, served]
  | cons op rest ih =>
    by_cases hbegins : t.begins ⟨p, op⟩
    · obtain ⟨rfl, hidle, source, es, r, w', hsource, hl, hrun⟩ := t.perform_begins hbegins
      obtain ⟨hnoted, hnumbers⟩ := hl.noted
      let next : Pipeline σ ι τ := ⟨(Host.loadEnd p.lifecycle w' r).2, p.sink⟩
      have hnext : (t.perform .load p).2 = next := congrArg Prod.snd hrun
      have hworld : next.world = w' := Host.world_loadEnd p.lifecycle w' r
      obtain ⟨traces, htraces, hafter, count, hmade⟩ :=
        ih next (hnext ▸ t.suits_perform .load hsuits)
      rw [hworld] at hafter hmade
      have hsteps : t.steps (.load :: rest) p = ⟨p, .load⟩ :: t.steps rest next := by
        rw [steps, hnext]
      have hlast : t.after (.load :: rest) p = t.after rest next := by
        rw [after, List.foldl_cons, hnext]
        rfl
      rw [hsteps, hlast, hafter, hnoted]
      let own := (segments t.begins (t.steps rest next)).1.map (·.op)
      refine ⟨(es ++ t.pending next.lifecycle own) :: traces, ?_, ?_, ?_⟩
      · simp only [segments, hbegins, if_true]
        exact .cons ⟨source, hsource, t.lifetime_of_loading hl hidle _⟩ htraces
      · simp [segments, hbegins, t.pending_of_idle hidle, next, own]
      · rw [List.flatten_cons, List.filterMap_append, List.filterMap_append,
          made?_of_calls (t.pending_calls _ _), hmade, List.append_nil]
        rcases hnumbers with ⟨hnone, hcount⟩ | ⟨hone, hcount⟩
        · exact ⟨count, by rw [hnone, hcount, List.nil_append]⟩
        · exact ⟨count + 1, by rw [hone, hcount, List.range'_succ, List.singleton_append]⟩
    · obtain ⟨es, hevents, -, hinstances, hpending⟩ := t.perform_continues hbegins hsuits
      obtain ⟨traces, htraces, hafter, count, hmade⟩ :=
        ih (t.perform op p).2 (t.suits_perform op hsuits)
      refine ⟨traces, ?_, ?_, count, ?_⟩
      · simpa [steps, segments, hbegins] using htraces
      · have hlast : t.after (op :: rest) p = t.after rest (t.perform op p).2 := rfl
        rw [hlast, hafter, hevents]
        simp [steps, segments, hbegins, hpending]
      · rw [hmade, hinstances]

theorem suits_steps (ops : List Operation) {p : Pipeline σ ι τ} (hsuits : t.Suits p.lifecycle) :
    ∀ step ∈ t.steps ops p, t.Suits step.before.lifecycle := by
  induction ops generalizing p with
  | nil => simp [steps]
  | cons op rest ih =>
    intro step hstep
    rcases List.mem_cons.mp hstep with rfl | hstep
    · exact hsuits
    · exact ih (t.suits_perform op hsuits) step hstep

/-- **The engine events of a run are lifetimes, one after the other.** There is one for each load
that finds the configuration in order and the transformer not ready. No two lifetimes ask for an
instance under one number, and nothing but loads compiles or asks for an instance. -/
theorem events_of_run (w : World σ) (sink : τ) (ops : List Operation) :
    let steps := t.steps ops (.new w sink)
    ∃ traces, List.Forall₂ t.IsTrace (segments t.begins steps).2 traces ∧
      traces.length = (steps.filter t.begins).length ∧
      (t.after ops (.new w sink)).world.events.toList = w.events.toList ++ traces.flatten ∧
      (traces.flatten.filterMap EngineEvent.made?).Nodup ∧
      ∀ step ∈ steps, step.op ≠ .load → ∃ calls, (∀ e ∈ calls, e.isCall) ∧
        (t.perform step.op step.before).2.world.events.toList =
          step.before.world.events.toList ++ calls := by
  intro steps
  have hsuits : t.Suits (Pipeline.new w sink : Pipeline σ ι τ).lifecycle := by
    rintro _ _ ⟨⟩
  obtain ⟨traces, htraces, hevents, count, hmade⟩ := t.events_from ops (.new w sink) hsuits
  refine ⟨traces, htraces, ?_, ?_, ?_, ?_⟩
  · rw [← htraces.length_eq, length_segments]
  · simpa [pending, Pipeline.new] using hevents
  · rw [hmade]
    exact List.nodup_range'
  · intro step hstep hload
    have hnot : ¬ t.begins ⟨step.before, step.op⟩ := fun hbegins =>
      hload (t.perform_begins hbegins).1
    obtain ⟨es, hnoted, hcalls, -⟩ :=
      t.perform_continues hnot (t.suits_steps ops hsuits step hstep)
    exact ⟨es, hcalls, hnoted⟩

end Run

end Transformer

end RowScript
