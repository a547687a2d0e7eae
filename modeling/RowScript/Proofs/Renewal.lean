import RowScript.Proofs.Sharing
import RowScript.Proofs.Unconfigured

/-!
# A transformer that is loaded again is a new one

A lifetime of a script leaves collectors behind, a log, rows in the sink, a count of the instances that
were made, and whatever the interpreter keeps besides its scripts. None of it can be found by a script that
is loaded later, if scripts do not see the numbers of collectors (`Interpreter.PassesHandles`) and the
script is deterministic (`Interpreter.Deterministic`):

* The collectors of the later lifetime stand behind those that are there (`Relocation.behind`), so a
  transformer that is loaded follows one that is loaded in an empty world (`Pipeline.Follows`).
* A load of a transformer that is not ready does not ask what its state was (`Transformer.load_idle`).

Two transformers that follow the same one in an empty world go on alike (`Transformer.repeats_perform`),
whatever is behind each of them.

How often the statements outside the functions of a script run is told by an interpreter that counts it
(`Interpreter.counting`): on its engine everything goes as before, and the count stays that of the
instances (`Transformer.counts_perform`).
-/

namespace RowScript

variable {σ α : Type}

/-! ### Loads of transformers that are not ready -/

theorem Lifecycle.this?_of_idle {life : Lifecycle (LiveScript α)} (idle : ¬ life.isReady) :
    life.this? = none := by
  cases life with
  | ready _ _ => exact absurd rfl idle
  | _ => rfl

/-- A load does not ask in which of the other states its host is, and either leaves it in a new one or
in the one that it was in. -/
theorem Host.load_idle {σ υ ι : Type} (h : Host σ υ ι) (source : String) (w : World σ) :
    ∃ (o : Outcome HostError Unit) (w' : World σ) (next? : Option (Lifecycle ι)),
      o.isOk = next?.isSome ∧ ∀ life : Lifecycle ι, ¬ life.isReady →
        h.load source ⟨life, w⟩ = (o, ⟨next?.getD life, w'⟩) := by
  obtain ⟨es, r, w', loading⟩ := h.exists_loading source w
  have ends (life : Lifecycle ι) (idle : ¬ life.isReady) :
      h.load source ⟨life, w⟩ = loadEnd life w' r := h.load_of_loading idle loading
  rcases r with ⟨entries, gate⟩ | e | _
  · exact ⟨_, _, some (.ready entries gate), rfl, ends⟩
  · exact ⟨_, _, none, rfl, ends⟩
  · exact ⟨_, _, none, rfl, ends⟩

theorem Transformer.load_idle {σ υ ι τ : Type} (t : Transformer σ υ ι) (w : World σ) (sink : τ) :
    ∃ (o : Outcome HostError Unit) (w' : World σ) (next? : Option (Lifecycle ι)),
      o.isOk = next?.isSome ∧ ∀ life : Lifecycle ι, ¬ life.isReady →
        t.load ⟨⟨life, w⟩, sink⟩ = (o, ⟨⟨next?.getD life, w'⟩, sink⟩) := by
  unfold load
  cases t.config.source t.engine.example? with
  | error fault => exact ⟨_, w, none, rfl, fun _ _ => rfl⟩
  | ok source =>
    obtain ⟨o, w', next?, hnext, ends⟩ := t.host.load_idle source w
    refine ⟨o, w', next?, hnext, fun life idle => ?_⟩
    simp only [Pipeline.onHost_apply, ends life idle]

/-! ### Transformers beside each other -/

section Runs

variable {τ κ : Type} [KeepsRows τ] [KeepsRows κ]

namespace Pipeline

/-- What is found in a state is what is found in another one, moved; the log and the rows of that one
come behind what was there before. -/
def Follows (I : Interpreter σ α) (limits : Limits) (sources : String → Prop) (ρ : Relocation)
    (past : Past) (rows : List OutputRow) (p : Pipeline (Thread σ) (LiveScript α) τ)
    (c : Pipeline (Thread σ) (LiveScript α) κ) : Prop :=
  p.Like (I.likeness (fun _ _ => True) ρ limits sources) past
    (fun sink sink' => KeepsRows.rows sink = rows ++ KeepsRows.rows sink') c

/-- What there is in a state before what comes next. -/
def past (p : Pipeline (Thread σ) (LiveScript α) τ) : Past := ⟨p.world.log, p.world.instances⟩

/-- The state with nothing in its log and its sink, and no instances made. -/
def emptied (p : Pipeline (Thread σ) (LiveScript α) τ) : Pipeline (Thread σ) (LiveScript α) RowBuffer :=
  ⟨⟨p.lifecycle, { p.world with log := #[], instances := 0 }⟩, .empty⟩

variable {I : Interpreter σ α} {limits : Limits} {sources : String → Prop}

theorem Follows.onward {ρ : Relocation} {before : Past} {rows : List OutputRow}
    {p : Pipeline (Thread σ) (LiveScript α) τ} {c : Pipeline (Thread σ) (LiveScript α) κ}
    (h : p.Follows I limits sources ρ before rows c) :
    p.Follows I limits sources ρ p.past (KeepsRows.rows p.sink) c.emptied where
  lifecycle := h.lifecycle
  world := ⟨trivial, h.world.collectors, Array.append_empty.symm, rfl⟩
  sink := (List.append_nil _).symm

variable (I limits sources)

/-- Two states that follow the same state, each behind a past of its own. -/
def Beside (p : Pipeline (Thread σ) (LiveScript α) τ) (q : Pipeline (Thread σ) (LiveScript α) κ) :
    Prop :=
  ∃ (ρ ρ' : Relocation) (c : Pipeline (Thread σ) (LiveScript α) RowBuffer), ρ.Sound ∧ ρ'.Sound ∧
    p.Follows I limits sources ρ p.past (KeepsRows.rows p.sink) c ∧
    q.Follows I limits sources ρ' q.past (KeepsRows.rows q.sink) c

theorem follows_new (w : World (Thread σ)) (sink : τ) (thread : Thread σ) :
    (new w sink : Pipeline (Thread σ) (LiveScript α) τ).Follows I limits sources (.behind w.collectors)
      ⟨w.log, w.instances⟩ (KeepsRows.rows sink) (new { engine := thread } RowBuffer.empty) where
  lifecycle := .unloaded
  world := ⟨trivial, congrArg Collectors.mk Array.append_empty.symm, Array.append_empty.symm, rfl⟩
  sink := (List.append_nil _).symm

theorem beside_new (w w' : World (Thread σ)) (sink : τ) (sink' : κ) :
    (new w sink : Pipeline (Thread σ) (LiveScript α) τ).Beside I limits sources
      (new w' sink' : Pipeline (Thread σ) (LiveScript α) κ) :=
  ⟨_, _, _, Relocation.sound_behind _, Relocation.sound_behind _,
    follows_new I limits sources w sink w.engine, follows_new I limits sources w' sink' w.engine⟩

end Pipeline

namespace Transformer

/-- One operation in two states: it ends alike, puts the same rows behind those that are in the sink,
logs the same, and leaves the same `this`. -/
structure Repeats (t : Transformer (Thread σ) (CompiledScript α) (LiveScript α))
    (a : Step (Thread σ) (LiveScript α) τ) (b : Step (Thread σ) (LiveScript α) κ) : Prop where
  op : a.op = b.op
  outcome : (t.perform a.op a.before).1 = (t.perform b.op b.before).1
  rows : ∃ rows,
    KeepsRows.rows (t.perform a.op a.before).2.sink = KeepsRows.rows a.before.sink ++ rows ∧
    KeepsRows.rows (t.perform b.op b.before).2.sink = KeepsRows.rows b.before.sink ++ rows
  log : ∃ log, (t.perform a.op a.before).2.world.log = a.before.world.log ++ log ∧
    (t.perform b.op b.before).2.world.log = b.before.world.log ++ log
  this : (t.perform a.op a.before).2.lifecycle.this?.map (·.toValue) =
    (t.perform b.op b.before).2.lifecycle.this?.map (·.toValue)

variable {I : Interpreter σ α} {limits : Limits} {sources : String → Prop}

theorem this?_of_follows {ρ : Relocation} {life life' : Lifecycle (LiveScript α)}
    (h : life.Like (I.likeness (fun _ _ => True) ρ limits sources) life') :
    life.this?.map (·.toValue) = life'.this?.map (·.toValue) := by
  cases h with
  | unloaded => rfl
  | closed => rfl
  | ready gate =>
    obtain ⟨moved, -⟩ := gate.inst
    simp only [Lifecycle.this?, moved, LiveScript.content_move, Option.map_some]
    exact congrArg some (Script.Datum.toValue_move _)

variable {t : Transformer (Thread σ) (CompiledScript α) (LiveScript α)}
  (like : ∀ ρ : Relocation, ρ.Sound → t.Like (I.likeness (fun _ _ => True) ρ limits sources) t)
  {p : Pipeline (Thread σ) (LiveScript α) τ} {q : Pipeline (Thread σ) (LiveScript α) κ}
include like

/-- What follows a state does what is done in that one. -/
theorem follows_perform {ρ : Relocation} (sound : ρ.Sound) (op : Operation)
    {c : Pipeline (Thread σ) (LiveScript α) RowBuffer}
    (h : p.Follows I limits sources ρ p.past (KeepsRows.rows p.sink) c) :
    (t.perform op p).1 = (t.perform op c.emptied).1 ∧
      (t.perform op p).2.Follows I limits sources ρ p.past (KeepsRows.rows p.sink)
        (t.perform op c.emptied).2 := by
  have puts (sink : τ) (sink' : RowBuffer) (rows : List OutputRow)
      (h : KeepsRows.rows sink = KeepsRows.rows p.sink ++ KeepsRows.rows sink') :
      KeepsRows.rows (RowSink.putRows sink rows) =
        KeepsRows.rows p.sink ++ KeepsRows.rows (RowSink.putRows sink' rows) := by
    rw [KeepsRows.rows_putRows, KeepsRows.rows_putRows, h, List.append_assoc]
  obtain ⟨ends, next⟩ := (like ρ sound).perform puts sound op p c.emptied h.onward
  exact ⟨ends.eq, next⟩

theorem repeats_perform (op : Operation) (h : p.Beside I limits sources q) :
    t.Repeats ⟨p, op⟩ ⟨q, op⟩ ∧ (t.perform op p).2.Beside I limits sources (t.perform op q).2 := by
  obtain ⟨ρ, ρ', c, sound, sound', hp, hq⟩ := h
  obtain ⟨ends, next⟩ := follows_perform like sound op hp
  obtain ⟨ends', next'⟩ := follows_perform like sound' op hq
  exact ⟨⟨rfl, ends.trans ends'.symm, ⟨_, next.sink, next'.sink⟩, ⟨_, next.world.log, next'.world.log⟩,
      (this?_of_follows next.lifecycle).trans (this?_of_follows next'.lifecycle).symm⟩,
    ρ, ρ', _, sound, sound', next.onward, next'.onward⟩

theorem repeats_steps (ops : List Operation) (h : p.Beside I limits sources q) :
    List.Forall₂ t.Repeats (t.steps ops p) (t.steps ops q) := by
  induction ops generalizing p q with
  | nil => exact .nil
  | cons op rest ih =>
    obtain ⟨hrepeats, hnext⟩ := repeats_perform like op h
    exact .cons hrepeats (ih hnext)

/-- The load of a transformer that is not ready does what the load of a new one does, and if it
succeeds, the two are beside each other. -/
theorem repeats_load (idle : ¬ p.lifecycle.isReady) (w : World (Thread σ)) (sink : κ) :
    t.Repeats ⟨p, .load⟩ ⟨.new w sink, .load⟩ ∧
      ((t.load p).1.isOk → (t.load p).2.Beside I limits sources (t.load (.new w sink)).2) := by
  obtain ⟨⟨life, v⟩, own⟩ := p
  obtain ⟨o, v', next?, hnext, ends⟩ := t.load_idle v own
  have unloaded : t.load ⟨⟨.unloaded, v⟩, own⟩ = _ := ends .unloaded Bool.false_ne_true
  -- a transformer that was never loaded, in the same world, is beside the new one
  obtain ⟨⟨-, outcome, rows, log, this⟩, beside⟩ :=
    repeats_perform like .load (Pipeline.beside_new I limits sources v w own sink)
  simp only [Pipeline.new, perform_load, unloaded] at outcome rows log this beside
  have same : (next?.getD life).this? = (next?.getD .unloaded).this? := by
    cases next? with
    | some next => rfl
    | none => exact @Lifecycle.this?_of_idle _ life idle
  have loaded : t.load ⟨⟨life, v⟩, own⟩ = _ := ends life idle
  refine ⟨⟨rfl, ?_, ?_, ?_, ?_⟩, fun succeeds => ?_⟩ <;> simp only [perform_load, loaded]
  · exact outcome
  · exact rows
  · exact log
  · exact (congrArg _ same).trans this
  · obtain ⟨next, rfl⟩ : ∃ next, next? = some next := by
      rw [loaded, hnext] at succeeds
      exact Option.isSome_iff_exists.mp succeeds
    exact beside

end Transformer

end Runs

/-! ### The statements outside the functions -/

theorem Outcome.eq_of_map {ε α : Type} {a : α} {o o' : Outcome ε Unit}
    (h : o.map (fun _ => a) = o'.map fun _ => a) : o = o' := by
  cases o <;> cases o' <;> simp_all [Outcome.map]

/-- The heap with a count beside what the interpreter knows. -/
def Heap.counted (count : Nat) (h : Heap σ) : Heap (σ × Nat) := { h with engine := (h.engine, count) }

def Heap.uncounted (h : Heap (σ × Nat)) : Heap σ := { h with engine := h.engine.1 }

/-- The interpreter that counts how often the statements outside the functions are run. -/
def Interpreter.counting (I : Interpreter σ α) : Interpreter (σ × Nat) α where
  clock s := I.clock s.1
  compile limits source := (I.compile limits source).zoom Prod.fst fun outside s => (outside, s.2)
  functions := I.functions
  runTop limits watch script := fun h =>
    let (o, after) := I.runTop limits watch script h.uncounted
    (o, after.counted (h.engine.2 + 1))
  callFunction limits watch script name args := fun (h, this) =>
    let (o, after, handle) := I.callFunction limits watch script name args (h.uncounted, this)
    (o, after.counted h.engine.2, handle)

/-- The state with a count that begins at the number of instances made. -/
def Pipeline.counted {τ : Type} (p : Pipeline (Thread σ) (LiveScript α) τ) :
    Pipeline (Thread (σ × Nat)) (LiveScript α) τ :=
  let engine : Thread (σ × Nat) :=
    ⟨p.world.engine.deadline, p.world.engine.outside, p.world.instances⟩
  ⟨⟨p.lifecycle, { p.world with engine }⟩, p.sink⟩

/-- The run that is counted and the one that is not: the count is that of the instances, and between two
steps there stands the same deadline in both threads. -/
def Interpreter.tally (_ : Interpreter σ α) (deadline : Option Nat) : Likeness (Thread (σ × Nat))
    (CompiledScript α) (LiveScript α) (Thread σ) (CompiledScript α) (LiveScript α) where
  state made t t' := t = ⟨deadline, t'.outside, made⟩ ∧ t'.deadline = deadline
  unit := Eq
  inst := Eq
  access := Eq
  place := .still

namespace Interpreter

variable (I : Interpreter σ α) (deadline : Option Nat)

theorem topFrom_counting (limits : Limits) (script : α) (count : Nat) (h : Heap σ) :
    I.counting.topFrom limits script (h.counted count) =
      ((I.topFrom limits script h).1, (I.topFrom limits script h).2.counted (count + 1)) := rfl

theorem callFrom_counting (limits : Limits) (script : α) (name : String) (args : List Script.Datum)
    (count : Nat) (h : Heap σ) (this : Script.Datum) :
    I.counting.callFrom limits script name args (h.counted count, this) =
      ((I.callFrom limits script name args (h, this)).1,
        (I.callFrom limits script name args (h, this)).2.1.counted count,
        (I.callFrom limits script name args (h, this)).2.2) := rfl

variable {I deadline}

theorem scene_of_tally {made : Nat} {s : Scene (Thread (σ × Nat))} {s' : Scene (Thread σ)}
    (h : s.Like (I.tally deadline) made s') :
    s = { s' with engine := ⟨deadline, s'.engine.outside, made⟩ } ∧ s'.engine.deadline = deadline := by
  obtain ⟨engine, collectors, log⟩ := s
  obtain ⟨⟨hengine, hdeadline⟩, hcollectors, hlog⟩ := h
  simp only at hengine hcollectors hlog
  rw [hengine, hcollectors, hlog]
  exact ⟨rfl, hdeadline⟩

variable (I deadline)

/-- Beside the count everything goes as without it, and it is the runs of the statements outside the
functions that make an instance which are counted. -/
theorem counting_like (limits : Limits) (example? : Kind → Option String) (sources : String → Prop) :
    (I.counting.engine limits example?).Like (I.tally deadline) sources
      (I.engine limits example?) where
  compiled := by
    intro source made _ s s' hs
    obtain ⟨rfl, hdeadline⟩ := scene_of_tally hs
    rcases read : I.compile limits source s'.engine.outside with ⟨o, outside⟩
    simp only [engine, counting, Attempt.zoom, read]
    refine ⟨?_, ⟨rfl, hdeadline⟩, rfl, rfl⟩
    cases o with
    | ok script => exact .ok rfl
    | error e => exact .error _
    | aborted => exact .aborted
  defines := by
    rintro unit _ rfl
    rfl
  made := by
    rintro u _ made s s' rfl hs
    obtain ⟨rfl, hdeadline⟩ := scene_of_tally hs
    have heap : Scene.heap { s' with engine := (⟨deadline, s'.engine.outside, made⟩ : Thread (σ × Nat)) } #[] =
        (s'.heap #[]).counted made := rfl
    rcases ran : I.topFrom u.limits u.script (s'.heap #[]) with ⟨o, h⟩
    simp only [engine, makeInstance, visitTop_eq, disarm_scene, heap, topFrom_counting, ran]
    refine ⟨?_, ⟨rfl, hdeadline⟩, rfl, rfl⟩
    cases o with
    | ok _ => exact .ok rfl
    | error halt => exact .error _
    | aborted => exact .aborted
  ran := by
    rintro access _ i _ made s s' entry args rfl rfl hs
    obtain ⟨rfl, hdeadline⟩ := scene_of_tally hs
    have heap : Scene.heap { s' with engine := (⟨deadline, s'.engine.outside, made⟩ : Thread (σ × Nat)) }
        i.cells = (s'.heap i.cells).counted made := rfl
    have still : move (I.tally deadline).place args = args := move_still args
    rcases ran : I.callFrom i.compiled.limits i.compiled.script entry.name (args.map Script.argDatum)
      (s'.heap i.cells, i.receiver) with ⟨o, h, handle⟩
    simp only [still, engine, runEntry, visit_eq, disarm_scene, heap, callFrom_counting, ran]
    exact ⟨rfl, rfl, ⟨rfl, hdeadline⟩, rfl, rfl⟩

end Interpreter

namespace Transformer

variable {υ ι τ : Type}

/-- The instances that an operation makes: none but for loads, which make one if they succeed and no
more if they fail. -/
structure MakesOnce [RowSink τ] (t : Transformer σ υ ι) (s : Step σ ι τ) : Prop where
  loaded : s.op = .load → (t.perform s.op s.before).1.isOk →
    (t.perform s.op s.before).2.world.instances = s.before.world.instances + 1
  most : (t.perform s.op s.before).2.world.instances ≤ s.before.world.instances + 1
  other : s.op ≠ .load →
    (t.perform s.op s.before).2.world.instances = s.before.world.instances

theorem makesOnce_perform [RowSink τ] (t : Transformer σ υ ι) (op : Operation) {p : Pipeline σ ι τ}
    (suits : t.Suits p.lifecycle) : t.MakesOnce ⟨p, op⟩ := by
  by_cases hbegins : t.begins ⟨p, op⟩
  · obtain ⟨rfl, -, source, es, r, w', -, hl, hrun⟩ := t.perform_begins hbegins
    have after : (t.perform .load p).2.world = w' := by
      rw [hrun]
      exact Host.world_loadEnd p.lifecycle w' r
    refine ⟨fun _ succeeds => ?_, ?_, fun h => absurd rfl h⟩
    · show (t.perform .load p).2.world.instances = p.world.instances + 1
      rw [after]
      rw [hrun] at succeeds
      rcases r with ⟨entries, gate⟩ | e | _
      · exact hl.number.2
      · cases succeeds
      · cases succeeds
    · show (t.perform .load p).2.world.instances ≤ p.world.instances + 1
      rw [after]
      rcases hl.noted.2 with ⟨-, hnone⟩ | ⟨-, hone⟩ <;> omega
  · obtain ⟨es, -, -, kept, -⟩ := t.perform_continues hbegins suits
    refine ⟨fun hop succeeds => ?_, kept.le.trans (Nat.le_succ _), fun _ => kept⟩
    obtain rfl : op = .load := hop
    rw [perform_load, Outcome.isOk_map] at succeeds
    exact absurd (t.begins_of_isOk succeeds) hbegins

theorem makesOnce_steps [RowSink τ] (t : Transformer σ υ ι) (ops : List Operation) {p : Pipeline σ ι τ}
    (suits : t.Suits p.lifecycle) : ∀ s ∈ t.steps ops p, t.MakesOnce s :=
  fun s hs => t.makesOnce_perform s.op (t.suits_steps ops suits s hs)

/-- One operation with and without the count of the runs of the statements outside the functions. -/
structure Counts [RowSink τ] (t : Transformer (Thread σ) (CompiledScript α) (LiveScript α))
    (t' : Transformer (Thread (σ × Nat)) (CompiledScript α) (LiveScript α))
    (a : Step (Thread σ) (LiveScript α) τ) (b : Step (Thread (σ × Nat)) (LiveScript α) τ) : Prop where
  op : b.op = a.op
  outcome : (t'.perform b.op b.before).1 = (t.perform a.op a.before).1
  sink : (t'.perform b.op b.before).2.sink = (t.perform a.op a.before).2.sink
  log : (t'.perform b.op b.before).2.world.log = (t.perform a.op a.before).2.world.log
  this : (t'.perform b.op b.before).2.lifecycle.this? = (t.perform a.op a.before).2.lifecycle.this?
  /-- The runs of the statements are as many as the instances. -/
  count : (t'.perform b.op b.before).2.world.engine.outside.2 =
    (t.perform a.op a.before).2.world.instances
  /-- In the thread there stands what stood there before as a deadline. -/
  deadline : (t.perform a.op a.before).2.world.engine.deadline = a.before.world.engine.deadline

theorem this?_of_tally {I : Interpreter σ α} {deadline : Option Nat}
    {life life' : Lifecycle (LiveScript α)} (h : life.Like (I.tally deadline) life') :
    life.this? = life'.this? := by
  cases h with
  | unloaded => rfl
  | closed => rfl
  | ready gate => rw [Lifecycle.this?, Lifecycle.this?, gate.inst]

section Counts

variable [RowSink τ] (I : Interpreter σ α) (limits : Limits) (example? : Kind → Option String)
  (config : TransformerConfig) {deadline : Option Nat}

theorem counting_like :
    Transformer.Like (I.tally deadline) ⟨I.counting.engine limits example?, config⟩
      ⟨I.engine limits example?, config⟩ := by
  refine ⟨I.counting_like deadline limits example? _, rfl, rfl, config.variant.withConcurrent_own, ?_, rfl⟩
  obtain ⟨inputs, code, variant⟩ := config
  cases variant <;> rfl

theorem counts_perform (op : Operation) {p : Pipeline (Thread σ) (LiveScript α) τ}
    {p' : Pipeline (Thread (σ × Nat)) (LiveScript α) τ} (h : p'.Like (I.tally deadline) {} Eq p) :
    let t : Transformer (Thread σ) (CompiledScript α) (LiveScript α) :=
      ⟨I.engine limits example?, config⟩
    let t' : Transformer (Thread (σ × Nat)) (CompiledScript α) (LiveScript α) :=
      ⟨I.counting.engine limits example?, config⟩
    t.Counts t' ⟨p, op⟩ ⟨p', op⟩ ∧
      (t'.perform op p').2.Like (I.tally deadline) {} Eq (t.perform op p).2 := by
  intro t t'
  obtain ⟨ends, next⟩ := (counting_like I limits example? config).perform
    (fun sink sink' rows h => h ▸ rfl) Relocation.sound_still op p' p h
  obtain ⟨counted, after⟩ := next.world.engine
  exact ⟨⟨rfl, ends.eq, next.sink, next.world.log.trans Array.empty_append,
    this?_of_tally next.lifecycle, congrArg (·.outside.2) counted, after.trans h.world.engine.2.symm⟩, next⟩

theorem counts_steps (ops : List Operation) {p : Pipeline (Thread σ) (LiveScript α) τ}
    {p' : Pipeline (Thread (σ × Nat)) (LiveScript α) τ} (h : p'.Like (I.tally deadline) {} Eq p) :
    let t : Transformer (Thread σ) (CompiledScript α) (LiveScript α) :=
      ⟨I.engine limits example?, config⟩
    let t' : Transformer (Thread (σ × Nat)) (CompiledScript α) (LiveScript α) :=
      ⟨I.counting.engine limits example?, config⟩
    List.Forall₂ (t.Counts t') (t.steps ops p) (t'.steps ops p') := by
  intro t t'
  induction ops generalizing p p' with
  | nil => exact .nil
  | cons op rest ih =>
    obtain ⟨counts, next⟩ := counts_perform I limits example? config op h
    exact .cons counts (ih next)

omit [RowSink τ] in
theorem counted_like {p : Pipeline (Thread σ) (LiveScript α) τ} (idle : ¬ p.lifecycle.isReady) :
    p.counted.Like (I.tally p.world.engine.deadline) {} Eq p := by
  refine ⟨⟨?_, ⟨rfl, rfl⟩, rfl, Array.empty_append.symm, (Nat.zero_add _).symm⟩, rfl⟩
  obtain ⟨⟨life, w⟩, sink⟩ := p
  cases life with
  | unloaded => exact .unloaded
  | closed => exact .closed
  | ready _ _ => exact absurd rfl idle

end Counts

/-! ### A transformer that is loaded again -/

theorem like_self {I : Interpreter σ α} {limits : Limits} {example? : Kind → Option String}
    {config : TransformerConfig} {ρ : Relocation} (moves : I.Moves ρ)
    (deterministic : ∀ source, config.source example? = .ok source → I.Deterministic limits source) :
    let t : Transformer (Thread σ) (CompiledScript α) (LiveScript α) :=
      ⟨I.engine limits example?, config⟩
    t.Like (I.likeness (fun _ _ => True) ρ limits (config.source example? = .ok ·)) t :=
  ⟨Interpreter.like_engine moves deterministic example?, rfl, rfl, config.variant.withConcurrent_own,
    .inl rfl, .inl rfl⟩

/-- **Nothing of its past shows in a transformer that is loaded again.** Let the script be deterministic,
on the engine of an interpreter whose scripts only pass on the handles of collectors. Whatever a
transformer and others on its engine have done before, as long as it is not ready: its load ends like the
load of a new one with the same configuration, and if it succeeds, all later operations end alike, put the
same rows behind those that are in the sink, and log the same. The load begins with an empty `this`. Only
loads make instances, and the statements outside the functions run once for each instance and never in
a call. -/
theorem renewed_alike {τ κ : Type} [KeepsRows τ] [KeepsRows κ] (I : Interpreter σ α)
    (passes : I.PassesHandles) (limits : Limits) (example? : Kind → Option String)
    (config : TransformerConfig)
    (deterministic : ∀ source, config.source example? = .ok source → I.Deterministic limits source)
    {p : Pipeline (Thread σ) (LiveScript α) τ} (idle : ¬ p.lifecycle.isReady) (w : World (Thread σ))
    (sink : κ) :
    let t : Transformer (Thread σ) (CompiledScript α) (LiveScript α) :=
      ⟨I.engine limits example?, config⟩
    let counting : Transformer (Thread (σ × Nat)) (CompiledScript α) (LiveScript α) :=
      ⟨I.counting.engine limits example?, config⟩
    let q : Pipeline (Thread σ) (LiveScript α) κ := .new w sink
    (t.load p).1 = (t.load q).1 ∧ t.Repeats ⟨p, .load⟩ ⟨q, .load⟩ ∧
    ((t.load p).1.isOk → ∀ ops,
      List.Forall₂ t.Repeats (t.steps ops (t.load p).2) (t.steps ops (t.load q).2)) ∧
    Carries I t p .load (t.perform .load p).1 (t.perform .load p).2.lifecycle ∧
    (∀ ops, ∀ s ∈ t.steps ops p, t.MakesOnce s) ∧
    ∀ ops, List.Forall₂ (t.Counts counting) (t.steps ops p) (counting.steps ops p.counted) := by
  intro t counting q
  have like (ρ : Relocation) (sound : ρ.Sound) :
      t.Like (I.likeness (fun _ _ => True) ρ limits (config.source example? = .ok ·)) t :=
    like_self (passes ρ sound) deterministic
  have unloaded (entries : EntryPoints) (gate : Gate (LiveScript α))
      (h : p.lifecycle = .ready entries gate) : False := idle (by rw [h]; rfl)
  obtain ⟨load, later⟩ := repeats_load like idle w sink
  refine ⟨?_, load, fun succeeds ops => repeats_steps like ops (later succeeds),
    carries_load t.host_engine idle,
    fun ops => t.makesOnce_steps ops fun entries gate h => (unloaded entries gate h).elim,
    fun ops => counts_steps I limits example? config ops (counted_like I idle)⟩
  have outcome := load.outcome
  simp only [perform_load] at outcome
  exact Outcome.eq_of_map outcome

theorem loads_example_on {τ : Type} {inputs : List InputColumn} (variant : Variant)
    (hinputs : inputs ≠ []) (hnames : ∀ c ∈ inputs, c.name ≠ "")
    {p : Pipeline (Thread Nat) ScriptInstance τ} (idle : ¬ p.lifecycle.isReady) :
    ((⟨Script.interpreter.engine {} (some ∘ exampleScript), ⟨inputs, none, variant⟩⟩ :
      Transformer (Thread Nat) ScriptUnit ScriptInstance).load p).1 = .ok () := by
  let t : Transformer (Thread Nat) ScriptUnit ScriptInstance :=
    ⟨Script.interpreter.engine {} (some ∘ exampleScript), ⟨inputs, none, variant⟩⟩
  let L := Script.interpreter.likeness (fun _ _ => True) .still {}
    (t.config.source t.engine.example? = .ok ·)
  have engine : t.engine.Like L.resting (t.config.source t.engine.example? = .ok ·)
      (exampleTransformer inputs variant).engine :=
    (Interpreter.like_engine Script.interpreter.moves_still
      (fun source _ => Script.deterministic_interpreter {} source) _).resting (fun _ _ _ => trivial) _
  have like : t.Like L.resting (exampleTransformer inputs variant) :=
    ⟨engine, rfl, rfl, variant.withConcurrent_own, .inl (by cases variant <;> rfl), .inl rfl⟩
  let p' : Pipeline Unit ScriptInstance τ :=
    ⟨⟨p.lifecycle, { engine := (), collectors := p.world.collectors }⟩, p.sink⟩
  have lifecycle : p.lifecycle.Like L.resting p'.lifecycle := by
    show p.lifecycle.Like L.resting p.lifecycle
    cases hlife : p.lifecycle with
    | unloaded => exact .unloaded
    | closed => exact .closed
    | ready _ _ => exact absurd (by rw [hlife]; rfl) idle
  have start : p.Like L.resting ⟨p.world.log, p.world.instances⟩ Eq p' :=
    ⟨⟨lifecycle, trivial, rfl, Array.append_empty.symm, rfl⟩, rfl⟩
  exact (like.load p p' start).1.eq.trans (loads_settled hinputs hnames (p := p') idle).1

/-- A closed transformer, with a row in its sink and another one left in a collector, on a thread in which
a deadline has been left, beside a new one on another thread: both can be loaded. -/
theorem renewed_closed :
    let I := Script.interpreter
    let config : TransformerConfig := ⟨[⟨"age", .integer⟩], none, .standard false⟩
    let t : Transformer (Thread Nat) ScriptUnit ScriptInstance :=
      ⟨I.engine {} (some ∘ exampleScript), config⟩
    let w : World (Thread Nat) :=
      { engine := { deadline := some 20, outside := 50 }, collectors := ⟨#[#[[.int 36]]]⟩, instances := 1 }
    let p : Pipeline (Thread Nat) ScriptInstance RowBuffer := ⟨⟨.closed, w⟩, ⟨[[some "36"]]⟩⟩
    let q : Pipeline (Thread Nat) ScriptInstance RowList := .new { engine := { outside := 0 } } .empty
    I.PassesHandles ∧ (∀ source, I.Deterministic {} source) ∧ ¬ p.lifecycle.isReady ∧
      (t.load p).1 = .ok () ∧
      ∀ ops, List.Forall₂ t.Repeats (t.steps ops (t.load p).2) (t.steps ops (t.load q).2) := by
  intro I config t w p q
  have idle : ¬ p.lifecycle.isReady := Bool.false_ne_true
  have loads : (t.load p).1 = .ok () := loads_example_on (.standard false) (by decide) (by decide) idle
  have renewed := renewed_alike I Script.passesHandles_interpreter {} (some ∘ exampleScript) config
    (fun source _ => Script.deterministic_interpreter {} source) idle { engine := { outside := 0 } }
    RowList.empty
  exact ⟨Script.passesHandles_interpreter, Script.deterministic_interpreter {}, idle, loads,
    renewed.2.2.1 (congrArg Outcome.isOk loads)⟩

end Transformer

end RowScript
