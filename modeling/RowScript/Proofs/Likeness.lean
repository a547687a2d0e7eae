import RowScript.Proofs.Handles
import RowScript.Proofs.Lifetimes
import RowScript.Proofs.Simulation

/-!
# Transformers on engines that go alike

What two engines have to do with each other is told at their own border: a `Likeness` relates their states,
their units, their instances and the ways in which callers come in, and says where the collectors of the
one are in the other. If the three steps of the engines keep it (`Engine.Like`), then so does all that
hosts and transformers make of them, with one lemma for each of their functions: from like states an
operation ends alike on both, logs the same behind what was logged before, and puts the same rows into
the sinks (`Transformer.Like.perform`).

The transformers may differ in the flag for concurrent callers, if the likeness relates the accesses
that the flag decides on.
-/

namespace RowScript

/-! ### What a relocation moves -/

instance : Movable Arg where
  move ρ
    | .values m => .values m
    | .collector h => .collector (ρ.handle h)

instance : Movable (List Arg) := ⟨fun ρ => List.map (move ρ)⟩

theorem move_still (args : List Arg) : move .still args = args := by
  have arg : (move .still : Arg → Arg) = id := funext fun a => by cases a <;> rfl
  show args.map (move .still) = args
  rw [arg, List.map_id]

/-! ### Like engines -/

/-- By what the runs of two engines are compared. -/
structure Likeness (σ υ ι σ' υ' ι' : Type) where
  /-- The states of the engines, when the second one has made so many instances. -/
  state : Nat → σ → σ' → Prop
  unit : υ → υ' → Prop
  inst : ι → ι' → Prop
  access : Access → Access → Prop
  /-- The collectors of the second engine, as the first one has them. -/
  place : Relocation

/-- What was there before a run. -/
structure Past where
  log : Array LogEvent := #[]
  instances : Nat := 0

section Likeness

open Attempt

variable {σ υ ι σ' υ' ι' : Type} (L : Likeness σ υ ι σ' υ' ι') (past : Past)

/-- What steps of two engines find and leave. -/
structure Scene.Like (made : Nat) (s : Scene σ) (s' : Scene σ') : Prop where
  engine : L.state made s.engine s'.engine
  collectors : s.collectors = L.place.collectors s'.collectors
  log : s.log = s'.log

/-- Two calls end alike. -/
structure Likeness.Calls (made : Nat) (x : Outcome ScriptError Value × ι × Scene σ)
    (y : Outcome ScriptError Value × ι' × Scene σ') : Prop where
  outcome : x.1 = y.1
  inst : L.inst x.2.1 y.2.1
  scene : x.2.2.Like L made y.2.2

/-- Engines whose steps go alike, for the sources in a set. -/
structure Engine.Like (sources : String → Prop) (E : Engine σ υ ι) (E' : Engine σ' υ' ι') : Prop where
  compiled : ∀ {source} made, sources source →
    Sim (Scene.Like L made) L.unit (E.compileUnit source) (E'.compileUnit source)
  defines : ∀ {unit unit'}, L.unit unit unit' → E.defines unit = E'.defines unit'
  made : ∀ {unit unit' made s s'}, L.unit unit unit' → s.Like L made s' →
    Outcome.Sim L.inst (E.makeInstance unit s).1 (E'.makeInstance unit' s').1 ∧
      (E.makeInstance unit s).2.Like L (made + 1) (E'.makeInstance unit' s').2
  ran : ∀ {access access' inst inst' made s s'} entry args, L.access access access' →
    L.inst inst inst' → s.Like L made s' →
      L.Calls made (E.runEntry access entry (move L.place args) inst s)
        (E'.runEntry access' entry args inst' s')

/-- Worlds that steps of the engines find alike. What was noted in them does not count. -/
structure World.Like (w : World σ) (w' : World σ') : Prop where
  engine : L.state w'.instances w.engine w'.engine
  collectors : w.collectors = L.place.collectors w'.collectors
  log : w.log = past.log ++ w'.log
  instances : w.instances = past.instances + w'.instances

structure Gate.Like (g : Gate ι) (g' : Gate ι') : Prop where
  inst : L.inst g.inst.state g'.inst.state
  access : L.access g.policy.access g'.policy.access

inductive Lifecycle.Like : Lifecycle ι → Lifecycle ι' → Prop
  | unloaded : Like .unloaded .unloaded
  | closed : Like .closed .closed
  | ready {entries g g'} (gate : g.Like L g') : Like (.ready entries g) (.ready entries g')

structure Hosted.Like (s : Hosted σ ι) (s' : Hosted σ' ι') : Prop where
  lifecycle : s.lifecycle.Like L s'.lifecycle
  world : s.world.Like L past s'.world

structure Pipeline.Like {τ κ : Type} (sinks : τ → κ → Prop) (p : Pipeline σ ι τ)
    (p' : Pipeline σ' ι' κ) : Prop extends Hosted.Like L past p.toHosted p'.toHosted where
  sink : sinks p.sink p'.sink

variable {L past}

namespace World.Like

variable {w : World σ} {w' : World σ'}

theorem scene (h : w.Like L past w') : w.scene.Like L w'.instances w'.scene :=
  ⟨h.engine, h.collectors, rfl⟩

theorem absorb (h : w.Like L past w') (e e' : EngineEvent) {s : Scene σ} {s' : Scene σ'}
    (hs : s.Like L w'.instances s') : ((w.note e).absorb s).Like L past ((w'.note e').absorb s') where
  engine := hs.engine
  collectors := hs.collectors
  log := by
    show w.log ++ s.log = past.log ++ (w'.log ++ s'.log)
    rw [h.log, hs.log, Array.append_assoc]
  instances := h.instances

theorem logAll (h : w.Like L past w') (es : List LogEvent) :
    (w.logAll es).Like L past (w'.logAll es) where
  engine := h.engine
  collectors := h.collectors
  log := Array.toList_inj.mp (by simp [World.logAll, h.log])
  instances := h.instances

end World.Like

theorem Lifecycle.Like.isReady_eq {life : Lifecycle ι} {life' : Lifecycle ι'} (h : life.Like L life') :
    life.isReady = life'.isReady := by
  cases h <;> rfl

/-! ### Steps of like engines -/

namespace Engine.Like

variable {sources : String → Prop} {E : Engine σ υ ι} {E' : Engine σ' υ' ι'}
  (like : E.Like L sources E')
include like

theorem compile {source : String} (h : sources source) :
    Sim (World.Like L past) L.unit (E.compile source) (E'.compile source) := by
  intro w w' hw
  obtain ⟨ho, hscene⟩ := like.compiled _ h _ _ hw.scene
  exact ⟨ho, hw.absorb _ _ hscene⟩

theorem instantiate {unit : υ} {unit' : υ'} (h : L.unit unit unit') :
    Sim (World.Like L past) (fun inst inst' => L.inst inst.state inst'.state) (E.instantiate unit)
      (E'.instantiate unit') := by
  intro w w' hw
  obtain ⟨ho, hscene⟩ := like.made h hw.scene
  refine ⟨?_, hscene.engine, hscene.collectors, ?_, ?_⟩
  · show Outcome.Sim _ ((E.makeInstance unit w.scene).1.map _) ((E'.makeInstance unit' w'.scene).1.map _)
    generalize (E.makeInstance unit w.scene).1 = o, (E'.makeInstance unit' w'.scene).1 = o' at ho
    cases ho with
    | ok h => exact .ok h
    | error e => exact .error e
    | aborted => exact .aborted
  · show w.log ++ (E.makeInstance unit w.scene).2.log =
      past.log ++ (w'.log ++ (E'.makeInstance unit' w'.scene).2.log)
    rw [hw.log, hscene.log, Array.append_assoc]
  · show w.instances + 1 = past.instances + (w'.instances + 1)
    rw [hw.instances, Nat.add_assoc]

theorem enter {g : Gate ι} {g' : Gate ι'} (hg : g.Like L g') {w : World σ} {w' : World σ'}
    (hw : w.Like L past w') {access access' : Access} (h : L.access access access')
    (entry : EntryPoint) (args : List Arg) :
    (g.enter E access entry (move L.place args) w).1 = (g'.enter E' access' entry args w').1 ∧
      (g.enter E access entry (move L.place args) w).2.1.Like L
        (g'.enter E' access' entry args w').2.1 ∧
      (g.enter E access entry (move L.place args) w).2.2.Like L past
        (g'.enter E' access' entry args w').2.2 := by
  obtain ⟨ho, hinst, hscene⟩ := like.ran entry args h hg.inst hw.scene
  exact ⟨ho, ⟨hinst, hg.access⟩, hw.absorb _ _ hscene⟩

end Engine.Like

/-! ### Hosts on like engines -/

/-- Hosts of like engines that ask for the same. -/
structure Host.Like (L : Likeness σ υ ι σ' υ' ι') (sources : String → Prop) (h : Host σ υ ι)
    (h' : Host σ' υ' ι') : Prop where
  engine : h.engine.Like L sources h'.engine
  entry : h.entry = h'.entry
  hooks : h.hooks = h'.hooks
  access : L.access h.policy.access h'.policy.access
  /-- Hooks are called alone. -/
  alone : L.access .exclusive .exclusive

namespace Host.Like

variable {sources : String → Prop} {h : Host σ υ ι} {h' : Host σ' υ' ι'} (like : h.Like L sources h')
include like

theorem runHook (hook : Option EntryPoint) {g : Gate ι} {g' : Gate ι'} (hg : g.Like L g')
    {w : World σ} {w' : World σ'} (hw : w.Like L past w') :
    (h.runHook hook g w).1 = (h'.runHook hook g' w').1 ∧
      (h.runHook hook g w).2.1.Like L (h'.runHook hook g' w').2.1 ∧
      (h.runHook hook g w).2.2.Like L past (h'.runHook hook g' w').2.2 := by
  cases hook with
  | none => exact ⟨rfl, hg, hw⟩
  | some entry =>
    obtain ⟨ho, hgate, hworld⟩ := like.engine.enter hg hw like.alone entry []
    simp only [Host.runHook, like.hooks]
    cases h'.hooks with
    | true => exact ⟨congrArg (·.bind fun _ => .ok ()) ho, hgate, hworld⟩
    | false => exact ⟨rfl, hg, hw⟩

theorem runOpening (entries : EntryPoints) {g : Gate ι} {g' : Gate ι'} (hg : g.Like L g') :
    Sim (World.Like L past) (Gate.Like L) (h.runOpening entries g) (h'.runOpening entries g') := by
  intro w w' hw
  obtain ⟨ho, hgate, hworld⟩ := like.runHook entries.opening hg hw
  refine ⟨?_, hworld⟩
  show Outcome.Sim _ ((h.runHook entries.opening g w).1.bind fun _ => .ok _)
    ((h'.runHook entries.opening g' w').1.bind fun _ => .ok _)
  rw [ho]
  cases (h'.runHook entries.opening g' w').1 with
  | ok _ => exact .ok hgate
  | error e => exact .error e
  | aborted => exact .aborted

theorem start {source : String} (hsource : sources source) :
    Sim (World.Like L past) (fun a b => a.1 = b.1 ∧ a.2.Like L b.2) (h.start source)
      (h'.start source) := by
  refine .bind (like.engine.compile hsource) fun unit unit' hunit => ?_
  rw [like.engine.defines hunit, like.entry]
  refine .bind (.ofOutcome (.of_eq rfl)) ?_
  rintro entries _ rfl
  refine .bind (like.engine.instantiate hunit) fun inst inst' hinst => ?_
  have hg : (⟨h.policy, inst⟩ : Gate ι).Like L ⟨h'.policy, inst'⟩ := ⟨hinst, like.access⟩
  exact .bind (like.runOpening entries hg) fun g g' hgate => .pure ⟨rfl, hgate⟩

theorem load {source : String} (hsource : sources source) :
    Sim (Hosted.Like L past) Eq (h.load source) (h'.load source) := by
  rintro ⟨life, w⟩ ⟨life', w'⟩ ⟨hlife, hw⟩
  obtain ⟨ho, hworld⟩ := like.start hsource w w' hw
  simp only [Host.load, hlife.isReady_eq]
  split
  · exact ⟨.error _, hlife, hw⟩
  · rcases hx : h.start source w with ⟨o, w₁⟩
    rcases hy : h'.start source w' with ⟨o', w₂⟩
    rw [hx, hy] at ho hworld
    cases ho with
    | @ok a b hstart =>
      obtain ⟨entries, gate⟩ := a
      obtain ⟨entries', gate'⟩ := b
      obtain ⟨rfl, hgate⟩ := hstart
      exact ⟨.ok rfl, .ready hgate, hworld⟩
    | error e => exact ⟨.error _, hlife, hworld⟩
    | aborted => exact ⟨.aborted, hlife, hworld⟩

theorem transform (args : List Arg) :
    Sim (Hosted.Like L past) Eq (h.transform (move L.place args)) (h'.transform args) := by
  rintro ⟨life, w⟩ ⟨life', w'⟩ ⟨hlife, hw⟩
  cases hlife with
  | unloaded => exact ⟨.error _, .unloaded, hw⟩
  | closed => exact ⟨.error _, .closed, hw⟩
  | @ready entries g g' hg =>
    obtain ⟨ho, hgate, hworld⟩ := like.engine.enter hg hw hg.access entries.transform args
    exact ⟨.of_eq (congrArg (·.mapError HostError.script) ho), .ready hgate, hworld⟩

theorem close : Sim (Hosted.Like L past) Eq h.close h'.close := by
  rintro ⟨life, w⟩ ⟨life', w'⟩ ⟨hlife, hw⟩
  cases hlife with
  | unloaded => exact ⟨.error _, .unloaded, hw⟩
  | closed => exact ⟨.ok rfl, .closed, hw⟩
  | @ready entries g g' hg =>
    obtain ⟨ho, -, hworld⟩ := like.runHook entries.closing hg hw
    exact ⟨.of_eq (congrArg (·.mapError HostError.script) ho), .closed, hworld⟩

end Host.Like

/-! ### Transformers on like engines -/

/-- The settings with the flag for concurrent callers set; a simple transformer has none. -/
def Variant.withConcurrent (concurrent : Bool) : Variant → Variant
  | simple => simple
  | standard _ => standard concurrent
  | advanced config => advanced { config with concurrent }

/-- The transformer with the flag for concurrent callers set. -/
def Transformer.withConcurrent (concurrent : Bool) (t : Transformer σ υ ι) : Transformer σ υ ι :=
  { t with config := { t.config with variant := t.config.variant.withConcurrent concurrent } }

theorem Variant.withConcurrent_own (v : Variant) :
    ∃ concurrent, v = v.withConcurrent concurrent := by
  cases v with
  | simple => exact ⟨false, rfl⟩
  | standard concurrent => exact ⟨concurrent, rfl⟩
  | advanced config => exact ⟨config.concurrent, rfl⟩

/-- Transformers of like engines that differ in nothing but the flag for concurrent callers. -/
structure Transformer.Like (L : Likeness σ υ ι σ' υ' ι') (t : Transformer σ υ ι)
    (t' : Transformer σ' υ' ι') : Prop where
  engine : t.engine.Like L (t.config.source t.engine.example? = .ok ·) t'.engine
  source : t.config.source t.engine.example? = t'.config.source t'.engine.example?
  inputs : t.config.inputs = t'.config.inputs
  variant : ∃ concurrent, t.config.variant = t'.config.variant.withConcurrent concurrent
  access : L.access t.host.policy.access t'.host.policy.access
  alone : L.access .exclusive .exclusive

namespace Transformer.Like

variable {τ κ : Type} {sinks : τ → κ → Prop} {t : Transformer σ υ ι} {t' : Transformer σ' υ' ι'}

theorem host (like : t.Like L t') :
    t.host.Like L (t.config.source t.engine.example? = .ok ·) t'.host := by
  have engine : t.host.engine.Like L (t.config.source t.engine.example? = .ok ·) t'.host.engine := by
    rw [t.host_engine, t'.host_engine]
    exact like.engine
  obtain ⟨concurrent, hvariant⟩ := like.variant
  have same : t.host.entry = t'.host.entry ∧ t.host.hooks = t'.host.hooks := by
    unfold Transformer.host
    rw [hvariant]
    cases t'.config.variant <;> exact ⟨rfl, rfl⟩
  exact ⟨engine, same.1, same.2, like.access, like.alone⟩

theorem onHost {ε α : Type} {x : Attempt (Hosted σ ι) ε α} {y : Attempt (Hosted σ' ι') ε α}
    (h : Sim (Hosted.Like L past) Eq x y) :
    Sim (Pipeline.Like L past sinks) Eq (Pipeline.onHost x) (Pipeline.onHost y) := by
  rintro ⟨s, sink⟩ ⟨s', sink'⟩ ⟨hs, hsink⟩
  obtain ⟨ho, hnext⟩ := h s s' hs
  exact ⟨ho, hnext, hsink⟩

theorem onWorld {ε : Type} {f : World σ → World σ} {g : World σ' → World σ'}
    (h : ∀ w w', w.Like L past w' → (f w).Like L past (g w')) :
    Sim (Pipeline.Like L past sinks) Eq (Pipeline.onWorld f : Attempt (Pipeline σ ι τ) ε Unit)
      (Pipeline.onWorld g) :=
  .update fun _ _ hp => ⟨⟨hp.lifecycle, h _ _ hp.world⟩, hp.sink⟩

/-- The collectors may be exchanged for others that correspond. -/
theorem collectors {ε : Type} {c : Collectors} {c' : Collectors} (h : c = L.place.collectors c') :
    Sim (Pipeline.Like L past sinks) Eq
      (Pipeline.onWorld fun w => { w with collectors := c } : Attempt (Pipeline σ ι τ) ε Unit)
      (Pipeline.onWorld fun w => { w with collectors := c' }) :=
  onWorld fun _ _ hw => ⟨hw.engine, h, hw.log, hw.instances⟩

variable (like : t.Like L t')
include like

theorem load : Sim (Pipeline.Like L past sinks) Eq t.load t'.load := by
  unfold Transformer.load
  rw [← like.source]
  cases hsource : t.config.source t.engine.example? with
  | error fault => exact .ofOutcome (.error _)
  | ok source => exact onHost (like.host.load hsource)

theorem close : Sim (Pipeline.Like L past sinks) Eq t.close t'.close := onHost like.host.close

theorem transformSingle (row : Row) :
    Sim (Pipeline.Like L past sinks) Eq (t.transformSingle row) (t'.transformSingle row) := by
  unfold Transformer.transformSingle
  rw [← like.inputs]
  refine .bind (onHost (like.host.transform [.values _])) ?_
  rintro v _ rfl
  exact .pure rfl

variable [RowSink τ] [RowSink κ]
  (puts : ∀ sink sink' rows, sinks sink sink' →
    sinks (RowSink.putRows sink rows) (RowSink.putRows sink' rows))
  (sound : L.place.Sound)
include puts

omit like in
theorem send (rows : Except HostError (List OutputRow)) :
    Sim (Pipeline.Like L past sinks) Eq (Pipeline.send rows : Attempt (Pipeline σ ι τ) _ _)
      (Pipeline.send rows : Attempt (Pipeline σ' ι' κ) _ _) := by
  cases rows with
  | error e => exact .ofOutcome (.error e)
  | ok rows => exact .update fun _ _ hp => ⟨⟨hp.lifecycle, hp.world⟩, puts _ _ _ hp.sink⟩

include sound

theorem transformCollecting (config : AdvancedConfig) (concurrent : Bool) (row : Row) :
    Sim (Pipeline.Like L past sinks) Eq (t.transformCollecting { config with concurrent } row)
      (t'.transformCollecting config row) := by
  unfold Transformer.transformCollecting
  rw [← like.inputs]
  refine .bind .read fun p p' hp => ?_
  rw [hp.world.collectors, sound.fresh]
  refine .bind (collectors rfl) fun _ _ _ => ?_
  -- the handle of the record is the moved one
  refine .bind (onHost (like.host.transform [.values _, .collector _])) ?_
  rintro returned _ rfl
  refine .bind .read fun p p' hp => ?_
  rw [hp.world.collectors, sound.take]
  refine .bind (collectors rfl) fun _ _ _ => ?_
  exact .bind (onWorld fun w w' hw => hw.logAll _) fun _ _ _ => send puts _

theorem transform (row : Row) :
    Sim (Pipeline.Like L past sinks) Eq (t.transform row) (t'.transform row) := by
  have single : Sim (Pipeline.Like L past sinks) Eq (t.transformSingle row) (t'.transformSingle row) :=
    like.transformSingle row
  have collecting (config : AdvancedConfig) (concurrent : Bool) :
      Sim (Pipeline.Like L past sinks) Eq (t.transformCollecting { config with concurrent } row)
        (t'.transformCollecting config row) :=
    like.transformCollecting puts sound config concurrent row
  obtain ⟨concurrent, hvariant⟩ := like.variant
  simp only [Transformer.transform, hvariant]
  cases t'.config.variant with
  | simple =>
    refine .bind single ?_
    rintro row _ rfl
    exact .pure rfl
  | standard flag =>
    refine .bind single ?_
    rintro row _ rfl
    exact .pure rfl
  | advanced config => exact .bind (collecting config concurrent) fun _ _ _ => .pure rfl

/-- An operation ends alike in like states and leaves like states. -/
theorem perform (op : Operation) :
    Sim (Pipeline.Like L past sinks) Eq (t.perform op) (t'.perform op) := by
  cases op with
  | load => exact .bind like.load fun _ _ _ => .pure rfl
  | transform row => exact like.transform puts sound row
  | close => exact .bind like.close fun _ _ _ => .pure rfl

end Transformer.Like

end Likeness

end RowScript
