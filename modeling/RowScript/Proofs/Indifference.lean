import RowScript.Interpreter
import RowScript.Proofs.Likeness

/-!
# Interpreters whose scripts cannot tell

What is asked of an interpreter here are three facts about its scripts, each apart from hosts and
transformers:

* A function that is called on a shared value leaves the handle of it where it is
  (`Interpreter.KeepsHandles`).
* Scripts pass on the handles of collectors and put rows through them, and see nothing else of them
  (`Interpreter.PassesHandles`).
* The script of a source does not depend on what the interpreter knows besides it, as far as a relation
  tells (`Interpreter.Indifferent`). Equality asks nothing of the script, and the relation that always
  holds asks it to be deterministic.

The engine of such an interpreter is like itself (`Interpreter.like_engine`): its steps go alike on
instances that are moved, in threads that the script does not tell apart, and whatever stands there as a
deadline.
-/

namespace RowScript

open Attempt
open Script (Datum argDatum)

/-! ### What a relocation moves -/

instance : Movable Halt := ⟨fun _ halt => halt⟩

instance : Movable.Fixed Halt := ⟨fun _ _ => rfl⟩

instance {σ : Type} : Movable (Heap σ) :=
  ⟨fun ρ h => { h with collectors := ρ.collectors h.collectors, cells := move ρ h.cells }⟩

instance {α : Type} : Movable (LiveScript α) :=
  ⟨fun ρ i => { i with receiver := move ρ i.receiver, cells := move ρ i.cells }⟩

theorem args_move {ρ : Relocation} (args : List Arg) :
    (move ρ args).map argDatum = move ρ (args.map argDatum) := by
  induction args with
  | nil => rfl
  | cons a rest ih =>
    have head : argDatum (move ρ a) = move ρ (argDatum a) := by cases a <;> rfl
    exact congrArg₂ List.cons head ih

/-! A relocation that moves nothing leaves what a call finds and gives as it is. -/

@[simp] theorem still_datum (d : Datum) : move .still d = d := Script.moved_of_kept (fun _ => rfl) d

@[simp] theorem still_items (ds : List Datum) : move .still ds = ds :=
  Script.movedItems_of_kept (fun _ => rfl) ds

@[simp] theorem still_cells (cells : Array Datum) : move .still cells = cells := by
  show cells.map (move .still) = cells
  rw [funext still_datum, Array.map_id']

@[simp] theorem still_heap {σ : Type} (h : Heap σ) : move .still h = h := by
  show { h with cells := move .still h.cells } = h
  rw [still_cells]

theorem still_called {σ : Type} (r : Outcome Halt Datum × Heap σ × Datum) : move .still r = r := by
  obtain ⟨o, h, d⟩ := r
  cases o <;> simp

namespace LiveScript

variable {α : Type} {ρ : Relocation}

theorem content_move (i : LiveScript α) : (move ρ i).content = move ρ i.content :=
  Script.loadFrom_move i.cells i.receiver

theorem move_still (i : LiveScript α) : move .still i = i := by
  show { i with receiver := move .still i.receiver, cells := move .still i.cells } = i
  rw [still_datum, still_cells]

theorem behind_move (i : LiveScript α) (access : Access) (handle : Datum) (cells : Array Datum) :
    (move ρ i).behind access (move ρ handle) (move ρ cells) = move ρ (i.behind access handle cells) := by
  cases access <;> rfl

/-- The receiver is a cell. -/
def Sound (i : LiveScript α) : Prop := ∃ cell, i.receiver = .cell cell

theorem behind_receiver (i : LiveScript α) (access : Access) (cells : Array Datum) :
    i.behind access i.receiver cells = { i with cells } := by
  cases access <;> rfl

end LiveScript

/-! ### What is asked of an interpreter -/

/-- Two heaps that differ in what the interpreter knows besides its scripts. -/
structure Heap.Apart {σ : Type} (K : σ → σ → Prop) (h h' : Heap σ) : Prop where
  engine : K h.engine h'.engine
  collectors : h.collectors = h'.collectors
  log : h.log = h'.log
  cells : h.cells = h'.cells

namespace Interpreter

variable {σ α : Type}

/-- What a function assigns to a receiver that is shared goes into the shared value. -/
def KeepsHandles (I : Interpreter σ α) : Prop :=
  ∀ limits watch script name args h cell,
    (I.callFunction limits watch script name args (h, .cell cell)).2.2 = .cell cell

theorem KeepsHandles.callFrom {I : Interpreter σ α} (keeps : I.KeepsHandles) {i : LiveScript α}
    (sound : i.Sound) (limits : Limits) (script : α) (name : String) (args : List Datum)
    (h : Heap σ) : (I.callFrom limits script name args (h, i.receiver)).2.2 = i.receiver := by
  obtain ⟨cell, hcell⟩ := sound
  rw [hcell]
  exact keeps limits _ script name args h cell

/-- Runs with moved handles are the runs, moved. -/
structure Moves (I : Interpreter σ α) (ρ : Relocation) : Prop where
  top : ∀ limits watch script h,
    I.runTop limits watch script (move ρ h) = move ρ (I.runTop limits watch script h)
  called : ∀ limits watch script name args h this,
    I.callFunction limits watch script name (move ρ args) (move ρ h, move ρ this) =
      move ρ (I.callFunction limits watch script name args (h, this))

/-- Scripts do not see where the collectors are that handles name. -/
def PassesHandles (I : Interpreter σ α) : Prop := ∀ ρ : Relocation, ρ.Sound → I.Moves ρ

/-- The script that is read from a source. -/
def Reads (I : Interpreter σ α) (limits : Limits) (source : String) (script : α) : Prop :=
  ∃ outside, (I.compile limits source outside).1 = .ok script

/-- Nothing that is related can be told apart by the script of a source. -/
structure Indifferent (I : Interpreter σ α) (K : σ → σ → Prop) (limits : Limits)
    (source : String) : Prop where
  compiled : Sim K Eq (I.compile limits source) (I.compile limits source)
  top : ∀ {script}, I.Reads limits source script →
    Sim (Heap.Apart K) Eq (I.topFrom limits script) (I.topFrom limits script)
  called : ∀ {script}, I.Reads limits source script → ∀ name args,
    Sim (fun x y => x.1.Apart K y.1 ∧ x.2 = y.2) Eq (I.callFrom limits script name args)
      (I.callFrom limits script name args)

/-- A script whose runs do not depend on what the interpreter knows besides it. -/
abbrev Deterministic (I : Interpreter σ α) (limits : Limits) (source : String) : Prop :=
  I.Indifferent (fun _ _ => True) limits source

theorem moves_still (I : Interpreter σ α) : I.Moves .still := by
  refine ⟨fun limits watch script h => ?_, fun limits watch script name args h this => ?_⟩
  · rcases ran : I.runTop limits watch script h with ⟨o, after⟩
    rw [still_heap, ran]
    cases o <;> simp
  · rw [still_items, still_heap, still_datum, still_called]

theorem Moves.topFrom {I : Interpreter σ α} {ρ : Relocation} (moves : I.Moves ρ) (limits : Limits)
    (script : α) (h : Heap σ) :
    I.topFrom limits script (move ρ h) = move ρ (I.topFrom limits script h) :=
  moves.top limits _ script h

theorem Moves.callFrom {I : Interpreter σ α} {ρ : Relocation} (moves : I.Moves ρ) (limits : Limits)
    (script : α) (name : String) (args : List Datum) (h : Heap σ) (this : Datum) :
    I.callFrom limits script name (move ρ args) (move ρ h, move ρ this) =
      move ρ (I.callFrom limits script name args (h, this)) :=
  moves.called limits _ script name args h this

/-! ### The engine of an interpreter -/

/-- The likeness of two runs on the engine of an interpreter: what differs in the threads is such that
the scripts cannot tell, and the collectors have other numbers. -/
def likeness (I : Interpreter σ α) (K : σ → σ → Prop) (place : Relocation) (limits : Limits)
    (sources : String → Prop) : Likeness (Thread σ) (CompiledScript α) (LiveScript α) (Thread σ)
      (CompiledScript α) (LiveScript α) where
  state _ t t' := K t.outside t'.outside
  unit u u' := u = u' ∧ u'.limits = limits ∧ ∃ source, sources source ∧ I.Reads limits source u'.script
  inst i i' := i = move place i' ∧ i'.compiled.limits = limits ∧
    (∃ source, sources source ∧ I.Reads limits source i'.compiled.script) ∧
    (I.KeepsHandles → i'.Sound)
  access access access' := access = access' ∨ I.KeepsHandles
  place := place

section Engines

variable {I : Interpreter σ α} {K : σ → σ → Prop} {ρ : Relocation} {limits : Limits}
  {sources : String → Prop}

theorem heap_like {made : Nat} {s s' : Scene (Thread σ)} (h : s.Like (I.likeness K ρ limits sources) made s')
    (cells : Array Datum) : ∃ between : Heap σ, s.heap (move ρ cells) = move ρ between ∧
      between.Apart K (s'.heap cells) := by
  refine ⟨{ s'.heap cells with engine := s.engine.outside }, ?_, h.engine, rfl, rfl, rfl⟩
  show ({ engine := _, collectors := s.collectors, log := s.log, cells := _ } : Heap σ) = _
  rw [h.collectors, h.log]
  rfl

theorem scene_like {h h' : Heap σ} (apart : h.Apart K h') (made : Nat) (t t' : Thread σ) :
    ((move ρ h).scene t).Like (I.likeness K ρ limits sources) made (h'.scene t') :=
  ⟨apart.engine, congrArg ρ.collectors apart.collectors, apart.log⟩

variable (moves : I.Moves ρ) (indifferent : ∀ source, sources source → I.Indifferent K limits source)
include indifferent

theorem compileUnit_like (example? : Kind → Option String) {source : String} (made : Nat)
    (h : sources source) :
    Sim (Scene.Like (I.likeness K ρ limits sources) made) (I.likeness K ρ limits sources).unit
      ((I.engine limits example?).compileUnit source)
      ((I.engine limits example?).compileUnit source) := by
  intro s s' hs
  obtain ⟨ho, hknown⟩ := (indifferent source h).compiled s.engine.outside s'.engine.outside hs.engine
  rcases hread : I.compile limits source s.engine.outside with ⟨o, after⟩
  rcases hread' : I.compile limits source s'.engine.outside with ⟨o', after'⟩
  rw [hread, hread'] at ho hknown
  simp only [engine, hread, hread']
  refine ⟨?_, hknown, hs.collectors, hs.log⟩
  cases ho with
  | @ok script _ same =>
    subst same
    exact .ok ⟨rfl, rfl, source, h, s.engine.outside, congrArg Prod.fst hread⟩
  | error e => exact .error _
  | aborted => exact .aborted

include moves

theorem topFrom_like {source : String} (hsource : sources source) {script : α}
    (hreads : I.Reads limits source script) {made : Nat} {s s' : Scene (Thread σ)}
    (hs : s.Like (I.likeness K ρ limits sources) made s') :
    ∃ o after after', after.Apart K after' ∧
      I.topFrom limits script (s.heap #[]) = move ρ (o, after) ∧
      I.topFrom limits script (s'.heap #[]) = (o, after') := by
  obtain ⟨between, hheap, apart⟩ := heap_like hs #[]
  rw [show move ρ (#[] : Array Datum) = #[] from Array.map_empty] at hheap
  obtain ⟨ends, left⟩ := (indifferent source hsource).top hreads between (s'.heap #[]) apart
  refine ⟨_, _, _, left, ?_, Prod.ext ends.eq.symm rfl⟩
  rw [hheap, moves.topFrom]

theorem callFrom_like {source : String} (hsource : sources source) {script : α}
    (hreads : I.Reads limits source script) (name : String) (args : List Arg) (cells : Array Datum)
    (receiver : Datum) {made : Nat} {s s' : Scene (Thread σ)}
    (hs : s.Like (I.likeness K ρ limits sources) made s') :
    ∃ o after after' handle, after.Apart K after' ∧
      I.callFrom limits script name ((move ρ args).map argDatum)
        (s.heap (move ρ cells), move ρ receiver) = move ρ (o, after, handle) ∧
      I.callFrom limits script name (args.map argDatum) (s'.heap cells, receiver) =
        (o, after', handle) := by
  obtain ⟨between, hheap, apart⟩ := heap_like hs cells
  obtain ⟨ends, left, same⟩ := (indifferent source hsource).called hreads name (args.map argDatum)
    (between, receiver) (s'.heap cells, receiver) ⟨apart, rfl⟩
  rcases ran : I.callFrom limits script name (args.map argDatum) (between, receiver)
    with ⟨o, after, handle⟩
  rw [ran] at ends left same
  refine ⟨o, after, _, handle, left, ?_, Prod.ext ends.eq.symm (Prod.ext rfl same.symm)⟩
  rw [hheap, args_move, moves.callFrom, ran]

theorem makeInstance_like {u : CompiledScript α} (hlimits : u.limits = limits)
    (reads : ∃ source, sources source ∧ I.Reads limits source u.script) {made : Nat}
    {s s' : Scene (Thread σ)} (hs : s.Like (I.likeness K ρ limits sources) made s') :
    Outcome.Sim (I.likeness K ρ limits sources).inst (I.makeInstance u s).1 (I.makeInstance u s').1 ∧
      (I.makeInstance u s).2.Like (I.likeness K ρ limits sources) (made + 1)
        (I.makeInstance u s').2 := by
  subst hlimits
  obtain ⟨source, hsource, hreads⟩ := reads
  obtain ⟨o, after, after', left, ran, ran'⟩ := topFrom_like moves indifferent hsource hreads hs
  simp only [makeInstance, visitTop_eq, disarm_scene, ran, ran', move_pair]
  refine ⟨?_, scene_like left _ _ _⟩
  cases o with
  | error halt => exact .error _
  | aborted => exact .aborted
  | ok _ =>
    have cells : (move ρ after).cells = move ρ after'.cells := congrArg (move ρ) left.cells
    have size : (move ρ after'.cells).size = after'.cells.size := Array.size_map
    have pushed : (move ρ after'.cells).push (.map []) = move ρ (after'.cells.push (.map [])) :=
      show (move ρ after'.cells).push (move ρ (.map [])) = _ from Array.map_push.symm
    refine .ok ⟨?_, rfl, ⟨source, hsource, hreads⟩, fun _ => ⟨_, rfl⟩⟩
    rw [cells, size, pushed]
    rfl

theorem runEntry_like {access access' : Access} (entry : EntryPoint) (args : List Arg)
    {i i' : LiveScript α} {made : Nat} {s s' : Scene (Thread σ)} (haccess : access = access' ∨ I.KeepsHandles)
    (hi : (I.likeness K ρ limits sources).inst i i')
    (hs : s.Like (I.likeness K ρ limits sources) made s') :
    (I.likeness K ρ limits sources).Calls made (I.runEntry access entry (move ρ args) i s)
      (I.runEntry access' entry args i' s') := by
  obtain ⟨rfl, rfl, ⟨source, hsource, hreads⟩, hsound⟩ := hi
  obtain ⟨o, after, after', handle, left, ran, ran'⟩ :=
    callFrom_like moves indifferent hsource hreads entry.name args i'.cells i'.receiver hs
  have kept (keeps : I.KeepsHandles) : handle = i'.receiver :=
    (congrArg (·.2.2) ran').symm.trans (keeps.callFrom (hsound keeps) _ _ _ _ _)
  -- where the accesses differ, the handle that the call left is the old one
  have same : i'.behind access handle after'.cells = i'.behind access' handle after'.cells := by
    obtain rfl | keeps := haccess
    · rfl
    · rw [kept keeps, i'.behind_receiver, i'.behind_receiver]
  have moved : I.callFrom (move ρ i').compiled.limits (move ρ i').compiled.script entry.name
      ((move ρ args).map argDatum) (s.heap (move ρ i').cells, (move ρ i').receiver) =
        move ρ (o, after, handle) := ran
  simp only [runEntry, visit_eq, disarm_scene, moved, ran', move_pair]
  refine ⟨?_, ⟨?_, ?_, ?_, fun keeps => ?_⟩, scene_like left _ _ _⟩
  · cases o with
    | ok d => exact congrArg Outcome.ok d.toValue_move
    | _ => rfl
  · show (move ρ i').behind access (move ρ handle) (move ρ after.cells) = _
    rw [left.cells, LiveScript.behind_move, same]
  · cases access' <;> rfl
  · refine ⟨source, hsource, ?_⟩
    cases access' <;> exact hreads
  · rw [kept keeps, i'.behind_receiver]
    exact hsound keeps

/-- An engine goes as it goes in another thread and among other collectors, if the scripts cannot tell. -/
theorem like_engine (example? : Kind → Option String) :
    (I.engine limits example?).Like (I.likeness K ρ limits sources) sources
      (I.engine limits example?) where
  compiled := compileUnit_like indifferent example?
  defines := by
    rintro unit _ ⟨rfl, -⟩
    rfl
  made := by
    rintro unit _ made s s' ⟨rfl, hlimits, reads⟩ hs
    exact makeInstance_like moves indifferent hlimits reads hs
  ran entry args haccess hi hs := runEntry_like moves indifferent entry args haccess hi hs

end Engines

end Interpreter

/-! ### Threads at rest -/

section Resting

variable {σ υ ι σ' υ' ι' : Type}

/-- The likeness of a run and of one on a thread that is at rest whenever a step begins. -/
def Likeness.resting (L : Likeness σ υ ι σ' υ' ι') : Likeness σ υ ι Unit υ' ι' where
  state _ _ _ := True
  unit := L.unit
  inst := L.inst
  access := L.access
  place := L.place

/-- If no step can tell threads apart, it goes as on a thread at rest. -/
theorem Engine.Like.resting {L : Likeness σ υ ι σ' υ' ι'} {sources : String → Prop} {E : Engine σ υ ι}
    {E' : Engine σ' υ' ι'} (like : E.Like L sources E') (blind : ∀ made t t', L.state made t t')
    (rest : σ') : E.Like L.resting sources (E'.resting rest) := by
  have woken {made : Nat} {s : Scene σ} {s' : Scene Unit} (h : s.Like L.resting made s') :
      s.Like L made (s'.withEngine rest) := ⟨blind _ _ _, h.collectors, h.log⟩
  have asleep {made : Nat} {s : Scene σ} {s' : Scene σ'} (h : s.Like L made s') :
      s.Like L.resting made (s'.withEngine ()) := ⟨trivial, h.collectors, h.log⟩
  refine ⟨fun made hsource s s' hs => ?_, like.defines, fun hunit hs => ?_,
    fun entry args haccess hinst hs => ?_⟩
  · obtain ⟨ends, left⟩ := like.compiled made hsource _ _ (woken hs)
    exact ⟨ends, asleep left⟩
  · obtain ⟨ends, left⟩ := like.made hunit (woken hs)
    exact ⟨ends, asleep left⟩
  · obtain ⟨ends, inst, left⟩ := like.ran entry args haccess hinst (woken hs)
    exact ⟨ends, inst, asleep left⟩

end Resting

end RowScript
