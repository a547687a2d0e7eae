import RowScript.Proofs.Indifference
import RowScript.Proofs.SteadyPrograms

/-!
# The interpreter of scripts

What the engine for scripts does with an instance, told by the evaluator: a call of an entry point that
is there is a run of its function (`runEntry_eq`), in a machine whose first operation is counted and
whose receiver is that of the instance.

The interpreter keeps to what is asked of interpreters: it keeps the handles of shared receivers
(`keepsHandles_interpreter`), its scripts do not see the numbers of collectors (`passesHandles_interpreter`), and
all of them are deterministic (`deterministic_interpreter`), since the time that a limit leaves them does
not depend on when they are run.
-/

namespace RowScript.Script

open Attempt

/-! ### Environments -/

theorem maxOperations_env (p : Program) (limits : Limits) (time : Option Nat) :
    (p.env limits time).maxOperations = limits.maxOperations.bind nonZero := by
  unfold Program.env
  cases limits.maxCallLevels.toNat <;> rfl

theorem tick_first (p : Program) (limits : Limits) (time : Option Nat) (pos : Position) {m : Machine}
    (h : m.operations = 0) :
    Run.tick (p.env limits time) pos m = (.ok (), { m with operations := 1 }) := by
  have room : ∀ max, (p.env limits time).maxOperations = some max → m.operations < max := by
    intro max hmax
    rw [maxOperations_env] at hmax
    obtain ⟨n, -, hn⟩ := Option.bind_eq_some_iff.mp hmax
    unfold nonZero at hn
    split at hn
    · cases hn
    · next hne =>
      cases hn
      -- a limit of zero is none
      exact h ▸ Nat.pos_of_ne_zero fun hzero => hne (by simp [← UInt64.toNat_inj, hzero])
  refine Prod.ext ?_ ?_
  · rw [Run.tick_within pos room, h]
    rfl
  · rw [Run.tick_snd, h]

/-! ### Calls -/

variable {σ : Type}

/-- The machine in which the function of an entry point begins. -/
def Machine.entering (s : Scene σ) (f : Function) (args : List Arg) (i : ScriptInstance) : Machine :=
  { Machine.start s (some i.receiver) i.cells with
    operations := 1
    scope := ((f.params.zip (args.map argDatum)).map fun (name, value) =>
      { name, value : Variable }).reverse }

/-- The machine of a call, whose first operation has been counted. -/
def Machine.calling (s : Scene σ) (cells : Array Datum) : Machine :=
  { Machine.start s none cells with operations := 1 }

theorem callFunction_eq {p : Program} {name : String} {args : List Datum} {f : Function}
    (found : p.function? name args.length = some f) (limits : Limits) (watch : Option Watch)
    (h : Heap Nat) (this : Datum) :
    let ran := runFunction (p.env limits (timeLeft watch h.engine)) f args
      (.calling h.toScene h.cells, some this)
    callFunctionOf limits watch p name args (h, this) =
      (outcomeOf (fun f => f.leavingEntry.toHalt) ran.1, ran.2.1.leave h, ran.2.2.getD this) := by
  unfold callFunctionOf
  rw [found]
  simp only [tick_first p limits _ .unknown (m := Machine.start h.toScene none h.cells) rfl]
  rfl

theorem timeLeft_watchFrom (limit : Option Duration) (now : Nat) :
    timeLeft (interpreter.watchFrom limit now) now = limit.map (·.millis) := by
  cases limit with
  | none => rfl
  | some limit => exact congrArg some (Nat.add_sub_cancel_left now limit.millis)

theorem callFrom_eq {limits : Limits} {p : Program} {name : String} {args : List Datum} {f : Function}
    (found : p.function? name args.length = some f) (h : Heap Nat) (this : Datum) :
    let ran := runFunction (p.env limits (limits.timeout.map (·.millis))) f args
      (.calling h.toScene h.cells, some this)
    interpreter.callFrom limits p name args (h, this) =
      (outcomeOf (fun f => f.leavingEntry.toHalt) ran.1, ran.2.1.leave h, ran.2.2.getD this) := by
  have called := callFunction_eq found limits (interpreter.watchFrom limits.timeout h.engine) h this
  rwa [timeLeft_watchFrom] at called

theorem runEntry_eq (access : Access) {entry : EntryPoint} {args : List Arg} {i : ScriptInstance}
    {f : Function} (found : i.compiled.script.function? entry.name args.length = some f)
    (s : Scene σ) :
    let ran := runFunction i.compiled.env f (args.map argDatum) (.calling s i.cells, some i.receiver)
    runEntry access entry args i s =
      (((outcomeOf (fun f => f.leavingEntry.toHalt) ran.1).map Datum.toValue).mapError fun halt =>
          halt.toError i.compiled.limits.timeout entry.name (.invocation entry.name),
        i.behind access (ran.2.2.getD i.receiver) ran.2.1.cells, ran.2.1.store s) := by
  have found' : i.compiled.script.function? entry.name (args.map argDatum).length = some f := by
    rwa [List.length_map]
  have visited := (interpreter.visit_eq entry args i (s.withEngine { outside := 0 })).trans
    (callFrom_eq found' _ _)
  simp only [Scene.withEngine, Scene.heap] at visited
  simp only [runEntry, Interpreter.runEntry, Scene.withEngine, visited]
  rfl

/-! ### What the scripts cannot tell -/

/-- When a run begins makes no difference to it. -/
theorem deterministic_interpreter (limits : Limits) (source : String) :
    interpreter.Deterministic limits source where
  compiled := .ofOutcome (.of_eq rfl)
  top := by
    rintro p - ⟨⟨now, _, _⟩, _⟩ ⟨⟨now', collectors, log⟩, cells⟩ ⟨-, rfl, rfl, rfl⟩
    simp only [Interpreter.topFrom, show interpreter.runTop = runTopOf from rfl, runTopOf,
      timeLeft_watchFrom]
    exact ⟨.of_eq rfl, trivial, rfl, rfl, rfl⟩
  called := by
    rintro p - name args ⟨⟨⟨now, _, _⟩, _⟩, this⟩ ⟨⟨⟨now', collectors, log⟩, cells⟩, _⟩
      ⟨⟨-, rfl, rfl, rfl⟩, rfl⟩
    cases found : p.function? name args.length with
    | none =>
      have missing (h : Heap Nat) : interpreter.callFrom limits p name args (h, this) =
          (.error (Fault.leavingEntry { cause := .functionNotFound name }).toHalt, h, this) := by
        simp only [Interpreter.callFrom, interpreter, callFunctionOf, found]
      simp only [missing]
      exact ⟨.error _, ⟨trivial, rfl, rfl, rfl⟩, trivial⟩
    | some f =>
      simp only [callFrom_eq found]
      exact ⟨.of_eq rfl, ⟨trivial, rfl, rfl, rfl⟩, rfl⟩

variable {ρ : Relocation}

theorem toHalt_move (f : Fault) : (move ρ f).toHalt = f.toHalt := by
  have message := f.message_move (ρ := ρ)
  obtain ⟨cause, pos, calls⟩ := f
  refine congrArg₂ Halt.mk ?_ message
  cases cause <;> rfl

theorem leavingEntry_move (f : Fault) : (move ρ f).leavingEntry = move ρ f.leavingEntry := by
  simp only [Fault.leavingEntry, Fault.cause_move, isCatchable_move]
  split <;> rfl

theorem outcomeOf_move (toHalt : Fault → Halt) (h : ∀ f, toHalt (move ρ f) = toHalt f)
    (o : Outcome Signal Datum) : outcomeOf toHalt (move ρ o) = move ρ (outcomeOf toHalt o) := by
  cases o with
  | ok d => rfl
  | error signal =>
    cases signal with
    | fault f => exact congrArg Outcome.error (h f)
    | _ => rfl
  | aborted => rfl

theorem leave_move (m : Machine) (h : Heap Nat) : (move ρ m).leave (move ρ h) = move ρ (m.leave h) := rfl

theorem akin_env (sound : ρ.Sound) (p : Program) (body : List Stmt) (limits : Limits)
    (time : Option Nat) : (p.env limits time).Akin ρ (Program.env { p with body } limits time) := by
  have base : (Env.start p limits time).Akin ρ (Env.start { p with body } limits time) :=
    ⟨fun _ _ => rfl, rfl, rfl, rfl, fun _ _ _ => .aborted⟩
  exact Env.akin_atDepth sound base _

theorem runTop_move (sound : ρ.Sound) (limits : Limits) (watch : Option Watch) (p : Program)
    (h : Heap Nat) : runTopOf limits watch p (move ρ h) = move ρ (runTopOf limits watch p h) := by
  have moved := steady_runAll (akin_env sound p p.body limits (timeLeft watch h.engine)) sound p.body
    (Machine.start h.toScene none h.cells)
  have start : Machine.start (move ρ h).toScene none (move ρ h).cells =
      move ρ (Machine.start h.toScene none h.cells) := rfl
  have time : (move ρ h).engine = h.engine := rfl
  simp only [runTopOf, start, time]
  rw [show runAll (p.env limits (timeLeft watch h.engine)) p.body _ = _ from moved]
  rcases runAll (p.env limits (timeLeft watch h.engine)) p.body (Machine.start h.toScene none h.cells)
    with ⟨o, m⟩
  simp only [move_pair, leave_move, outcomeOf_move _ toHalt_move]
  cases outcomeOf Fault.toHalt o <;> rfl

/-- A call with moved handles is the call, moved, whatever the statements outside the functions are. -/
theorem callFunction_move (sound : ρ.Sound) (body : List Stmt) (limits : Limits)
    (watch : Option Watch) (p : Program) (name : String) (args : List Datum) (h : Heap Nat)
    (this : Datum) :
    callFunctionOf limits watch { p with body } name (move ρ args) (move ρ h, move ρ this) =
      move ρ (callFunctionOf limits watch p name args (h, this)) := by
  have length : (move ρ args).length = args.length := by rw [move_items, List.length_map]
  have halt (f : Fault) : (move ρ f).leavingEntry.toHalt = f.leavingEntry.toHalt := by
    rw [leavingEntry_move, toHalt_move]
  cases found : p.function? name args.length with
  | none =>
    have found' : ({ p with body } : Program).function? name (move ρ args).length = none := length ▸ found
    simp only [callFunctionOf, found, found']
    rfl
  | some f =>
    have found' : ({ p with body } : Program).function? name (move ρ args).length = some f :=
      length ▸ found
    have time : (move ρ h).engine = h.engine := rfl
    have called := steady_runFunction (akin_env sound p body limits (timeLeft watch h.engine)) sound f
      args (.calling h.toScene h.cells, some this)
    simp only [callFunction_eq found, callFunction_eq found', time]
    rw [show runFunction (Program.env { p with body } limits _) f (move ρ args)
      (.calling (move ρ h).toScene (move ρ h).cells, some (move ρ this)) = _ from called]
    rcases runFunction (p.env limits (timeLeft watch h.engine)) f args
      (.calling h.toScene h.cells, some this) with ⟨o, m, handle⟩
    have ends := outcomeOf_move (fun f => f.leavingEntry.toHalt) halt o
    simp only [move_pair, leave_move, move_getD, ends]

theorem passesHandles_interpreter : interpreter.PassesHandles := by
  intro ρ sound
  exact ⟨runTop_move sound, fun limits watch p => callFunction_move sound p.body limits watch p⟩

/-- A call does the same whatever the statements outside the functions are. -/
theorem callFunction_withBody (body : List Stmt) (limits : Limits) (watch : Option Watch)
    (p : Program) : callFunctionOf limits watch { p with body } = callFunctionOf limits watch p := by
  funext name args ⟨h, this⟩
  have moved := callFunction_move Relocation.sound_still body limits watch p name args h this
  rwa [still_items, still_heap, still_datum, still_called] at moved

end RowScript.Script
