import Mathlib.Data.List.Forall2
import RowScript.Engine.Scripted
import RowScript.Lock

/-!
# What a gate adds to the calls of an instance

Nothing but the kind of access and, for an exclusive gate, a lock. Between two calls nobody holds the
lock, for a hold ends however its call ends, and a lock that an aborted call left poisoned is entered
all the same. So one call through a gate is one call of the instance behind it
(`LockedGate.perform_free`), and a run of calls through a gate is the run of those calls on the
instance (`LockedGate.performAll_free`), each with the access that `GateCall.on` says.

`LockedGate.transparent` says this of every run of calls through a new gate. The gates of hosts have no
lock; they go through the same run (`Gate.performAll_eq`).
-/

namespace RowScript

/-! ### Calls of an instance -/

/-- A call of an instance. -/
structure InstanceCall where
  access : Access
  entry : EntryPoint
  args : List Arg

namespace Engine

variable {σ υ ι : Type} (E : Engine σ υ ι)

/-- One call after the other on one instance, each on what the call before left, however that ended. -/
def callEach : List InstanceCall → Live ι → World σ →
    List (Outcome ScriptError Value) × Live ι × World σ
  | [], inst, w => ([], inst, w)
  | c :: rest, inst, w =>
    let (o, inst, w) := E.call c.access c.entry c.args inst w
    let (os, inst, w) := callEach rest inst w
    (o :: os, inst, w)

/-- What such calls note, each with its arguments as they were when it began. -/
def callEvents : List InstanceCall → Live ι → World σ → List EngineEvent
  | [], _, _ => []
  | c :: rest, inst, w =>
    let (_, inst', w') := E.call c.access c.entry c.args inst w
    .call inst.number c.entry c.access (c.args.map w.see) :: callEvents rest inst' w'

variable {E}

theorem length_callEach (calls : List InstanceCall) (inst : Live ι) (w : World σ) :
    (E.callEach calls inst w).1.length = calls.length := by
  induction calls generalizing inst w with
  | nil => rfl
  | cons c rest ih =>
    rcases hcall : E.call c.access c.entry c.args inst w with ⟨o, inst', w'⟩
    simp only [callEach, hcall, List.length_cons, ih]

theorem events_callEach (calls : List InstanceCall) (inst : Live ι) (w : World σ) :
    (E.callEach calls inst w).2.2.events.toList =
      w.events.toList ++ E.callEvents calls inst w := by
  induction calls generalizing inst w with
  | nil => simp [callEach, callEvents]
  | cons c rest ih =>
    rcases hcall : E.call c.access c.entry c.args inst w with ⟨o, inst', w'⟩
    obtain ⟨hevents, -, -⟩ := call_noted hcall
    simp only [callEach, callEvents, hcall, ih, hevents, Array.toList_push, List.append_assoc,
      List.singleton_append]

/-- `e` notes the call `c` of the instance with this number. -/
def Notes (number : Nat) (c : InstanceCall) (e : EngineEvent) : Prop :=
  ∃ w : World σ, e = .call number c.entry c.access (c.args.map w.see)

theorem notes_callEvents (calls : List InstanceCall) (inst : Live ι) (w : World σ) :
    List.Forall₂ (Notes (σ := σ) inst.number) calls (E.callEvents calls inst w) := by
  induction calls generalizing inst w with
  | nil => exact .nil
  | cons c rest ih =>
    rcases hcall : E.call c.access c.entry c.args inst w with ⟨o, inst', w'⟩
    obtain ⟨-, -, hnumber⟩ := call_noted hcall
    simp only [callEvents, hcall]
    exact .cons ⟨w, rfl⟩ (hnumber ▸ ih inst' w')

end Engine

/-- A call that enters its instance alone. -/
def EngineEvent.isExclusive : EngineEvent → Bool
  | call _ _ .exclusive _ => true
  | call _ _ .shared _ | compile _ | instantiate _ => false

theorem Engine.countP_callEvents {σ υ ι : Type} {E : Engine σ υ ι} (calls : List InstanceCall)
    (inst : Live ι) (w : World σ) :
    (E.callEvents calls inst w).countP EngineEvent.isExclusive =
      calls.countP (·.access = .exclusive) := by
  induction calls generalizing inst w with
  | nil => rfl
  | cons c rest ih =>
    rcases hcall : E.call c.access c.entry c.args inst w with ⟨o, inst', w'⟩
    simp only [callEvents, hcall, List.countP_cons, ih]
    cases c.access <;> rfl

/-! ### Calls through a gate -/

/-- A call through a gate: as its policy says, or alone. -/
inductive GateCall
  | call (entry : EntryPoint) (args : List Arg)
  | callAlone (entry : EntryPoint) (args : List Arg)

namespace GateCall

def isAlone : GateCall → Bool
  | callAlone _ _ => true
  | call _ _ => false

/-- The call of the instance that a gate of this policy has to make of it. -/
def on (policy : ExecutionPolicy) : GateCall → InstanceCall
  | call entry args => ⟨policy.access, entry, args⟩
  | callAlone entry args => ⟨.exclusive, entry, args⟩

theorem countP_on (policy : ExecutionPolicy) (calls : List GateCall) :
    (calls.map (on policy)).countP (·.access = .exclusive) =
      calls.countP isAlone + if policy = .exclusive then calls.countP (!·.isAlone) else 0 := by
  induction calls with
  | nil => simp
  | cons c rest ih =>
    simp only [List.map_cons, List.countP_cons, ih]
    cases c <;> cases policy <;> simp [on, isAlone, ExecutionPolicy.access] <;> omega

end GateCall

namespace LockedGate

variable {σ υ ι : Type}

/-- One call, unless it has to wait without end. -/
def perform (E : Engine σ υ ι) (g : LockedGate ι) (w : World σ) :
    GateCall → Option (Outcome ScriptError Value × LockedGate ι × World σ)
  | .call entry args => g.call E entry args w
  | .callAlone entry args => some (g.callAlone E entry args w)

/-- One call after the other, unless one has to wait without end. -/
def performAll (E : Engine σ υ ι) : List GateCall → LockedGate ι → World σ →
    Option (List (Outcome ScriptError Value) × LockedGate ι × World σ)
  | [], g, w => some ([], g, w)
  | c :: rest, g, w => do
    let (o, g, w) ← g.perform E w c
    let (os, g, w) ← performAll E rest g w
    return (o :: os, g, w)

/-- Nobody holds the lock. It may be poisoned. -/
def Free : LockedGate ι → Prop
  | reentrant _ => True
  | exclusive lock => lock.held = false

theorem free_new (inst : Live ι) (policy : ExecutionPolicy) : (new inst policy).Free := by
  cases policy <;> trivial

@[simp] theorem policy_new (inst : Live ι) (policy : ExecutionPolicy) :
    (new inst policy).policy = policy := by
  cases policy <;> rfl

@[simp] theorem intoInner_new (inst : Live ι) (policy : ExecutionPolicy) :
    (new inst policy).intoInner = inst := by
  cases policy <;> rfl

variable {E : Engine σ υ ι} {g : LockedGate ι} {w : World σ}

/-- `g'` is the gate `g` with nobody inside, after a call that left the instance as `inst`. -/
structure Left (g : LockedGate ι) (inst : Live ι) (g' : LockedGate ι) : Prop where
  inner : g'.intoInner = inst
  policy : g'.policy = g.policy
  free : g'.Free

variable {o : Outcome ScriptError Value} {inst : Live ι} {w' : World σ}

theorem call_free (free : g.Free) {entry : EntryPoint} {args : List Arg}
    (h : E.call g.policy.access entry args g.intoInner w = (o, inst, w')) :
    ∃ g', g.call E entry args w = some (o, g', w') ∧ g.Left inst g' := by
  cases g with
  | reentrant before =>
    refine ⟨reentrant inst, ?_, rfl, rfl, trivial⟩
    rw [call, show E.call .shared entry args before w = _ from h]
  | exclusive lock =>
    refine ⟨exclusive (Lock.release { lock with held := true } inst o.isAborted), ?_,
      Lock.recover_found _, rfl, rfl⟩
    have hin : E.call .exclusive entry args lock.found.recover w = (o, inst, w') := h
    simp only [call, Lock.acquire_of_free free, hin]

theorem callAlone_free (free : g.Free) {entry : EntryPoint} {args : List Arg}
    (h : E.call .exclusive entry args g.intoInner w = (o, inst, w')) :
    ∃ g', g.callAlone E entry args w = (o, g', w') ∧ g.Left inst g' := by
  cases g with
  | reentrant before =>
    refine ⟨reentrant inst, ?_, rfl, rfl, trivial⟩
    rw [callAlone, show E.call .exclusive entry args before w = _ from h]
  | exclusive lock =>
    refine ⟨exclusive { lock with content := inst }, ?_, Lock.recover_found _, rfl, free⟩
    rw [callAlone, show E.call .exclusive entry args lock.found.recover w = _ from h]

/-- A call through a gate with nobody inside is the one call of the instance behind it, with its
result, and nobody is inside behind it. -/
theorem perform_free (free : g.Free) (c : GateCall)
    (h : E.call (c.on g.policy).access (c.on g.policy).entry (c.on g.policy).args g.intoInner w =
      (o, inst, w')) :
    ∃ g', g.perform E w c = some (o, g', w') ∧ g.Left inst g' := by
  cases c with
  | call entry args => exact call_free free h
  | callAlone entry args =>
    obtain ⟨g', hcall, hleft⟩ := callAlone_free free h
    exact ⟨g', congrArg some hcall, hleft⟩

/-- So is a run of calls: none waits, and each is made on what the call before it left. -/
theorem performAll_free {calls : List GateCall} {os : List (Outcome ScriptError Value)}
    (free : g.Free)
    (h : E.callEach (calls.map (·.on g.policy)) g.intoInner w = (os, inst, w')) :
    ∃ g', performAll E calls g w = some (os, g', w') ∧ g.Left inst g' := by
  induction calls generalizing g w os with
  | nil =>
    cases h
    exact ⟨g, rfl, rfl, rfl, free⟩
  | cons c rest ih =>
    rcases hcall : E.call (c.on g.policy).access (c.on g.policy).entry (c.on g.policy).args
      g.intoInner w with ⟨o, _, w₁⟩
    obtain ⟨g₁, hperform, rfl, hpolicy, hfree⟩ := perform_free free c hcall
    rcases hrest : E.callEach (rest.map (·.on g.policy)) g₁.intoInner w₁ with ⟨os', inst', w₂⟩
    simp only [List.map_cons, Engine.callEach, hcall, hrest] at h
    cases h
    rw [← hpolicy] at hrest
    obtain ⟨g', hall, hleft⟩ := ih hfree hrest
    refine ⟨g', ?_, hleft.inner, hleft.policy.trans hpolicy, hleft.free⟩
    simp only [performAll, hperform, hall, Option.bind_eq_bind, Option.bind_some]
    rfl

/-- A call that is aborted, one that fails and one that returns: each gets through. -/
example :
    let acts : List Act := [.play [] .aborts, .play [] (.fails "boom"), .play [] (.returns (.int 1))]
    let engine := Plan.engine { acts := [("transform", acts)] }
    let call := GateCall.call .transform []
    let run := performAll engine [call, call, .callAlone .transform []] (new ⟨0, 0⟩ .exclusive)
      { engine := [] }
    (run.map fun (os, g, _) => (os.map (·.isAborted), os.map (·.isOk), g.intoInner.state)) =
      some ([true, false, false], [false, false, true], 3) := by
  rfl

end LockedGate

/-! ### The gates of hosts -/

namespace Gate

variable {σ υ ι : Type} {E : Engine σ υ ι}

def perform (E : Engine σ υ ι) (g : Gate ι) (w : World σ) :
    GateCall → Outcome ScriptError Value × Gate ι × World σ
  | .call entry args => g.call E entry args w
  | .callAlone entry args => g.callAlone E entry args w

def performAll (E : Engine σ υ ι) : List GateCall → Gate ι → World σ →
    List (Outcome ScriptError Value) × Gate ι × World σ
  | [], g, w => ([], g, w)
  | c :: rest, g, w =>
    let (o, g, w) := g.perform E w c
    let (os, g, w) := performAll E rest g w
    (o :: os, g, w)

theorem performAll_eq (calls : List GateCall) (g : Gate ι) (w : World σ) :
    performAll E calls g w =
      let (os, inst, w') := E.callEach (calls.map (·.on g.policy)) g.inst w
      (os, { g with inst }, w') := by
  induction calls generalizing g w with
  | nil => rfl
  | cons c rest ih =>
    rcases hcall : E.call (c.on g.policy).access (c.on g.policy).entry (c.on g.policy).args
      g.inst w with ⟨o, inst, w'⟩
    have hperform : g.perform E w c = (o, { g with inst }, w') := by
      cases c <;> simp only [GateCall.on] at hcall <;>
        simp only [perform, call, callAlone, enter, hcall]
    simp only [performAll, hperform, ih, List.map_cons, Engine.callEach, hcall]

end Gate

/-! ### Gates are transparent -/

namespace LockedGate

variable {σ υ ι : Type}

/-- What is promised of a run of calls through a new gate for `inst`, from the world `w` on: the gate
that is left, the outcomes of the calls, and the world behind them. -/
structure Transparent (E : Engine σ υ ι) (policy : ExecutionPolicy) (inst : Live ι) (w : World σ)
    (calls : List GateCall) (outcomes : List (Outcome ScriptError Value)) (g : LockedGate ι)
    (w' : World σ) : Prop where
  /-- Each call is one call of the instance, as the call before it left it, however that ended; its
  result is the result of the call; and what is behind the gate in the end is the instance as the last
  call left it. -/
  run : (outcomes, g.intoInner, w') = E.callEach (calls.map (·.on policy)) inst w
  /-- No call is refused or skipped. -/
  answered : outcomes.length = calls.length
  /-- The instance is called so often and no more, each time with the entry point and the arguments of
  the call. -/
  events : w'.events.toList = w.events.toList ++ E.callEvents (calls.map (·.on policy)) inst w
  noted : List.Forall₂ (Engine.Notes (σ := σ) inst.number) (calls.map (·.on policy))
    (E.callEvents (calls.map (·.on policy)) inst w)
  /-- Calls alone are exclusive, and so are the others under the exclusive policy. -/
  exclusive : (E.callEvents (calls.map (·.on policy)) inst w).countP EngineEvent.isExclusive =
    calls.countP GateCall.isAlone +
      if policy = .exclusive then calls.countP (!·.isAlone) else 0
  /-- The gate of a host goes through the same run. -/
  host : Gate.performAll E calls ⟨policy, inst⟩ w = (outcomes, ⟨policy, g.intoInner⟩, w')
  policy : g.policy = policy

/-- **Gates are transparent and survive failures.** No call through a gate waits without end, whatever
came before it, and every run of calls is the run of these calls on the instance itself. -/
theorem transparent (E : Engine σ υ ι) (policy : ExecutionPolicy) (inst : Live ι) (w : World σ)
    (calls : List GateCall) : ∃ outcomes g w',
      performAll E calls (new inst policy) w = some (outcomes, g, w') ∧
        Transparent E policy inst w calls outcomes g w' := by
  rcases heach : E.callEach (calls.map (·.on policy)) inst w with ⟨outcomes, inst', w'⟩
  have hnew : E.callEach (calls.map (·.on (new inst policy).policy)) (new inst policy).intoInner w =
      (outcomes, inst', w') := by
    rw [policy_new, intoInner_new, heach]
  obtain ⟨g, hrun, hinner, hpolicy, -⟩ := performAll_free (free_new inst policy) hnew
  have hlength := Engine.length_callEach (E := E) (calls.map (·.on policy)) inst w
  have hevents := Engine.events_callEach (E := E) (calls.map (·.on policy)) inst w
  rw [heach] at hlength hevents
  refine ⟨outcomes, g, w', hrun, ?_⟩
  constructor
  case run => rw [hinner, heach]
  case answered => rw [hlength, List.length_map]
  case events => exact hevents
  case noted => exact Engine.notes_callEvents _ inst w
  case exclusive => rw [Engine.countP_callEvents, GateCall.countP_on]
  case host => rw [Gate.performAll_eq, heach, hinner]
  case policy => rw [hpolicy, policy_new]

end LockedGate

end RowScript
