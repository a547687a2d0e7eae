import RowScript.Attempt
import RowScript.Collector
import RowScript.Error
import RowScript.Log

/-!
# Script engines

A host never looks into a script language. An `Engine` compiles source texts into units, makes
instances of units, and calls the entry points of instances; `Scene` is what such a step finds and can
change outside the instance. The functions `compile`, `instantiate` and `call` run a step in a `World`:
they note it in `World.events` before it runs, and put what it logged after what was logged before, so
no engine can see or take back what has been noted and logged.
-/

namespace RowScript

/-- An argument of an entry point. -/
inductive Arg
  | values (m : ValueMap)
  | collector (h : CollectorHandle)
  deriving Inhabited

/-- How an instance is entered: beside other callers, or alone. -/
inductive Access
  | shared
  | exclusive
  deriving Repr, DecidableEq, Inhabited

/-- An argument as it was when a call began. -/
inductive ArgSeen
  | values (m : ValueMap)
  | collector (rows : List (List Value))
  deriving Inhabited

/-- A step of an engine. Instances are numbered in the order in which they are asked for. -/
inductive EngineEvent
  | compile (source : String)
  | instantiate (number : Nat)
  | call (number : Nat) (entry : EntryPoint) (access : Access) (args : List ArgSeen)
  deriving Inhabited

/-- The number of the instance that a step asks for. -/
def EngineEvent.made? : EngineEvent → Option Nat
  | instantiate number => some number
  | compile _ | call _ _ _ _ => none

def EngineEvent.isCall : EngineEvent → Bool
  | call _ _ _ _ => true
  | compile _ | instantiate _ => false

/-- A live instance, told from others by its number. -/
structure Live (ι : Type) where
  number : Nat
  state : ι
  deriving Inhabited

/-- What a step of an engine finds and changes: the engine's own state and the collectors. What the
step logs comes on top of an empty log. -/
structure Scene (σ : Type) where
  engine : σ
  collectors : Collectors := .empty
  log : Array LogEvent := #[]

/-- All that the steps of engines change, with the log and the record of the steps. -/
structure World (σ : Type) where
  engine : σ
  collectors : Collectors := .empty
  log : Array LogEvent := #[]
  events : Array EngineEvent := #[]
  /-- How many instances have been asked for. -/
  instances : Nat := 0

namespace World

variable {σ : Type}

def note (e : EngineEvent) (w : World σ) : World σ := { w with events := w.events.push e }

def logAll (es : List LogEvent) (w : World σ) : World σ := { w with log := w.log ++ es }

/-- What an engine gets to see. -/
def scene (w : World σ) : Scene σ := { engine := w.engine, collectors := w.collectors }

/-- Take over what a step left. -/
def absorb (w : World σ) (s : Scene σ) : World σ :=
  { w with engine := s.engine, collectors := s.collectors, log := w.log ++ s.log }

def see (w : World σ) : Arg → ArgSeen
  | .values m => .values m
  | .collector h => .collector (w.collectors.rows h)

end World

/-- A script language: compiled units `υ`, live instances `ι`, and a state `σ` of its own. -/
structure Engine (σ υ ι : Type) where
  /-- The example script for a kind, used when no code is configured. -/
  example? : Kind → Option String
  /-- Read a source text. -/
  compileUnit : String → Attempt (Scene σ) ScriptError υ
  /-- Whether a unit defines an entry point with that count of arguments. -/
  defines : υ → EntryPoint → Outcome ScriptError Bool
  /-- Make a live instance. -/
  makeInstance : υ → Attempt (Scene σ) ScriptError ι
  /-- Call an entry point; the instance keeps what the call changed, also when it fails. -/
  runEntry :
    Access → EntryPoint → List Arg → ι → Scene σ → Outcome ScriptError Value × ι × Scene σ

namespace Engine

variable {σ υ ι : Type} (E : Engine σ υ ι)

def compile (source : String) : Attempt (World σ) ScriptError υ := fun w =>
  let (o, scene) := E.compileUnit source w.scene
  (o, (w.note (.compile source)).absorb scene)

def instantiate (unit : υ) : Attempt (World σ) ScriptError (Live ι) := fun w =>
  let (o, scene) := E.makeInstance unit w.scene
  let counted := { w.note (.instantiate w.instances) with instances := w.instances + 1 }
  (o.map (Live.mk w.instances), counted.absorb scene)

def call (access : Access) (entry : EntryPoint) (args : List Arg) (inst : Live ι) (w : World σ) :
    Outcome ScriptError Value × Live ι × World σ :=
  let (o, state, scene) := E.runEntry access entry args inst.state w.scene
  (o, { inst with state },
    (w.note (.call inst.number entry access (args.map w.see))).absorb scene)

variable {E} {w w' : World σ}

theorem compile_noted {source : String} {o : Outcome ScriptError υ}
    (h : E.compile source w = (o, w')) :
    w'.events = w.events.push (.compile source) ∧ w'.instances = w.instances := by
  obtain rfl : _ = w' := congrArg Prod.snd h
  exact ⟨rfl, rfl⟩

theorem instantiate_noted {unit : υ} {o : Outcome ScriptError (Live ι)}
    (h : E.instantiate unit w = (o, w')) :
    w'.events = w.events.push (.instantiate w.instances) ∧ w'.instances = w.instances + 1 := by
  obtain rfl : _ = w' := congrArg Prod.snd h
  exact ⟨rfl, rfl⟩

/-- A new instance is what was made, under the number for which it was asked. -/
theorem of_instantiate {unit : υ} {inst : Live ι} (h : E.instantiate unit w = (.ok inst, w')) :
    ∃ scene, E.makeInstance unit w.scene = (.ok inst.state, scene) ∧
      inst.number = w.instances := by
  unfold instantiate at h
  rcases made : E.makeInstance unit w.scene with ⟨o, scene⟩
  rw [made] at h
  cases o <;> cases h
  exact ⟨scene, rfl, rfl⟩

theorem call_noted {access : Access} {entry : EntryPoint} {args : List Arg} {inst inst' : Live ι}
    {o : Outcome ScriptError Value} (h : E.call access entry args inst w = (o, inst', w')) :
    w'.events = w.events.push (.call inst.number entry access (args.map w.see)) ∧
      w'.instances = w.instances ∧ inst'.number = inst.number := by
  obtain rfl : _ = w' := congrArg (·.2.2) h
  obtain rfl : _ = inst' := congrArg (·.2.1) h
  exact ⟨rfl, rfl, rfl⟩

end Engine

end RowScript
