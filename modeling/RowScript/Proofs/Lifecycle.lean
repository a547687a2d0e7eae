import RowScript.Proofs.Loading

/-!
# The lifecycle of a host

A host is a machine of three states, `Phase`, whatever its engine does: `Phase.next` says where an
operation leads by its kind and its success alone.

* A load leads to the ready state if and only if every stage of it succeeds (`Host.Loads`); else the
  host stays where it was, and the error is that of the stage (`Host.LoadContract`).
* A record changes no state and calls the script once, if there is a live one
  (`Host.TransformContract`).
* Closing a ready host ends in the closed state however the closing hook ends
  (`Host.CloseContract`).

`lifecycle_after` states this of every state that a run from a new host can reach. Its invariant is
`Host.Serving`: a live instance comes from a load whose stages all succeeded, and only records have
been through it since.
-/

namespace RowScript

/-- The states of a host without what they hold. -/
inductive Phase
  | unloaded
  | ready
  | closed
  deriving Repr, DecidableEq

def Lifecycle.phase {ι : Type} : Lifecycle ι → Phase
  | unloaded => .unloaded
  | ready _ _ => .ready
  | closed => .closed

/-- An operation on a host. -/
inductive HostOp
  | load (source : String)
  | transform (args : List Arg)
  | close

/-- Where an operation leads, by its success. -/
def Phase.next : Phase → HostOp → Bool → Phase
  | _, .load _, true => .ready
  | .ready, .close, _ => .closed
  | phase, _, _ => phase

namespace Host

variable {σ υ ι : Type} (h : Host σ υ ι)

def perform : HostOp → Attempt (Hosted σ ι) HostError (Option Value)
  | .load source => do
    h.load source
    return none
  | .transform args => do return some (← h.transform args)
  | .close => do
    h.close
    return none

/-- The state after operations. -/
def after (ops : List HostOp) (s : Hosted σ ι) : Hosted σ ι :=
  ops.foldl (fun s op => (h.perform op s).2) s

/-- Operations, each with its success. -/
def marks : List HostOp → Hosted σ ι → List (HostOp × Bool)
  | [], _ => []
  | op :: rest, s => (op, (h.perform op s).1.isOk) :: marks rest (h.perform op s).2

/-- All stages of a load succeed: the source compiles to a unit that defines the entry point, an
instance can be made, and the opening hook, if it is defined and called, returns. -/
def Loads (source : String) (w : World σ) : Prop :=
  ∃ unit w₁ opens closes inst w₂, h.engine.compile source w = (.ok unit, w₁) ∧
    h.engine.defines unit h.entry = .ok true ∧
    h.engine.defines unit .opening = .ok opens ∧ h.engine.defines unit .closing = .ok closes ∧
    h.engine.instantiate unit w₁ = (.ok inst, w₂) ∧
    (h.hooks → opens → ∃ v inst' w₃,
      h.engine.call .exclusive .opening [] inst w₂ = (.ok v, inst', w₃))

/-- The end of a load whose stages ended in `r`: a ready host, or the state before. -/
def loadEnd (life : Lifecycle ι) (w : World σ) :
    Outcome ScriptError (EntryPoints × Gate ι) → Outcome HostError Unit × Hosted σ ι
  | .ok (entries, gate) => (.ok (), ⟨.ready entries gate, w⟩)
  | .error e => (.error (.script e), ⟨life, w⟩)
  | .aborted => (.aborted, ⟨life, w⟩)

theorem world_loadEnd (life : Lifecycle ι) (w : World σ)
    (r : Outcome ScriptError (EntryPoints × Gate ι)) : (loadEnd life w r).2.world = w := by
  rcases r with ⟨entries, gate⟩ | e | _ <;> rfl

/-- What a load does in a state. -/
structure LoadContract (s : Hosted σ ι) (source : String) : Prop where
  /-- A ready host refuses, and nothing happens. -/
  of_ready : s.lifecycle.isReady → h.load source s = (.error .alreadyInitialized, s)
  ready_iff : ¬ s.lifecycle.isReady →
    ((h.load source s).2.lifecycle.isReady ↔ h.Loads source s.world)
  ok_iff : ¬ s.lifecycle.isReady → ((h.load source s).1 = .ok () ↔ h.Loads source s.world)
  kept : ¬ h.Loads source s.world → (h.load source s).2.lifecycle = s.lifecycle
  /-- The load ends as the stage at which it failed. -/
  of_loading : ∀ {es r w'}, ¬ s.lifecycle.isReady → h.Loading source s.world es r w' →
    h.load source s = loadEnd s.lifecycle w' r

/-- What a record does in a state. -/
structure TransformContract (s : Hosted σ ι) (args : List Arg) : Prop where
  phase_kept : (h.transform args s).2.lifecycle.phase = s.lifecycle.phase
  of_unloaded : s.lifecycle = .unloaded → h.transform args s = (.error .notInitialized, s)
  of_closed : s.lifecycle = .closed → h.transform args s = (.error .closed, s)
  /-- The live instance is called once, as the policy says, and kept as the call left it. -/
  of_ready : ∀ {entries gate o inst w'}, s.lifecycle = .ready entries gate →
    h.engine.call h.policy.access h.entry args gate.inst s.world = (o, inst, w') →
      h.transform args s = (o.mapError .script, ⟨.ready entries { gate with inst }, w'⟩)

/-- What closing does in a state. -/
structure CloseContract (s : Hosted σ ι) : Prop where
  of_unloaded : s.lifecycle = .unloaded → h.close s = (.error .notInitialized, s)
  of_closed : s.lifecycle = .closed → h.close s = (.ok (), s)
  closes : s.lifecycle.isReady → (h.close s).2.lifecycle = .closed
  /-- Closing ends as the hook does. -/
  of_hook : ∀ {entries gate hook o inst w'}, s.lifecycle = .ready entries gate →
    h.hook? entries.closing = some hook →
    h.engine.call .exclusive hook [] gate.inst s.world = (o, inst, w') →
      h.close s = ((o.map fun _ => ()).mapError .script, ⟨.closed, w'⟩)
  of_unhooked : ∀ {entries gate}, s.lifecycle = .ready entries gate →
    h.hook? entries.closing = none → h.close s = (.ok (), ⟨.closed, s.world⟩)

/-- A live instance that a load brought up and that only records have been through. -/
inductive Serving : EntryPoints → Gate ι → World σ → Prop
  | loaded {source w es entries gate w'}
      (loading : h.Loading source w es (.ok (entries, gate)) w') :
      Serving entries gate w'
  | called {entries gate w args o inst w'} (serving : Serving entries gate w)
      (called : h.engine.call h.policy.access h.entry args gate.inst w = (o, inst, w')) :
      Serving entries { gate with inst } w'

variable {h}

theorem Serving.entry {entries : EntryPoints} {gate : Gate ι} {w : World σ}
    (hs : h.Serving entries gate w) : entries.transform = h.entry ∧ gate.policy = h.policy := by
  induction hs with
  | loaded loading => exact loading.entry
  | called _ _ ih => exact ih

variable (h)

/-! ### One operation -/

theorem hook?_opening (opens : Bool) :
    h.hook? (if opens then some .opening else none) =
      if h.hooks ∧ opens then some .opening else none := by
  cases hh : h.hooks <;> cases opens <;> simp [hook?, hh]

theorem loads_iff (source : String) (w : World σ) :
    h.Loads source w ↔ ∃ es entries gate w', h.Loading source w es (.ok (entries, gate)) w' := by
  constructor
  · rintro ⟨unit, w₁, opens, closes, inst, w₂, compiled, hentry, hopens, hcloses, made, hcalled⟩
    have resolved := EntryPoints.resolve_eq_ok_iff.mpr ⟨hentry, opens, closes, hopens, hcloses, rfl⟩
    have hhook := h.hook?_opening opens
    by_cases hon : h.hooks ∧ opens
    · obtain ⟨v, inst', w₃, called⟩ := hcalled hon.1 hon.2
      rw [if_pos hon] at hhook
      exact ⟨_, _, _, _, .opened compiled resolved made hhook called⟩
    · rw [if_neg hon] at hhook
      exact ⟨_, _, _, _, .unhooked compiled resolved made hhook⟩
  · rintro ⟨es, entries, gate, w', hl⟩
    obtain ⟨unit, fresh, w₁, w₂, compiled, resolved, made, -, hcame⟩ := hl.of_ok
    obtain ⟨hentry, opens, closes, hopens, hcloses, rfl⟩ :=
      EntryPoints.resolve_eq_ok_iff.mp resolved
    refine ⟨unit, w₁, opens, closes, fresh, w₂, compiled, hentry, hopens, hcloses, made, ?_⟩
    intro hh ho
    have hhook : h.hook? (if opens then some .opening else none) = some .opening := by
      rw [hook?_opening, if_pos ⟨hh, ho⟩]
    obtain ⟨hnone, -, -⟩ | ⟨hook, v, hsome, called⟩ := hcame
    · cases hhook.symm.trans hnone
    · cases hhook.symm.trans hsome
      exact ⟨v, gate.inst, w', called⟩

theorem load_of_loading {s : Hosted σ ι} {source : String} {es : List EngineEvent}
    {r : Outcome ScriptError (EntryPoints × Gate ι)} {w' : World σ}
    (hidle : ¬ s.lifecycle.isReady) (hl : h.Loading source s.world es r w') :
    h.load source s = loadEnd s.lifecycle w' r := by
  rw [load, if_neg hidle, start_of_loading hl]
  rcases r with ⟨entries, gate⟩ | e | _ <;> rfl

theorem loadContract (s : Hosted σ ι) (source : String) : h.LoadContract s source := by
  obtain ⟨es, r, w', hl⟩ := h.exists_loading source s.world
  have hload := fun hidle : ¬ s.lifecycle.isReady => h.load_of_loading hidle hl
  have hready : s.lifecycle.isReady → h.load source s = (.error .alreadyInitialized, s) :=
    fun hr => by rw [load, if_pos hr]
  -- a load that goes one way cannot go another
  have hiff : h.Loads source s.world ↔ r.isOk := by
    rw [h.loads_iff]
    constructor
    · rintro ⟨es', entries, gate, w'', hl'⟩
      have := (start_of_loading hl).symm.trans (start_of_loading hl')
      rw [(Prod.mk.inj this).1]
      rfl
    · intro hok
      rcases r with ⟨entries, gate⟩ | e | _
      · exact ⟨es, entries, gate, w', hl⟩
      · cases hok
      · cases hok
  refine ⟨hready, fun hidle => ?_, fun hidle => ?_, fun hnot => ?_, fun hidle hl' =>
    h.load_of_loading hidle hl'⟩
  · rw [hload hidle, hiff]
    rcases r with ⟨entries, gate⟩ | e | _
    · simp [loadEnd, Outcome.isOk, Lifecycle.isReady]
    · simpa [loadEnd, Outcome.isOk] using hidle
    · simpa [loadEnd, Outcome.isOk] using hidle
  · rw [hload hidle, hiff]
    rcases r with ⟨entries, gate⟩ | e | _ <;> simp [loadEnd, Outcome.isOk]
  · by_cases hr : s.lifecycle.isReady
    · rw [hready hr]
    · rw [hload hr]
      rw [hiff] at hnot
      rcases r with ⟨entries, gate⟩ | e | _
      · exact absurd rfl hnot
      · rfl
      · rfl

theorem phase_transform (s : Hosted σ ι) (args : List Arg) :
    (h.transform args s).2.lifecycle.phase = s.lifecycle.phase := by
  obtain ⟨life, w⟩ := s
  cases life <;> rfl

theorem transformContract {s : Hosted σ ι} (args : List Arg)
    (hs : ∀ entries gate, s.lifecycle = .ready entries gate →
      entries.transform = h.entry ∧ gate.policy = h.policy) : h.TransformContract s args := by
  refine ⟨h.phase_transform s args, ?_, ?_, ?_⟩
  · intro hlife
    rw [transform, hlife]
  · intro hlife
    rw [transform, hlife]
  · intro entries gate o inst w' hlife hcall
    obtain ⟨hentry, hpolicy⟩ := hs entries gate hlife
    rw [← hentry, ← hpolicy] at hcall
    simp only [transform, hlife, Gate.call, Gate.enter, hcall]

theorem closeContract (s : Hosted σ ι) : h.CloseContract s := by
  obtain ⟨life, w⟩ := s
  refine ⟨?_, ?_, ?_, ?_, ?_⟩
  · rintro rfl
    rfl
  · rintro rfl
    rfl
  · intro hr
    cases life with
    | ready entries gate => rfl
    | unloaded => cases hr
    | closed => cases hr
  · rintro entries gate hook o inst w' rfl hhook hcall
    simp only [close, runHook_eq, hhook]
    rw [hcall]
    cases o <;> rfl
  · rintro entries gate rfl hhook
    simp only [close, runHook_eq, hhook]
    rfl

/-! ### Runs -/

theorem perform_load (source : String) (s : Hosted σ ι) : h.perform (.load source) s =
    ((h.load source s).1.map fun _ => none, (h.load source s).2) :=
  Attempt.bind_pure_apply _

theorem perform_transform (args : List Arg) (s : Hosted σ ι) : h.perform (.transform args) s =
    ((h.transform args s).1.map some, (h.transform args s).2) :=
  Attempt.bind_pure_apply _

theorem perform_close (s : Hosted σ ι) : h.perform .close s =
    ((h.close s).1.map fun _ => none, (h.close s).2) :=
  Attempt.bind_pure_apply _

theorem phase_perform (op : HostOp) (s : Hosted σ ι) :
    (h.perform op s).2.lifecycle.phase = s.lifecycle.phase.next op (h.perform op s).1.isOk := by
  cases op with
  | load source =>
    rw [perform_load]
    by_cases hr : s.lifecycle.isReady
    · rw [(h.loadContract s source).of_ready hr]
      rfl
    · obtain ⟨es, r, w', hl⟩ := h.exists_loading source s.world
      rw [h.load_of_loading hr hl]
      rcases r with ⟨entries, gate⟩ | e | _ <;> rfl
  | transform args =>
    rw [perform_transform, phase_transform]
    cases s.lifecycle.phase <;> rfl
  | close =>
    rw [perform_close]
    obtain ⟨life, w⟩ := s
    cases life <;> rfl

/-- The phases of a run are those that the success of its operations alone gives. -/
theorem phase_after (ops : List HostOp) (s : Hosted σ ι) :
    (h.after ops s).lifecycle.phase =
      (h.marks ops s).foldl (fun phase m => phase.next m.1 m.2) s.lifecycle.phase := by
  induction ops generalizing s with
  | nil => rfl
  | cons op rest ih =>
    rw [marks, List.foldl_cons, ← phase_perform]
    exact ih _

/-- A live instance has served nothing but records since it was loaded. -/
def Sound (s : Hosted σ ι) : Prop :=
  ∀ entries gate, s.lifecycle = .ready entries gate → h.Serving entries gate s.world

theorem sound_perform {s : Hosted σ ι} (hs : h.Sound s) (op : HostOp) :
    h.Sound (h.perform op s).2 := by
  cases op with
  | load source =>
    rw [perform_load]
    by_cases hr : s.lifecycle.isReady
    · rw [(h.loadContract s source).of_ready hr]
      exact hs
    · obtain ⟨es, r, w', hl⟩ := h.exists_loading source s.world
      rw [h.load_of_loading hr hl]
      intro entries gate hlife
      rcases r with ⟨entries', gate'⟩ | e | _
      · cases hlife
        exact .loaded hl
      · exact absurd (by rw [show s.lifecycle = _ from hlife]; rfl) hr
      · exact absurd (by rw [show s.lifecycle = _ from hlife]; rfl) hr
  | transform args =>
    rw [perform_transform]
    have contract := h.transformContract args fun entries gate hlife =>
      (hs entries gate hlife).entry
    cases hlife : s.lifecycle with
    | unloaded =>
      rw [contract.of_unloaded hlife]
      exact hs
    | closed =>
      rw [contract.of_closed hlife]
      exact hs
    | ready entries gate =>
      rcases called : h.engine.call h.policy.access h.entry args gate.inst s.world
        with ⟨o, inst, w'⟩
      rw [contract.of_ready hlife called]
      intro entries' gate' hlife'
      cases hlife'
      exact .called (hs entries gate hlife) called
  | close =>
    rw [perform_close]
    have contract := h.closeContract s
    intro entries gate hlife
    by_cases hr : s.lifecycle.isReady
    · rw [contract.closes hr] at hlife
      cases hlife
    · cases hcase : s.lifecycle with
      | unloaded =>
        rw [contract.of_unloaded hcase] at hlife ⊢
        exact hs entries gate hlife
      | closed =>
        rw [contract.of_closed hcase] at hlife ⊢
        exact hs entries gate hlife
      | ready _ _ => exact absurd (by rw [hcase]; rfl) hr

theorem sound_after {s : Hosted σ ι} (hs : h.Sound s) (ops : List HostOp) :
    h.Sound (h.after ops s) := by
  induction ops generalizing s with
  | nil => exact hs
  | cons op rest ih => exact ih (h.sound_perform hs op)

/-- **A host is a machine of three states, and no failure leaves it between two of them.** -/
theorem lifecycle_after (w : World σ) (ops : List HostOp) :
    let s := h.after ops ⟨.unloaded, w⟩
    s.lifecycle.phase = (h.marks ops ⟨.unloaded, w⟩).foldl (fun phase m => phase.next m.1 m.2)
        .unloaded ∧
      (∀ source, h.LoadContract s source) ∧ (∀ args, h.TransformContract s args) ∧
      h.CloseContract s ∧
      ∀ entries gate, s.lifecycle = .ready entries gate → h.Serving entries gate s.world := by
  intro s
  have hsound : h.Sound s := h.sound_after (fun _ _ hlife => by cases hlife) ops
  refine ⟨h.phase_after ops _, h.loadContract s, fun args => ?_, h.closeContract s, hsound⟩
  exact h.transformContract args fun entries gate hlife => (hsound entries gate hlife).entry

end Host

end RowScript
