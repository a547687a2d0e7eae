import RowScript.Proofs.Exits
import RowScript.Proofs.Validity
import RowScript.Script.Program

/-!
# Where errors come from

An error tells which operation failed and why. `Engine.Candid` is what an engine owes for this: it
fails to read a source with a compilation error only, and so on for each of its steps. The script
engine is such an engine (`candid_scriptEngine`), since it makes each error in one place for each step.

`Transformer.Failing` lists the errors that an operation can end with in a state. There is one lemma
for each operation (`failing_load`, `failing_transform`, `failing_close`), and what an error says of
its origin is read off the list (`Failing.isUsageError_iff`, `Failing.accounts`). Records of a run come
while the script is ready (`timely_of_performs`), where no operation but a load is out of place.
-/

namespace RowScript

/-! ### Engines -/

/-- A fault of calling a function, by its name. -/
inductive ScriptError.OfCall (name : String) : ScriptError → Prop
  | invocation (detail : String) : OfCall name (.invocation name detail)
  | timeout (limit : Duration) : OfCall name (.timeout name limit)

/-- A fault of running the statements outside of all functions. -/
inductive ScriptError.OfTop : ScriptError → Prop
  | instantiation (detail : String) : OfTop (.instantiation detail)
  | timeout (limit : Duration) : OfTop (.timeout "<top level>" limit)

/-- Each step of an engine fails with its own errors. -/
structure Engine.Candid {σ υ ι : Type} (E : Engine σ υ ι) : Prop where
  compiles : ∀ {source s e s'}, E.compileUnit source s = (.error e, s') →
    ∃ detail, e = .compilation detail
  defines : ∀ unit entry, ∃ found, E.defines unit entry = .ok found
  makes : ∀ {unit s e s'}, E.makeInstance unit s = (.error e, s') → e.OfTop
  calls : ∀ {access entry args inst s e inst' s'},
    E.runEntry access entry args inst s = (.error e, inst', s') → e.OfCall entry.name

theorem Halt.toError_eq (halt : Halt) (limit : Option Duration) (entry : String)
    (other : String → ScriptError) :
    (∃ detail, halt.toError limit entry other = other detail) ∨
      ∃ time, halt.toError limit entry other = .timeout entry time := by
  unfold toError
  split
  · exact .inr ⟨_, rfl⟩
  · exact .inl ⟨_, rfl⟩

theorem Outcome.of_mapError_eq_error {ε δ α : Type} {o : Outcome ε α} {f : ε → δ} {e : δ}
    (h : o.mapError f = .error e) : ∃ e', e = f e' := by
  cases o <;> cases h
  exact ⟨_, rfl⟩

/-- Whatever the interpreter is, the errors of its engine are made in one place for each step. -/
theorem Interpreter.candid_engine {σ α : Type} (I : Interpreter σ α) (limits : Limits)
    (example? : Kind → Option String) : (I.engine limits example?).Candid where
  compiles := by
    intro source s e s' h
    have ended : (((I.compile limits source s.engine.outside).1.mapError ScriptError.compilation).map
        fun script => (⟨script, limits⟩ : CompiledScript α)) = .error e := congrArg Prod.fst h
    cases read : (I.compile limits source s.engine.outside).1 <;> rw [read] at ended <;> cases ended
    exact ⟨_, rfl⟩
  defines unit entry := ⟨(I.functions unit.script).contains entry, rfl⟩
  makes := by
    intro unit s e s' h
    have ended : (I.makeInstance unit s).1 = .error e := congrArg Prod.fst h
    simp only [makeInstance] at ended
    cases ran : (I.visitTop unit s).1 with
    | error halt =>
      rw [ran] at ended
      obtain rfl : halt.toError unit.limits.timeout "<top level>" .instantiation = e :=
        Outcome.error.inj ended
      rcases halt.toError_eq unit.limits.timeout "<top level>" .instantiation with ⟨_, he⟩ | ⟨_, he⟩
      · exact he ▸ .instantiation _
      · exact he ▸ .timeout _
    | _ =>
      rw [ran] at ended
      cases ended
  calls := by
    intro access entry args i s e i' s' h
    have ended : (I.runEntry access entry args i s).1 = .error e := congrArg Prod.fst h
    obtain ⟨halt, rfl⟩ := Outcome.of_mapError_eq_error ended
    rcases halt.toError_eq i.compiled.limits.timeout entry.name (.invocation entry.name) with
      ⟨_, he⟩ | ⟨_, he⟩
    · exact he ▸ .invocation _
    · exact he ▸ .timeout _

theorem Engine.Candid.resting {σ υ ι : Type} {E : Engine σ υ ι} (candid : E.Candid) (rest : σ) :
    (E.resting rest).Candid where
  compiles := by
    intro source s e s' h
    have ended : (E.compileUnit source (s.withEngine rest)).1 = .error e := congrArg Prod.fst h
    exact candid.compiles (Prod.ext ended rfl)
  defines := candid.defines
  makes := by
    intro unit s e s' h
    have ended : (E.makeInstance unit (s.withEngine rest)).1 = .error e := congrArg Prod.fst h
    exact candid.makes (Prod.ext ended rfl)
  calls := by
    intro access entry args inst s e inst' s' h
    have ended : (E.runEntry access entry args inst (s.withEngine rest)).1 = .error e :=
      congrArg Prod.fst h
    exact candid.calls (Prod.ext ended rfl)

theorem candid_scriptEngine (limits : Limits) (example? : Kind → Option String) :
    (scriptEngine limits example?).Candid :=
  (Script.interpreter.candid_engine limits example?).resting _

namespace Engine

variable {σ υ ι : Type} {E : Engine σ υ ι} {w w' : World σ} {e : ScriptError}

theorem Candid.compile_error (h : E.Candid) {source : String}
    (hfails : E.compile source w = (.error e, w')) : ∃ detail, e = .compilation detail :=
  have herror : (E.compileUnit source w.scene).1 = .error e := congrArg Prod.fst hfails
  h.compiles (Prod.ext herror rfl)

theorem Candid.instantiate_error (h : E.Candid) {unit : υ}
    (hfails : E.instantiate unit w = (.error e, w')) : e.OfTop := by
  have herror : (E.makeInstance unit w.scene).1.map (Live.mk w.instances) = .error e :=
    congrArg Prod.fst hfails
  rcases hmade : E.makeInstance unit w.scene with ⟨o, s⟩
  rw [hmade] at herror
  cases o with
  | ok inst => cases herror
  | error e' =>
    cases herror
    exact h.makes hmade
  | aborted => cases herror

theorem Candid.call_error (h : E.Candid) {access : Access} {entry : EntryPoint} {args : List Arg}
    {inst inst' : Live ι} (hfails : E.call access entry args inst w = (.error e, inst', w')) :
    e.OfCall entry.name :=
  have herror : (E.runEntry access entry args inst.state w.scene).1 = .error e :=
    congrArg Prod.fst hfails
  h.calls (Prod.ext herror rfl)

theorem Candid.resolve_error (h : E.Candid) {unit : υ} {transform : EntryPoint}
    (hfails : EntryPoints.resolve (E.defines unit) transform = .error e) :
    e = .missingEntry transform := by
  obtain ⟨found, hfound⟩ := h.defines unit transform
  obtain ⟨opens, hopens⟩ := h.defines unit .opening
  obtain ⟨closes, hcloses⟩ := h.defines unit .closing
  cases found with
  | false =>
    rw [EntryPoints.resolve_of_undefined hfound] at hfails
    cases hfails
    rfl
  | true =>
    have hok := EntryPoints.resolve_eq_ok_iff.mpr ⟨hfound, opens, closes, hopens, hcloses, rfl⟩
    rw [hok] at hfails
    cases hfails

end Engine

/-! ### Operations -/

namespace Operation

/-- The function of the script that an operation calls. -/
def function : Operation → String
  | load => "initialize"
  | transform _ => "transform"
  | close => "close"

/-- The operation is out of place in a phase. -/
def Illegal : Operation → Phase → Prop
  | load, .ready => True
  | transform _, .unloaded | transform _, .closed => True
  | close, .unloaded => True
  | _, _ => False

theorem legal_load {phase : Phase} (idle : phase ≠ .ready) : ¬ load.Illegal phase := by
  cases phase with
  | ready => exact absurd rfl idle
  | unloaded => exact id
  | closed => exact id

end Operation

theorem Lifecycle.isReady_iff {ι : Type} (life : Lifecycle ι) :
    life.isReady ↔ life.phase = .ready := by
  cases life <;> simp [isReady, phase]

namespace Transformer

variable {σ υ ι τ : Type} (t : Transformer σ υ ι)

/-- The errors that an operation can end with in a phase. -/
inductive Failing : Operation → Phase → HostError → Prop
  | unconfigured {phase fault} (idle : phase ≠ .ready) : Failing .load phase (.config fault)
  | reloaded : Failing .load .ready .alreadyInitialized
  | setup {phase e} (idle : phase ≠ .ready) (h : e.isSetupFailure) : Failing .load phase (.script e)
  | top {phase limit} (idle : phase ≠ .ready) :
      Failing .load phase (.script (.timeout "<top level>" limit))
  | called {op phase e} (legal : ¬ op.Illegal phase) (h : e.OfCall op.function) :
      Failing op phase (.script e)
  | refused {row expected actual config} (variant : t.config.variant = .advanced config)
      (shape : config.shape = .reject) :
      Failing (.transform row) .ready (.shapeMismatch expected actual)
  | unloaded {op} (unloads : op ≠ .load) : Failing op .unloaded .notInitialized
  | closed {row} : Failing (.transform row) .closed .closed

/-- What the error of an operation says of its origin, and the state behind it. -/
structure Accounts (op : Operation) (e : HostError) (behind : Pipeline σ ι τ) : Prop where
  setup : ∀ fault, e = .script fault → fault.isSetupFailure →
    op = .load ∧ ¬ behind.lifecycle.isReady
  invocation : ∀ name detail, e = .script (.invocation name detail) → name = op.function
  timeout : ∀ name limit, e = .script (.timeout name limit) →
    name = op.function ∨ op = .load ∧ name = "<top level>"
  config : ∀ fault, e = .config fault → op = .load
  shape : ∀ expected actual, e = .shapeMismatch expected actual → ∃ row config,
    op = .transform row ∧ t.config.variant = .advanced config ∧ config.shape = .reject

variable {t}

/-- Errors of use come from operations that are out of place, and from no others. -/
theorem Failing.isUsageError_iff {op : Operation} {phase : Phase} {e : HostError}
    (h : t.Failing op phase e) : e.isUsageError ↔ op.Illegal phase := by
  cases h with
  | unconfigured idle =>
    exact iff_of_false (by simp [HostError.isUsageError]) (Operation.legal_load idle)
  | reloaded => exact iff_of_true rfl trivial
  | setup idle _ =>
    exact iff_of_false (by simp [HostError.isUsageError]) (Operation.legal_load idle)
  | top idle => exact iff_of_false (by simp [HostError.isUsageError]) (Operation.legal_load idle)
  | called legal _ => exact iff_of_false (by simp [HostError.isUsageError]) legal
  | refused _ _ => exact iff_of_false (by simp [HostError.isUsageError]) id
  | unloaded unloads =>
    refine iff_of_true rfl ?_
    cases op with
    | load => exact absurd rfl unloads
    | transform row => trivial
    | close => trivial
  | closed => exact iff_of_true rfl trivial

theorem Failing.accounts {op : Operation} {phase : Phase} {e : HostError} (h : t.Failing op phase e)
    {behind : Pipeline σ ι τ} (hkept : op = .load → behind.lifecycle.phase = phase) :
    t.Accounts op e behind := by
  cases h with
  | unconfigured idle => exact ⟨by simp, by simp, by simp, fun _ _ => rfl, by simp⟩
  | reloaded => exact ⟨by simp, by simp, by simp, by simp, by simp⟩
  | setup idle h =>
    refine ⟨fun fault _ _ => ⟨rfl, fun hready => idle ?_⟩, ?_, ?_, by simp, by simp⟩
    · rw [← hkept rfl, ← Lifecycle.isReady_iff]
      exact hready
    · rintro name detail ⟨⟩
      cases h
    · rintro name limit ⟨⟩
      cases h
  | top idle =>
    refine ⟨?_, by simp, fun name limit heq => ?_, by simp, by simp⟩
    · rintro fault ⟨⟩ hfault
      cases hfault
    · cases heq
      exact .inr ⟨rfl, rfl⟩
  | called legal h =>
    refine ⟨?_, ?_, ?_, by simp, by simp⟩
    · rintro fault ⟨⟩ hfault
      cases h <;> cases hfault
    · rintro name detail ⟨⟩
      cases h
      rfl
    · rintro name limit ⟨⟩
      cases h
      exact .inl rfl
  | refused variant shape =>
    exact ⟨by simp, by simp, by simp, by simp, fun _ _ _ => ⟨_, _, rfl, variant, shape⟩⟩
  | unloaded unloads => exact ⟨by simp, by simp, by simp, by simp, by simp⟩
  | closed => exact ⟨by simp, by simp, by simp, by simp, by simp⟩

/-! ### Operations that fail -/

/-- The closing hook of a live script, if it has one, has the name of the operation that calls it. -/
def Hooked (life : Lifecycle ι) : Prop :=
  ∀ entries gate, life = .ready entries gate →
    ∀ hook, entries.closing = some hook → hook = .closing

theorem hooks_of_resolve {defines : EntryPoint → Outcome ScriptError Bool} {transform : EntryPoint}
    {entries : EntryPoints} (h : EntryPoints.resolve defines transform = .ok entries) :
    (∀ hook, entries.opening = some hook → hook = .opening) ∧
      ∀ hook, entries.closing = some hook → hook = .closing := by
  obtain ⟨-, opens, closes, -, -, rfl⟩ := EntryPoints.resolve_eq_ok_iff.mp h
  constructor
  · intro hook hhook
    cases opens with
    | false => cases hhook
    | true => exact (Option.some.inj hhook).symm
  · intro hook hhook
    cases closes with
    | false => cases hhook
    | true => exact (Option.some.inj hhook).symm

theorem hook?_eq_some {h : Host σ υ ι} {hook : Option EntryPoint} {entry : EntryPoint}
    (heq : h.hook? hook = some entry) : h.hooks ∧ hook = some entry := by
  unfold Host.hook? at heq
  split at heq
  · next hhooks => exact ⟨hhooks, heq⟩
  · cases heq

theorem failing_loading (candid : t.engine.Candid) {source : String} {w w' : World σ}
    {es : List EngineEvent} {e : ScriptError} {phase : Phase} (idle : phase ≠ .ready)
    (hl : t.host.Loading source w es (.error e) w') : t.Failing .load phase (.script e) := by
  cases hl with
  | uncompiled compiled fails =>
    cases fails
    obtain ⟨detail, rfl⟩ := candid.compile_error (t.host_engine ▸ compiled)
    exact .setup idle rfl
  | unresolved compiled resolved fails =>
    cases fails
    rw [t.host_engine] at resolved
    obtain rfl := candid.resolve_error resolved
    exact .setup idle rfl
  | unmade compiled resolved made fails =>
    cases fails
    cases candid.instantiate_error (t.host_engine ▸ made) with
    | instantiation detail => exact .setup idle rfl
    | timeout limit => exact .top idle
  | unopened compiled resolved made hooked called fails =>
    cases fails
    obtain rfl := (hooks_of_resolve resolved).1 _ (hook?_eq_some hooked).2
    exact .called (Operation.legal_load idle) (candid.call_error (t.host_engine ▸ called))

theorem failing_load (candid : t.engine.Candid) {p : Pipeline σ ι τ}
    (hloadable : p.lifecycle.isReady → t.config.Loadable t.engine.example?) {e : HostError}
    (h : (t.load p).1 = .error e) :
    t.Failing .load p.lifecycle.phase e ∧ (t.load p).2.lifecycle = p.lifecycle := by
  by_cases hready : p.lifecycle.isReady
  · rw [t.load_of_ready (hloadable hready) hready] at h ⊢
    cases h
    rw [p.lifecycle.isReady_iff.mp hready]
    exact ⟨.reloaded, rfl⟩
  · have idle : p.lifecycle.phase ≠ .ready := mt p.lifecycle.isReady_iff.mpr hready
    unfold load at h ⊢
    cases hsource : t.config.source t.engine.example? with
    | error fault =>
      rw [hsource] at h
      cases h
      exact ⟨.unconfigured idle, rfl⟩
    | ok source =>
      rw [hsource] at h
      obtain ⟨es, r, w', hl⟩ := t.host.exists_loading source p.toHosted.world
      have hload := t.host.load_of_loading hready hl
      have h' : (t.host.load source p.toHosted).1 = .error e := h
      have hkept : (Pipeline.onHost (t.host.load source) p).2.lifecycle =
          (t.host.load source p.toHosted).2.lifecycle := rfl
      rw [hkept]
      rw [hload] at h' ⊢
      rcases r with ⟨entries, gate⟩ | fault | _
      · cases h'
      · cases h'
        exact ⟨failing_loading candid idle hl, rfl⟩
      · cases h'

theorem failing_call (candid : t.engine.Candid) (row : Row) {entry : EntryPoint}
    (hentry : entry = t.host.entry) {gate gate' : Gate ι} {args : List Arg} {w w' : World σ}
    {fault : ScriptError} (hcall : gate.call t.engine entry args w = (.error fault, gate', w')) :
    t.Failing (.transform row) .ready (.script fault) := by
  have hname : entry.name = "transform" := by
    rw [hentry]
    unfold host
    split <;> rfl
  rcases hengine : t.engine.call gate.policy.access entry args gate.inst w with ⟨o, inst, w''⟩
  rw [Gate.call, Gate.enter, hengine] at hcall
  cases hcall
  have hfault := candid.call_error hengine
  rw [hname] at hfault
  exact .called id hfault

theorem failing_transform_ready [RowSink τ] (candid : t.engine.Candid) (row : Row)
    {entries : EntryPoints} {gate : Gate ι} (hentry : entries.transform = t.host.entry)
    {w : World σ} {sink : τ} {e : HostError}
    (h : (t.transform row ⟨⟨.ready entries gate, w⟩, sink⟩).1 = .error e) :
    t.Failing (.transform row) .ready e := by
  rcases t.config.variant.single_or_advanced with hsingle | ⟨config, hvariant⟩
  · rw [t.transform_of_single hsingle] at h
    simp only [Host.transform, host_engine] at h
    rcases hcall : gate.call t.engine entries.transform
      [.values (toValueMap t.config.inputs row)] w with ⟨o, g, w'⟩
    rw [hcall] at h
    cases o with
    | ok returned => cases h
    | aborted => cases h
    | error fault =>
      cases h
      exact failing_call candid row hentry hcall
  · rw [t.transform_of_advanced hvariant, t.transformCollecting_ready] at h
    cases hcall : (t.collectingCall entries gate row w).outcome with
    | aborted =>
      simp only [hcall] at h
      cases h
    | error fault =>
      simp only [hcall] at h
      cases h
      exact failing_call candid row hentry (Prod.ext hcall rfl)
    | ok returned =>
      cases hrefused : config.refused? (t.collectingCall entries gate row w).emitted with
      | none =>
        simp only [hcall, hrefused] at h
        cases h
      | some values =>
        simp only [hcall, hrefused] at h
        cases h
        exact .refused hvariant ((config.refused?_eq_some_iff _).mp ⟨values, hrefused⟩).1

theorem failing_transform [RowSink τ] (candid : t.engine.Candid) (row : Row) {p : Pipeline σ ι τ}
    (hsuits : t.Suits p.lifecycle) {e : HostError} (h : (t.transform row p).1 = .error e) :
    t.Failing (.transform row) p.lifecycle.phase e := by
  obtain ⟨⟨life, w⟩, sink⟩ := p
  by_cases hready : life.isReady
  · obtain ⟨entries, gate, rfl⟩ := Lifecycle.exists_of_isReady hready
    exact failing_transform_ready candid row (hsuits entries gate rfl).1 h
  · obtain ⟨e', w', hrun, -, -, rfl⟩ := t.transform_unnoted hready row w sink
    rw [hrun] at h
    cases life with
    | unloaded =>
      cases h
      exact .unloaded (by simp)
    | closed =>
      cases h
      exact .closed
    | ready entries gate => exact absurd rfl hready

theorem failing_close (candid : t.engine.Candid) {p : Pipeline σ ι τ} (hhooked : Hooked p.lifecycle)
    {e : HostError} (h : (t.close p).1 = .error e) : t.Failing .close p.lifecycle.phase e := by
  obtain ⟨⟨life, w⟩, sink⟩ := p
  have h' : (t.host.close ⟨life, w⟩).1 = .error e := h
  have contract := t.host.closeContract ⟨life, w⟩
  cases life with
  | unloaded =>
    rw [contract.of_unloaded rfl] at h'
    cases h'
    exact .unloaded (by simp)
  | closed =>
    rw [contract.of_closed rfl] at h'
    cases h'
  | ready entries gate =>
    rcases hhook : t.host.hook? entries.closing with _ | hook
    · rw [contract.of_unhooked rfl hhook] at h'
      cases h'
    · obtain rfl := hhooked entries gate rfl hook (hook?_eq_some hhook).2
      rcases hcall : t.host.engine.call .exclusive .closing [] gate.inst w with ⟨o, inst, w'⟩
      rw [contract.of_hook rfl hhook hcall] at h'
      cases o with
      | ok v => cases h'
      | aborted => cases h'
      | error fault =>
        cases h'
        exact .called id (candid.call_error (t.host_engine ▸ hcall))

/-! ### Runs of operations -/

section Run

variable [RowSink τ]

theorem Turns.hooked {life life' : Lifecycle ι} {op : Operation} (turns : t.Turns life op life')
    (h : Hooked life) : Hooked life' := by
  cases turns with
  | kept => exact h
  | began _ _ loading =>
    rintro _ _ ⟨⟩
    obtain ⟨unit, fresh, w₁, w₂, -, resolved, -⟩ := loading.of_ok
    exact (hooks_of_resolve resolved).2
  | @called entries gate =>
    rintro _ _ ⟨⟩
    exact h entries gate rfl
  | ended => rintro _ _ ⟨⟩

theorem hooked_after (ops : List Operation) {p : Pipeline σ ι τ} (h : Hooked p.lifecycle) :
    Hooked (t.after ops p).lifecycle := by
  induction ops generalizing p with
  | nil => exact h
  | cons op rest ih => exact ih ((t.turns_perform op p).hooked h)

/-- What an operation that fails in a state of a run ends with. -/
theorem failing_perform (candid : t.engine.Candid) (op : Operation) {p : Pipeline σ ι τ}
    (hloadable : p.lifecycle.isReady → t.config.Loadable t.engine.example?)
    (hsuits : t.Suits p.lifecycle) (hhooked : Hooked p.lifecycle) {e : HostError}
    (h : (t.perform op p).1 = .error e) :
    t.Failing op p.lifecycle.phase e ∧
      (op = .load → (t.perform op p).2.lifecycle.phase = p.lifecycle.phase) := by
  have unmapped : ∀ {o : Outcome HostError Unit},
      (o.map fun _ => (none : Option OutputRow)) = .error e → o = .error e := by
    intro o ho
    cases o with
    | error _ => exact congrArg _ (Outcome.error.inj ho)
    | ok _ => cases ho
    | aborted => cases ho
  cases op with
  | load =>
    rw [t.perform_load] at h ⊢
    obtain ⟨hfailing, hkept⟩ := failing_load candid hloadable (unmapped h)
    exact ⟨hfailing, fun _ => congrArg Lifecycle.phase hkept⟩
  | transform row => exact ⟨failing_transform candid row hsuits h, by simp⟩
  | close =>
    rw [t.perform_close] at h
    exact ⟨failing_close candid hhooked (unmapped h), by simp⟩

theorem fails_of_illegal {op : Operation} {p : Pipeline σ ι τ}
    (hloadable : p.lifecycle.isReady → t.config.Loadable t.engine.example?)
    (h : op.Illegal p.lifecycle.phase) : ∃ e, (t.perform op p).1 = .error e := by
  obtain ⟨⟨life, w⟩, sink⟩ := p
  cases op with
  | load =>
    cases life with
    | unloaded => cases h
    | closed => cases h
    | ready entries gate =>
      rw [t.perform_load, t.load_of_ready (hloadable rfl) rfl]
      exact ⟨_, rfl⟩
  | transform row =>
    have idle : ¬ life.isReady := by
      intro hready
      obtain ⟨entries, gate, rfl⟩ := Lifecycle.exists_of_isReady hready
      cases h
    obtain ⟨e, w', hrun, -⟩ := t.transform_unnoted idle row w sink
    exact ⟨e, congrArg Prod.fst hrun⟩
  | close =>
    cases life with
    | unloaded =>
      rw [t.perform_close]
      exact ⟨_, rfl⟩
    | closed => cases h
    | ready entries gate => cases h

end Run

end Transformer

/-! ### Runs of jobs -/

namespace Run

open Running Attempt

variable {φ σ υ ι : Type} {store : Store φ} {t : Transformer σ υ ι} {p : PlacedJob}
  {options : RunOptions}

/-- A run that fails does so by one of its effects. -/
theorem Straight.blamed {done : List Done} {o : Outcome RunFault Unit} (h : Straight done o)
    (fails : ¬ o.isOk) : ∃ e, (e, o) ∈ done := by
  induction h with
  | done => exact absurd rfl fails
  | failed _ _ => exact ⟨_, List.mem_singleton.mpr rfl⟩
  | passed _ _ ih =>
    obtain ⟨e, he⟩ := ih fails
    exact ⟨e, List.mem_cons_of_mem _ he⟩

theorem Serving.blamed {done : List Done} {o : Outcome RunFault Unit} (h : Serving done o)
    (fails : ¬ o.isOk) : ∃ e, (e, o) ∈ done := by
  cases h with
  | uncreated _ => exact ⟨.create, by simp⟩
  | unheaded _ => exact ⟨.header, by simp⟩
  | processed straight =>
    obtain ⟨e, he⟩ := straight.blamed fails
    exact ⟨e, by simp [he]⟩

theorem Lived.blamed {done : List Done} {o : Outcome RunFault Unit} (h : Lived done o)
    (fails : ¬ o.isOk) : ∃ e, (e, o) ∈ done := by
  cases h with
  | aborted serving =>
    obtain ⟨e, he⟩ := serving.blamed (by simp [Outcome.isOk])
    exact ⟨e, he⟩
  | @closed done o closing serving returned =>
    cases o with
    | aborted => exact absurd rfl returned
    | error fault =>
      obtain ⟨e, he⟩ := serving.blamed (by simp [Outcome.isOk])
      cases closing with
      | aborted => exact ⟨.close, List.mem_append_right _ (List.mem_singleton.mpr rfl)⟩
      | ok _ => exact ⟨e, List.mem_append_left _ he⟩
      | error _ => exact ⟨e, List.mem_append_left _ he⟩
    | ok _ =>
      refine ⟨.close, List.mem_append_right _ (List.mem_singleton.mpr ?_)⟩
      cases closing <;> rfl

theorem Course.blamed {done : List Done} {o : Outcome RunFault Unit} (h : Course done o)
    (fails : ¬ o.isOk) : ∃ e, (e, o) ∈ done := by
  cases h with
  | unread _ => exact ⟨.read, by simp⟩
  | unloaded _ => exact ⟨.load, by simp⟩
  | failed lived _ =>
    obtain ⟨e, he⟩ := lived.blamed fails
    exact ⟨e, by simp [he]⟩
  | flushed _ _ => exact ⟨.flush, by simp⟩

variable (store t p options) in
theorem record_apply (number : Nat) (row : Row) (r : Running φ σ ι) :
    ((Effect.record number row).attempt store t p options r).1 =
      judged options.onError number (t.transform row r.toPipeline).1 := rfl

theorem mapError_eq_error {s ε δ α : Type} {x : Attempt s ε α} {f : ε → δ} {state : s} {e : δ}
    (h : (x.mapError f state).1 = .error e) : ∃ e', f e' = e := by
  rcases hx : x state with ⟨o, state'⟩
  rw [mapError_apply_of f hx] at h
  cases o with
  | ok a => cases h
  | error e' => exact ⟨e', Outcome.error.inj h⟩
  | aborted => cases h

theorem readRows_ne_recordFailed (r : Running φ σ ι) (number : Nat) (error : HostError) :
    (readRows store t p options r).1 ≠ .error (.recordFailed number error) := by
  intro h
  unfold readRows at h
  cases hpath : p.inputPath? options with
  | some path =>
    simp only [hpath, readFile] at h
    rw [bind_apply_of_ok read_apply] at h
    cases hdata : store.read r.files path with
    | error fault =>
      simp only [hdata] at h
      cases hlate : fault.isLate <;> simp [hlate] at h
    | ok data =>
      simp only [hdata] at h
      obtain ⟨_, he⟩ := mapError_eq_error h
      cases he
  | none =>
    cases hsource : p.job.source with
    | none => simp [hpath, hsource] at h
    | some source => cases source <;> simp [hpath, hsource] at h

theorem record_of_recordFailed {e : Effect} {r : Running φ σ ι} {number : Nat} {error : HostError}
    (h : (e.attempt store t p options r).1 = .error (.recordFailed number error)) :
    ∃ number row, e = .record number row := by
  cases e with
  | record number row => exact ⟨number, row, rfl⟩
  | read =>
    rw [Effect.attempt, bind_pure_apply fun _ => ()] at h
    have hread : (readRows store t p options r).1 ≠ .error (.recordFailed number error) :=
      readRows_ne_recordFailed r number error
    generalize (readRows store t p options r).1 = o at h hread
    cases o with
    | ok rows => cases h
    | error fault => exact absurd (congrArg _ (Outcome.error.inj h)) hread
    | aborted => cases h
  | load =>
    obtain ⟨_, he⟩ := mapError_eq_error h
    cases he
  | create =>
    obtain ⟨_, he⟩ := mapError_eq_error h
    cases he
  | header =>
    obtain ⟨_, he⟩ := mapError_eq_error h
    cases he
  | write row =>
    obtain ⟨_, he⟩ := mapError_eq_error h
    cases he
  | close =>
    obtain ⟨_, he⟩ := mapError_eq_error h
    cases he
  | flush =>
    obtain ⟨_, he⟩ := mapError_eq_error h
    cases he

theorem judged_eq_error {onError : OnError} {number : Nat}
    {called : Outcome HostError (Option OutputRow)} {fault : RunFault}
    (hproper : ∀ e, called = .error e → ¬ e.isUsageError)
    (h : judged onError number called = .error fault) :
    onError = .fail ∧ ∃ e, called = .error e ∧ fault = .recordFailed number e := by
  cases called with
  | ok back => cases h
  | aborted => cases h
  | error e =>
    cases onError with
    | skip => simp [judged, hproper e rfl] at h
    | fail =>
      simp only [judged] at h
      cases h
      exact ⟨rfl, e, rfl, rfl⟩

/-- Each effect of a run ended as its attempt did. -/
theorem Performs.attempted {r r' : Running φ σ ι} {done : List Done}
    (h : Performs store t p options r done r') {e : Effect} {o : Outcome RunFault Unit}
    (hmem : (e, o) ∈ done) : ∃ r₁, (e.attempt store t p options r₁).1 = o := by
  induction h with
  | nothing _ => cases hmem
  | effect _ performed _ ih =>
    rcases List.mem_cons.mp hmem with heq | hmem
    · cases heq
      exact ⟨_, congrArg Prod.fst performed⟩
    · exact ih hmem

/-- A record is judged by the call of a ready script, which does not say that it came at the wrong
time. -/
def Timely (t : Transformer σ υ ι) (onError : OnError) (number : Nat) (row : Row)
    (o : Outcome RunFault Unit) : Prop :=
  ∃ s : Pipeline σ ι RowBuffer, s.lifecycle.phase = .ready ∧
    o = judged onError number (t.transform row s).1 ∧
      ∀ e, (t.transform row s).1 = .error e → ¬ e.isUsageError

theorem timely_of_performs (candid : t.engine.Candid) {r r' : Running φ σ ι} {done : List Done}
    (h : Performs store t p options r done r') (hload : ∀ d ∈ done, d.1 ≠ .load)
    (hsuits : t.Suits r.lifecycle) (hready : r.lifecycle.phase = .ready)
    (ordered : done.Pairwise fun d d' => d.1.Before d'.1) :
    ∀ number row o, (.record number row, o) ∈ done → Timely t options.onError number row o := by
  induction h with
  | nothing _ => simp
  | @effect r r₁ r₂ r' e o done alike performed others ih =>
    have hlifecycle := Hosted.lifecycle_of_silent_eq alike.host
    obtain ⟨hbefore, hordered⟩ := List.pairwise_cons.mp ordered
    obtain ⟨hsuits₂, -, hkept, -⟩ :=
      stepsOn_of_attempt (hload _ List.mem_cons_self) (hlifecycle ▸ hsuits) performed
    intro number row o' hmem
    rcases List.mem_cons.mp hmem with heq | hmem
    · cases heq
      refine ⟨r₁.toPipeline, ?_, ?_, fun fault hfault => ?_⟩
      · rw [hlifecycle, hready]
      · rw [← record_apply store t p options, performed]
      · have hfailing := t.failing_transform candid row (hlifecycle ▸ hsuits) hfault
        rw [hfailing.isUsageError_iff, hlifecycle, hready]
        exact id
    · -- behind a close there are no records
      have hclose : ¬ e.isClose := by
        intro hclose
        rcases hbefore _ hmem with hstage | ⟨hrecord, -⟩
        · rw [Effect.stage_of_isClose hclose] at hstage
          simp [Effect.stage] at hstage
        · cases e <;> cases hclose
          cases hrecord
      exact ih (fun d hd => hload d (List.mem_cons_of_mem _ hd)) hsuits₂
        ((hkept hclose).trans (hlifecycle ▸ hready)) hordered number row o' hmem

variable (store t p options) in
/-- What a run tells of its records: none of them comes at the wrong time, so under `skip` no record
that fails ends it. -/
structure Proper (result : Outcome RunFault Unit × Running φ σ ι) (world : World σ) (files : φ) :
    Prop where
  records : ∃ done, Performs store t p options (.new world files) done result.2 ∧
    Course done result.1 ∧ ∀ number row o, (.record number row, o) ∈ done →
      Timely t options.onError number row o ∧
        (options.onError = .skip → ∀ fault, o ≠ .error fault)
  told : ∀ number e, result.1 = .error (.recordFailed number e) →
    options.onError = .fail ∧ ¬ e.isUsageError

theorem Course.loaded {done : List Done} {o : Outcome RunFault Unit} (h : Course done o) {d : Done}
    (hd : d ∈ done) (hrecord : d.1.isOfRecord) :
    ∃ rest, done = (.read, .ok ()) :: (.load, .ok ()) :: rest ∧ d ∈ rest ∧ Ordered 2 6 rest := by
  have inRest : ∀ {loaded rest}, d ∈ (.read, .ok ()) :: (.load, loaded) :: rest → d ∈ rest := by
    intro loaded rest hd
    rcases List.mem_cons.mp hd with rfl | hd
    · cases hrecord
    · rcases List.mem_cons.mp hd with rfl | hd
      · cases hrecord
      · exact hd
  cases h with
  | unread _ =>
    cases List.mem_singleton.mp hd
    cases hrecord
  | unloaded _ => cases inRest hd
  | failed lived _ => exact ⟨_, rfl, inRest hd, lived.ordered.weaken (by omega)⟩
  | flushed lived _ => exact ⟨_, rfl, inRest hd, lived.ordered.concat rfl (by omega)⟩

variable (store p options) in
theorem proper_of_complete (candid : t.engine.Candid) (world : World σ) (files : φ) :
    Proper store t p options (complete store t p options (.new world files)) world files := by
  obtain ⟨done, performs, course, -, -⟩ :=
    course_of_complete store t p options (r := (.new world files : Running φ σ ι)) rfl
  have records : ∀ number row o, (.record number row, o) ∈ done →
      Timely t options.onError number row o := by
    intro number row o hmem
    obtain ⟨rest, rfl, hrest, ordered⟩ := course.loaded hmem rfl
    obtain ⟨r₁, alike, others⟩ := alike_of_performs_read performs
    cases others with
    | @effect _ r₂ r₃ _ _ _ _ alike₂ performed others =>
      obtain ⟨hsuits, hphase, -⟩ :=
        begins_of_attempt (Hosted.lifecycle_of_silent_eq (alike.trans alike₂).host) performed []
      exact timely_of_performs candid others (ordered.loadless (by omega)) hsuits hphase ordered.1
        number row o hrest
  refine ⟨⟨done, performs, course, fun number row o hmem => ?_⟩, fun number e hresult => ?_⟩
  · obtain ⟨s, hready, rfl, hproper⟩ := records number row o hmem
    refine ⟨⟨s, hready, rfl, hproper⟩, fun hskip fault hfault => ?_⟩
    rw [(judged_eq_error hproper hfault).1] at hskip
    cases hskip
  · obtain ⟨effect, hmem⟩ := course.blamed (by simp [hresult, Outcome.isOk])
    rw [hresult] at hmem
    obtain ⟨r₁, hattempt⟩ := performs.attempted hmem
    obtain ⟨number', row, rfl⟩ := record_of_recordFailed hattempt
    obtain ⟨s, -, hjudged, hproper⟩ := records number' row _ hmem
    obtain ⟨hpolicy, e', hcalled, hfault⟩ := judged_eq_error hproper hjudged.symm
    cases hfault
    exact ⟨hpolicy, hproper e hcalled⟩

end Run

open Run in
/-- **An error tells which operation failed and why.** In each state that operations on a transformer
with the script engine can reach: an operation ends with an error of use if and only if it is out of
place there, for a load behind the check of its configuration. Each other error names the operation that
it comes from. So no record of a run ends with an error of use, and under `skip` none ends the run. -/
theorem Transformer.error_provenance (limits : Limits) (example? : Kind → Option String)
    (config : TransformerConfig) :
    let t : Transformer Unit ScriptUnit ScriptInstance := ⟨scriptEngine limits example?, config⟩
    (∀ {τ : Type} [RowSink τ] (w : World Unit) (sink : τ) (ops : List Operation) (op : Operation),
      let p := t.after ops (.new w sink)
      ((∃ e, (t.perform op p).1 = .error e ∧ e.isUsageError) ↔ op.Illegal p.lifecycle.phase) ∧
      ∀ e, (t.perform op p).1 = .error e → t.Accounts op e (t.perform op p).2) ∧
    ∀ {φ : Type} (store : Store φ) (p : PlacedJob) (options : RunOptions) (world : World Unit)
      (files : φ), Proper store t p options (complete store t p options (.new world files)) world
        files := by
  intro t
  have candid : t.engine.Candid := candid_scriptEngine limits example?
  refine ⟨?_, fun store p options world files => proper_of_complete store p options candid world files⟩
  intro τ _ w sink ops op p
  have vetted : t.Vetted w p := vetted_after (t.vetted_new w sink) ops
  have hooked : Hooked p.lifecycle := hooked_after ops (by rintro _ _ ⟨⟩)
  have failing := fun {e} => failing_perform (e := e) candid op vetted.loadable vetted.suits hooked
  refine ⟨⟨?_, fun illegal => ?_⟩, fun e h => (failing h).1.accounts (failing h).2⟩
  · rintro ⟨e, h, husage⟩
    exact (failing h).1.isUsageError_iff.mp husage
  · obtain ⟨e, h⟩ := fails_of_illegal vetted.loadable illegal
    exact ⟨e, h, (failing h).1.isUsageError_iff.mpr illegal⟩

end RowScript
