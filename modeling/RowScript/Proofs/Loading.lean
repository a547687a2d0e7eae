import RowScript.Host

/-!
# How a load goes

`Host.Loading` tells the stages of a load by what the engine did in each: the source is compiled,
the entry points are looked up, an instance is made, and the opening hook is called. A load ends at
the first stage that fails, and as that stage ended. Beside its end a load has its engine events.

Loading describes `Host.start` exactly: each load goes in one of these ways (`exists_loading`), and
a way that a load can go is the way it goes (`start_of_loading`).
-/

namespace RowScript

/-- One attempt fails as another one did. -/
inductive Outcome.FailsAs {ε α β : Type} : Outcome ε α → Outcome ε β → Prop
  | error (e : ε) : FailsAs (.error e) (.error e)
  | aborted : FailsAs .aborted .aborted

theorem Outcome.failsAs_or_ok {ε α : Type} (β : Type) (o : Outcome ε α) :
    (∃ r : Outcome ε β, o.FailsAs r) ∨ ∃ a, o = .ok a := by
  cases o with
  | ok a => exact .inr ⟨a, rfl⟩
  | error e => exact .inl ⟨_, .error e⟩
  | aborted => exact .inl ⟨_, .aborted⟩

namespace EntryPoints

variable {defines : EntryPoint → Outcome ScriptError Bool} {transform : EntryPoint}

theorem resolve_of_undefined (h : defines transform = .ok false) :
    resolve defines transform = .error (.missingEntry transform) := by
  simp [resolve, bind, h]

theorem resolve_eq_ok_iff {entries : EntryPoints} :
    resolve defines transform = .ok entries ↔ defines transform = .ok true ∧
      ∃ opens closes, defines .opening = .ok opens ∧ defines .closing = .ok closes ∧
        entries = ⟨if opens then some .opening else none, transform,
          if closes then some .closing else none⟩ := by
  constructor
  · intro h
    rcases htransform : defines transform with defined | e | _
    · cases defined with
      | false =>
        rw [resolve_of_undefined htransform] at h
        cases h
      | true =>
        rcases hopens : defines .opening with opens | e | _
        · rcases hcloses : defines .closing with closes | e | _
          · simp [resolve, bind, pure, htransform, hopens, hcloses] at h
            exact ⟨rfl, opens, closes, rfl, rfl, h.symm⟩
          all_goals simp [resolve, bind, pure, htransform, hopens, hcloses] at h
        all_goals simp [resolve, bind, htransform, hopens] at h
    all_goals simp [resolve, bind, htransform] at h
  · rintro ⟨htransform, opens, closes, hopens, hcloses, rfl⟩
    simp [resolve, bind, pure, htransform, hopens, hcloses]

end EntryPoints

namespace Engine

variable {σ υ ι : Type} {E : Engine σ υ ι} {source : String} {unit : υ} {w w₁ w₂ w₃ : World σ}

theorem made_noted {o : Outcome ScriptError (Live ι)}
    (compiled : E.compile source w = (.ok unit, w₁)) (made : E.instantiate unit w₁ = (o, w₂)) :
    w₂.events.toList = w.events.toList ++ [.compile source, .instantiate w.instances] ∧
      w₂.instances = w.instances + 1 := by
  obtain ⟨e₁, n₁⟩ := compile_noted compiled
  obtain ⟨e₂, n₂⟩ := instantiate_noted made
  exact ⟨by simp [e₂, e₁, n₁], by rw [n₂, n₁]⟩

theorem number_of_made {inst : Live ι} (compiled : E.compile source w = (.ok unit, w₁))
    (made : E.instantiate unit w₁ = (.ok inst, w₂)) : inst.number = w.instances := by
  obtain ⟨-, -, hnumber⟩ := of_instantiate made
  exact hnumber.trans (compile_noted compiled).2

theorem opened_noted {inst inst' : Live ι} {access : Access} {hook : EntryPoint} {args : List Arg}
    {o : Outcome ScriptError Value} (compiled : E.compile source w = (.ok unit, w₁))
    (made : E.instantiate unit w₁ = (.ok inst, w₂))
    (called : E.call access hook args inst w₂ = (o, inst', w₃)) :
    w₃.events.toList = w.events.toList ++ [.compile source, .instantiate w.instances,
        .call w.instances hook access (args.map w₂.see)] ∧
      w₃.instances = w.instances + 1 ∧ inst'.number = w.instances := by
  obtain ⟨e₂, n₂⟩ := made_noted compiled made
  obtain ⟨e₃, n₃, hnumber⟩ := call_noted called
  have hmade := number_of_made compiled made
  exact ⟨by simp [e₃, e₂, hmade], n₃.trans n₂, hnumber.trans hmade⟩

end Engine

namespace Host

variable {σ υ ι : Type} (h : Host σ υ ι)

/-- The hook that is called, if any is. -/
def hook? (hook : Option EntryPoint) : Option EntryPoint := if h.hooks then hook else none

/-- A way for a load to go: its engine events, its end, and the world it leaves. -/
inductive Loading (source : String) (w : World σ) :
    List EngineEvent → Outcome ScriptError (EntryPoints × Gate ι) → World σ → Prop
  | uncompiled {o r w₁} (compiled : h.engine.compile source w = (o, w₁)) (fails : o.FailsAs r) :
      Loading source w [.compile source] r w₁
  | unresolved {unit o r w₁} (compiled : h.engine.compile source w = (.ok unit, w₁))
      (resolved : EntryPoints.resolve (h.engine.defines unit) h.entry = o) (fails : o.FailsAs r) :
      Loading source w [.compile source] r w₁
  | unmade {unit entries o r w₁ w₂} (compiled : h.engine.compile source w = (.ok unit, w₁))
      (resolved : EntryPoints.resolve (h.engine.defines unit) h.entry = .ok entries)
      (made : h.engine.instantiate unit w₁ = (o, w₂)) (fails : o.FailsAs r) :
      Loading source w [.compile source, .instantiate w.instances] r w₂
  | unopened {unit entries inst hook o r inst' w₁ w₂ w₃}
      (compiled : h.engine.compile source w = (.ok unit, w₁))
      (resolved : EntryPoints.resolve (h.engine.defines unit) h.entry = .ok entries)
      (made : h.engine.instantiate unit w₁ = (.ok inst, w₂))
      (hooked : h.hook? entries.opening = some hook)
      (called : h.engine.call .exclusive hook [] inst w₂ = (o, inst', w₃)) (fails : o.FailsAs r) :
      Loading source w
        [.compile source, .instantiate w.instances, .call w.instances hook .exclusive []] r w₃
  | opened {unit entries inst hook v inst' w₁ w₂ w₃}
      (compiled : h.engine.compile source w = (.ok unit, w₁))
      (resolved : EntryPoints.resolve (h.engine.defines unit) h.entry = .ok entries)
      (made : h.engine.instantiate unit w₁ = (.ok inst, w₂))
      (hooked : h.hook? entries.opening = some hook)
      (called : h.engine.call .exclusive hook [] inst w₂ = (.ok v, inst', w₃)) :
      Loading source w
        [.compile source, .instantiate w.instances, .call w.instances hook .exclusive []]
        (.ok (entries, ⟨h.policy, inst'⟩)) w₃
  | unhooked {unit entries inst w₁ w₂} (compiled : h.engine.compile source w = (.ok unit, w₁))
      (resolved : EntryPoints.resolve (h.engine.defines unit) h.entry = .ok entries)
      (made : h.engine.instantiate unit w₁ = (.ok inst, w₂))
      (unhooked : h.hook? entries.opening = none) :
      Loading source w [.compile source, .instantiate w.instances]
        (.ok (entries, ⟨h.policy, inst⟩)) w₂

open Attempt

theorem runHook_eq (hook : Option EntryPoint) (gate : Gate ι) (w : World σ) :
    h.runHook hook gate w =
      match h.hook? hook with
      | some entry =>
        let (o, inst, w) := h.engine.call .exclusive entry [] gate.inst w
        (o.bind fun _ => .ok (), { gate with inst }, w)
      | none => (.ok (), gate, w) := by
  unfold runHook hook?
  cases hook with
  | none => simp
  | some entry => cases h.hooks <;> rfl

variable {h}

theorem start_of_loading {source : String} {w w' : World σ} {es : List EngineEvent}
    {r : Outcome ScriptError (EntryPoints × Gate ι)} (hl : h.Loading source w es r w') :
    h.start source w = (r, w') := by
  unfold start
  cases hl with
  | uncompiled compiled fails =>
    cases fails with
    | error e => exact bind_apply_of_error compiled
    | aborted => exact bind_apply_of_aborted compiled
  | unresolved compiled resolved fails =>
    rw [bind_apply_of_ok compiled]
    cases fails with
    | error e => exact bind_apply_of_error (by rw [resolved]; rfl)
    | aborted => exact bind_apply_of_aborted (by rw [resolved]; rfl)
  | unmade compiled resolved made fails =>
    rw [bind_apply_of_ok compiled, resolved, bind_apply_of_ok (ofOutcome_apply _)]
    cases fails with
    | error e => exact bind_apply_of_error made
    | aborted => exact bind_apply_of_aborted made
  | unopened compiled resolved made hooked called fails =>
    rw [bind_apply_of_ok compiled, resolved, bind_apply_of_ok (ofOutcome_apply _),
      bind_apply_of_ok made]
    cases fails with
    | error e =>
      refine bind_apply_of_error ?_
      simp [runOpening, runHook_eq, hooked, called]
    | aborted =>
      refine bind_apply_of_aborted ?_
      simp [runOpening, runHook_eq, hooked, called]
  | opened compiled resolved made hooked called =>
    rw [bind_apply_of_ok compiled, resolved, bind_apply_of_ok (ofOutcome_apply _),
      bind_apply_of_ok made]
    refine bind_apply_of_ok ?_
    simp [runOpening, runHook_eq, hooked, called]
  | unhooked compiled resolved made unhooked =>
    rw [bind_apply_of_ok compiled, resolved, bind_apply_of_ok (ofOutcome_apply _),
      bind_apply_of_ok made]
    refine bind_apply_of_ok ?_
    simp [runOpening, runHook_eq, unhooked]

/-- A load notes its events. It asks for at most one instance, under the next number. -/
theorem Loading.noted {source : String} {w w' : World σ} {es : List EngineEvent}
    {r : Outcome ScriptError (EntryPoints × Gate ι)} (hl : h.Loading source w es r w') :
    w'.events.toList = w.events.toList ++ es ∧
      ((es.filterMap EngineEvent.made? = [] ∧ w'.instances = w.instances) ∨
        (es.filterMap EngineEvent.made? = [w.instances] ∧ w'.instances = w.instances + 1)) := by
  cases hl with
  | uncompiled compiled fails =>
    obtain ⟨hevents, hinstances⟩ := Engine.compile_noted compiled
    exact ⟨by simp [hevents], .inl ⟨rfl, hinstances⟩⟩
  | unresolved compiled resolved fails =>
    obtain ⟨hevents, hinstances⟩ := Engine.compile_noted compiled
    exact ⟨by simp [hevents], .inl ⟨rfl, hinstances⟩⟩
  | unmade compiled resolved made fails =>
    obtain ⟨hevents, hinstances⟩ := Engine.made_noted compiled made
    exact ⟨hevents, .inr ⟨rfl, hinstances⟩⟩
  | unhooked compiled resolved made =>
    obtain ⟨hevents, hinstances⟩ := Engine.made_noted compiled made
    exact ⟨hevents, .inr ⟨rfl, hinstances⟩⟩
  | unopened compiled resolved made hooked called fails =>
    obtain ⟨hevents, hinstances, -⟩ := Engine.opened_noted compiled made called
    exact ⟨hevents, .inr ⟨rfl, hinstances⟩⟩
  | opened compiled resolved made hooked called =>
    obtain ⟨hevents, hinstances, -⟩ := Engine.opened_noted compiled made called
    exact ⟨hevents, .inr ⟨rfl, hinstances⟩⟩

/-- What there is behind a host that came up: the instance that was made, or what its opening hook
left of it. -/
theorem Loading.of_ok {source : String} {w w' : World σ} {es : List EngineEvent}
    {entries : EntryPoints} {gate : Gate ι} (hl : h.Loading source w es (.ok (entries, gate)) w') :
    ∃ unit fresh w₁ w₂, h.engine.compile source w = (.ok unit, w₁) ∧
      EntryPoints.resolve (h.engine.defines unit) h.entry = .ok entries ∧
      h.engine.instantiate unit w₁ = (.ok fresh, w₂) ∧ gate.policy = h.policy ∧
      ((h.hook? entries.opening = none ∧ gate.inst = fresh ∧ w' = w₂) ∨
        ∃ hook v, h.hook? entries.opening = some hook ∧
          h.engine.call .exclusive hook [] fresh w₂ = (.ok v, gate.inst, w')) := by
  cases hl with
  | uncompiled _ fails => cases fails
  | unresolved _ _ fails => cases fails
  | unmade _ _ _ fails => cases fails
  | unopened _ _ _ _ _ fails => cases fails
  | opened compiled resolved made hooked called =>
    exact ⟨_, _, _, _, compiled, resolved, made, rfl, .inr ⟨_, _, hooked, called⟩⟩
  | unhooked compiled resolved made unhooked =>
    exact ⟨_, _, _, _, compiled, resolved, made, rfl, .inl ⟨unhooked, rfl, rfl⟩⟩

theorem Loading.number {source : String} {w w' : World σ} {es : List EngineEvent}
    {entries : EntryPoints} {gate : Gate ι} (hl : h.Loading source w es (.ok (entries, gate)) w') :
    gate.inst.number = w.instances ∧ w'.instances = w.instances + 1 := by
  obtain ⟨unit, fresh, w₁, w₂, compiled, -, made, -, hcame⟩ := hl.of_ok
  obtain ⟨-, rfl, rfl⟩ | ⟨hook, v, -, called⟩ := hcame
  · exact ⟨Engine.number_of_made compiled made, (Engine.made_noted compiled made).2⟩
  · obtain ⟨-, hinstances, hnumber⟩ := Engine.opened_noted compiled made called
    exact ⟨hnumber, hinstances⟩

theorem Loading.entry {source : String} {w w' : World σ} {es : List EngineEvent}
    {entries : EntryPoints} {gate : Gate ι} (hl : h.Loading source w es (.ok (entries, gate)) w') :
    entries.transform = h.entry ∧ gate.policy = h.policy := by
  obtain ⟨unit, fresh, w₁, w₂, -, resolved, -, hpolicy, -⟩ := hl.of_ok
  obtain ⟨-, opens, closes, -, -, rfl⟩ := EntryPoints.resolve_eq_ok_iff.mp resolved
  exact ⟨rfl, hpolicy⟩

variable (h) in
/-- Each load goes in one of the ways. -/
theorem exists_loading (source : String) (w : World σ) : ∃ es r w', h.Loading source w es r w' := by
  let End := EntryPoints × Gate ι
  rcases compiled : h.engine.compile source w with ⟨o, w₁⟩
  rcases o.failsAs_or_ok End with ⟨r, fails⟩ | ⟨unit, rfl⟩
  · exact ⟨_, r, _, .uncompiled compiled fails⟩
  rcases (EntryPoints.resolve (h.engine.defines unit) h.entry).failsAs_or_ok End with
    ⟨r, fails⟩ | ⟨entries, resolved⟩
  · exact ⟨_, r, _, .unresolved compiled rfl fails⟩
  rcases made : h.engine.instantiate unit w₁ with ⟨o, w₂⟩
  rcases o.failsAs_or_ok End with ⟨r, fails⟩ | ⟨inst, rfl⟩
  · exact ⟨_, r, _, .unmade compiled resolved made fails⟩
  rcases hooked : h.hook? entries.opening with _ | hook
  · exact ⟨_, _, _, .unhooked compiled resolved made hooked⟩
  rcases called : h.engine.call .exclusive hook [] inst w₂ with ⟨o, inst', w₃⟩
  rcases o.failsAs_or_ok End with ⟨r, fails⟩ | ⟨v, rfl⟩
  · exact ⟨_, r, _, .unopened compiled resolved made hooked called fails⟩
  · exact ⟨_, _, _, .opened compiled resolved made hooked called⟩

end Host

end RowScript
