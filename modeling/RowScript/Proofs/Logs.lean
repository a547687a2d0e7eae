import RowScript.Proofs.Records

/-!
# Logs

Whatever is done with a script only adds to the log, and what it adds does not depend on what is
there: behind an earlier log, everything goes as behind none, and the earlier log stays in front
(`World.behind`). This holds of each step of an engine and of a chain of steps, and so of loading
(`Transformer.load_behind`), of a record (`Transformer.given_behind`) and of closing
(`Host.close_behind`). So each of them has a log of its own, the one it makes behind no other, and
no script can tell two states apart that are the same but for their logs (`Host.close_of_silent_eq`,
`Transformer.given_of_silent_eq`).
-/

namespace RowScript

variable {σ υ ι : Type}

/-- The same world, behind an earlier log. -/
def World.behind (es : Array LogEvent) (w : World σ) : World σ := { w with log := es ++ w.log }

def Hosted.behind (es : Array LogEvent) (s : Hosted σ ι) : Hosted σ ι :=
  { s with world := s.world.behind es }

theorem World.behind_absorb (es : Array LogEvent) (w : World σ) (scene : Scene σ) :
    (w.behind es).absorb scene = (w.absorb scene).behind es := by
  simp [behind, absorb, Array.append_assoc]

theorem World.behind_logAll (es : Array LogEvent) (w : World σ) (more : List LogEvent) :
    (w.behind es).logAll more = (w.logAll more).behind es := by
  simp [behind, logAll, ← Array.toList_inj]

theorem Hosted.silent_behind (s : Hosted σ ι) : s.silent.behind s.world.log = s := by
  simp [Hosted.behind, Hosted.silent, World.behind, World.silent]

/-- What goes the same behind any log ends the same in two states that are the same but for their
logs, and leaves two such states. -/
theorem Hosted.alike_of_silent_eq {α : Type} {f : Hosted σ ι → α × Hosted σ ι} {s s' : Hosted σ ι}
    (hbehind : ∀ es, f (s.silent.behind es) = ((f s.silent).1, (f s.silent).2.behind es))
    (hsilent : s'.silent = s.silent) :
    (f s').1 = (f s).1 ∧ (f s').2.silent = (f s).2.silent := by
  have hown := hbehind s.world.log
  have hother := hbehind s'.world.log
  rw [s.silent_behind] at hown
  rw [← hsilent, s'.silent_behind, hsilent] at hother
  rw [hown, hother]
  exact ⟨rfl, rfl⟩

/-! ### Steps of an engine -/

/-- A step on the world goes the same behind any log. -/
def Blind {ε α : Type} (x : Attempt (World σ) ε α) : Prop :=
  ∀ es w, x (w.behind es) = ((x w).1, (x w).2.behind es)

theorem Blind.bind {ε α β : Type} {x : Attempt (World σ) ε α} {f : α → Attempt (World σ) ε β}
    (hx : Blind x) (hf : ∀ a, Blind (f a)) : Blind (x >>= f) := by
  intro es w
  have hx := hx es w
  rcases h : x w with ⟨o, w'⟩
  rw [h] at hx
  cases o with
  | ok a => rw [Attempt.bind_apply_of_ok hx, Attempt.bind_apply_of_ok h, hf]
  | error e => rw [Attempt.bind_apply_of_error hx, Attempt.bind_apply_of_error h]
  | aborted => rw [Attempt.bind_apply_of_aborted hx, Attempt.bind_apply_of_aborted h]

theorem Blind.ofOutcome {ε α : Type} (o : Outcome ε α) :
    Blind (Attempt.ofOutcome o : Attempt (World σ) ε α) := fun _ _ => rfl

theorem Engine.compile_blind (E : Engine σ υ ι) (source : String) : Blind (E.compile source) :=
  fun es w => congrArg (Prod.mk _) (World.behind_absorb es (w.note (.compile source)) _)

theorem Engine.instantiate_blind (E : Engine σ υ ι) (unit : υ) : Blind (E.instantiate unit) :=
  fun es w => congrArg (Prod.mk _) (World.behind_absorb es
    { w.note (.instantiate w.instances) with instances := w.instances + 1 } _)

theorem Engine.call_behind (E : Engine σ υ ι) (access : Access) (entry : EntryPoint)
    (args : List Arg) (inst : Live ι) (es : Array LogEvent) (w : World σ) :
    E.call access entry args inst (w.behind es) =
      ((E.call access entry args inst w).1, (E.call access entry args inst w).2.1,
        (E.call access entry args inst w).2.2.behind es) :=
  Prod.ext rfl (Prod.ext rfl (World.behind_absorb es
    (w.note (.call inst.number entry access (args.map w.see))) _))

theorem Gate.enter_behind (E : Engine σ υ ι) (gate : Gate ι) (access : Access) (entry : EntryPoint)
    (args : List Arg) (es : Array LogEvent) (w : World σ) :
    gate.enter E access entry args (w.behind es) =
      ((gate.enter E access entry args w).1, (gate.enter E access entry args w).2.1,
        (gate.enter E access entry args w).2.2.behind es) := by
  simp only [Gate.enter, E.call_behind]

/-! ### The host -/

namespace Host

variable (h : Host σ υ ι)

theorem runHook_behind (hook : Option EntryPoint) (gate : Gate ι) (es : Array LogEvent)
    (w : World σ) :
    h.runHook hook gate (w.behind es) =
      ((h.runHook hook gate w).1, (h.runHook hook gate w).2.1,
        (h.runHook hook gate w).2.2.behind es) := by
  cases hook with
  | none => rfl
  | some entry =>
    simp only [runHook, Gate.callAlone]
    split
    · rw [Gate.enter_behind]
    · rfl

theorem start_blind (source : String) : Blind (h.start source) := by
  refine (h.engine.compile_blind source).bind fun compiled => ?_
  refine (Blind.ofOutcome _).bind fun entries => ?_
  refine (h.engine.instantiate_blind compiled).bind fun inst => ?_
  refine Blind.bind (fun es w => ?_) fun gate => fun _ _ => rfl
  rw [runOpening, h.runHook_behind]
  rfl

theorem load_behind (source : String) (es : Array LogEvent) (s : Hosted σ ι) :
    h.load source (s.behind es) = ((h.load source s).1, (h.load source s).2.behind es) := by
  have hstart := h.start_blind source es s.world
  have hlife : (s.behind es).lifecycle = s.lifecycle := rfl
  have hworld : (s.behind es).world = s.world.behind es := rfl
  simp only [load, hlife, hworld, hstart]
  split
  · rfl
  · rcases h.start source s.world with ⟨⟨entries, gate⟩ | e | _, w'⟩ <;> rfl

theorem close_behind (es : Array LogEvent) (s : Hosted σ ι) :
    h.close (s.behind es) = ((h.close s).1, (h.close s).2.behind es) := by
  obtain ⟨life, w⟩ := s
  cases life with
  | unloaded => rfl
  | closed => rfl
  | ready entries gate =>
    simp only [close, Hosted.behind, h.runHook_behind]

theorem close_of_silent_eq {s s' : Hosted σ ι} (hsilent : s'.silent = s.silent) :
    (h.close s').1 = (h.close s).1 ∧ (h.close s').2.silent = (h.close s).2.silent :=
  Hosted.alike_of_silent_eq (fun es => h.close_behind es s.silent) hsilent

end Host

/-! ### Records -/

namespace Transformer

variable (t : Transformer σ υ ι)

theorem load_behind (es : Array LogEvent) (s : Hosted σ ι) :
    t.load (⟨s.behind es, .empty⟩ : Pipeline σ ι RowBuffer) =
      ((t.load (⟨s, .empty⟩ : Pipeline σ ι RowBuffer)).1,
        ⟨(t.load (⟨s, .empty⟩ : Pipeline σ ι RowBuffer)).2.toHosted.behind es, .empty⟩) := by
  unfold load
  cases t.config.source t.engine.example? with
  | error fault => rfl
  | ok source =>
    simp only [Pipeline.onHost_apply, t.host.load_behind]

/-- Whether a script can be loaded does not depend on the log. -/
theorem load_of_log (w : World σ) (log : Array LogEvent) :
    (t.load (⟨⟨.unloaded, { w with log }⟩, .empty⟩ : Pipeline σ ι RowBuffer)).1 =
      (t.load (.new w .empty : Pipeline σ ι RowBuffer)).1 := by
  let f (s : Hosted σ ι) :=
    let result := t.load (⟨s, .empty⟩ : Pipeline σ ι RowBuffer)
    (result.1, result.2.toHosted)
  have hbehind (es : Array LogEvent) (s : Hosted σ ι) :
      f (s.behind es) = ((f s).1, (f s).2.behind es) := by
    simp only [f, t.load_behind es s]
  have hsilent : (⟨.unloaded, { w with log }⟩ : Hosted σ ι).silent =
      (⟨.unloaded, w⟩ : Hosted σ ι).silent := rfl
  exact (Hosted.alike_of_silent_eq (fun es => hbehind es _) hsilent).1

theorem given_behind (row : Row) (es : Array LogEvent) {s : Hosted σ ι}
    (hready : s.lifecycle.isReady) :
    t.given row (s.behind es) = ((t.given row s).1, (t.given row s).2.behind es) := by
  obtain ⟨⟨⟩ | ⟨entries, gate⟩ | ⟨⟩, w⟩ := s
  · cases hready
  · rcases t.config.variant.single_or_advanced with hsingle | ⟨config, hvariant⟩
    · rw [t.given_of_single hsingle, t.given_of_single hsingle]
      simp only [Hosted.behind, Host.transform, Gate.call, Gate.enter_behind]
    · have hcall : t.collectingCall entries gate row (w.behind es) =
          { t.collectingCall entries gate row w with
            world := (t.collectingCall entries gate row w).world.behind es } := by
        have henter := gate.enter_behind t.engine gate.policy.access entries.transform
          [.values (toValueMap t.config.inputs row), .collector w.collectors.fresh.1] es
          { w with collectors := w.collectors.fresh.2 }
        unfold collectingCall Gate.call
        simp only
        exact congrArg (fun r => (⟨r.1, r.2.1, r.2.2, w.collectors.fresh.1,
          r.2.2.collectors.rows w.collectors.fresh.1⟩ : RecordCall σ ι)) henter
      rw [t.given_of_advanced hvariant, t.given_of_advanced hvariant, Hosted.behind,
        t.transformCollecting_ready, t.transformCollecting_ready, hcall]
      simp only
      obtain ⟨o, gate', world, handle, emitted⟩ := t.collectingCall entries gate row w
      cases o with
      | error e => rfl
      | aborted => rfl
      | ok returned =>
        have hcollected :
            collected config ⟨.ok returned, gate', world.behind es, handle, emitted⟩ returned =
              (collected config ⟨.ok returned, gate', world, handle, emitted⟩ returned).behind es :=
          World.behind_logAll es { world with collectors := (world.collectors.take handle).2 } _
        simp only [hcollected]
        cases config.refused? emitted <;> rfl
  · cases hready

theorem given_of_silent_eq (row : Row) {s s' : Hosted σ ι} (hready : s.lifecycle.isReady)
    (hsilent : s'.silent = s.silent) :
    (t.given row s').1 = (t.given row s).1 ∧
      (t.given row s').2.silent = (t.given row s).2.silent :=
  Hosted.alike_of_silent_eq (fun es => t.given_behind row es (s := s.silent) hready) hsilent

end Transformer

end RowScript
