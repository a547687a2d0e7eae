import RowScript.Proofs.Undisturbed

/-!
# How runs end

`exits_of_complete` says of every run, wherever it fails, in which order its effects come and what
it leaves behind (`Exits`): nothing, if the script was not loaded; a closed script, if it was.

What the order is, and which faults are told, can be read off the course of the run (`Course`). What
the script went through follows effect by effect (`stepsOn_of_attempt`): behind its load, the events of
the engine are those that the live instance owes for the effects to come.
-/

namespace RowScript

namespace Effect

/-- When it is its turn. -/
def stage : Effect → Nat
  | read => 0
  | load => 1
  | create => 2
  | header => 3
  | record _ _ | write _ => 4
  | close => 5
  | flush => 6

theorem stage_of_isOfRecord {e : Effect} (h : e.isOfRecord) : e.stage = 4 := by
  cases e <;> first | rfl | cases h

theorem stage_of_isClose {e : Effect} (h : e.isClose) : e.stage = 5 := by
  cases e <;> first | rfl | cases h

/-- The order of effects: there is one at each stage, but for the records. -/
def Before (e e' : Effect) : Prop := e.stage < e'.stage ∨ e.isOfRecord ∧ e'.isOfRecord

/-- The operation on the transformer that an effect is. -/
def operation? : Effect → Option Operation
  | load => some .load
  | record _ row => some (.transform row)
  | close => some .close
  | read | create | header | write _ | flush => none

theorem isClose_iff (e : Effect) : e.isClose ↔ e.operation? = some .close := by
  cases e <;> simp [isClose, operation?]

theorem eq_load_iff (e : Effect) : e = .load ↔ e.operation? = some .load := by
  cases e <;> simp [operation?]

end Effect

theorem Transformer.pending_nil {σ υ ι : Type} (t : Transformer σ υ ι) (life : Lifecycle ι) :
    t.pending life [] = [] := by
  cases life <;> rfl

/-- The operations on the transformer among effects. -/
def operations (done : List Done) : List Operation := done.filterMap (·.1.operation?)

theorem Hosted.events_of_silent_eq {σ ι : Type} {s s' : Hosted σ ι} (h : s'.silent = s.silent) :
    s'.world.events = s.world.events := by
  have hevents : s'.silent.world.events = s.silent.world.events := by rw [h]
  exact hevents

/-- The events of the engine in a run with these effects: those of one lifetime of an instance,
unless the script's turn did not come or its configuration is at fault. -/
inductive Traced {σ υ ι : Type} (t : Transformer σ υ ι) (w : World σ) (done : List Done) :
    List EngineEvent → Prop
  | idle (h : operations done = [] ∨ ∃ fault, t.config.source t.engine.example? = .error fault) :
    Traced t w done []
  | lived {source w' rest es} (h : operations done = .load :: rest)
      (found : t.config.source t.engine.example? = .ok source) (alike : w'.silent = w.silent)
      (lifetime : t.Lifetime source w' rest es) : Traced t w done es

namespace Run

open Running Attempt

variable {φ σ υ ι : Type} {store : Store φ} {t : Transformer σ υ ι} {p : PlacedJob}
  {options : RunOptions}

/-! ### Reading a course -/

theorem Straight.ofRecord {done : List Done} {o : Outcome RunFault Unit} (h : Straight done o) :
    ∀ d ∈ done, d.1.isOfRecord := by
  induction h with
  | done => simp
  | failed ofRecord _ => simpa using ofRecord
  | passed ofRecord _ ih =>
    intro d hd
    rcases List.mem_cons.mp hd with rfl | hd
    · exact ofRecord
    · exact ih d hd

theorem Straight.told {done : List Done} {o : Outcome RunFault Unit} (h : Straight done o)
    {d : Done} (hd : d ∈ done) (hfails : ¬ d.2.isOk) : o = d.2 := by
  induction h with
  | done => cases hd
  | failed _ _ => rw [List.mem_singleton.mp hd]
  | passed _ _ ih =>
    rcases List.mem_cons.mp hd with rfl | hd
    · exact absurd rfl hfails
    · exact ih hd

theorem Straight.succeeds {done : List Done} {o : Outcome RunFault Unit} (h : Straight done o)
    (hall : ∀ d ∈ done, d.2 = .ok ()) : o = .ok () := by
  induction h with
  | done => rfl
  | failed _ _ => exact hall _ (List.mem_singleton.mpr rfl)
  | passed _ _ ih => exact ih fun d hd => hall d (List.mem_cons_of_mem _ hd)

/-- The effects of a part of a run are in order, and none of them is out of its stages. -/
def Ordered (first last : Nat) (done : List Done) : Prop :=
  done.Pairwise (fun d d' => d.1.Before d'.1) ∧
    ∀ d ∈ done, first ≤ d.1.stage ∧ d.1.stage ≤ last

theorem Ordered.nil (first last : Nat) : Ordered first last [] :=
  ⟨.nil, by simp⟩

theorem Ordered.cons {first last : Nat} {d : Done} {done : List Done} (hd : d.1.stage = first)
    (hlast : first ≤ last) (h : Ordered (first + 1) last done) :
    Ordered first last (d :: done) := by
  refine ⟨List.pairwise_cons.mpr ⟨fun d' hd' => .inl ?_, h.1⟩, fun d' hd' => ?_⟩
  · have := (h.2 d' hd').1
    omega
  · rcases List.mem_cons.mp hd' with rfl | hd'
    · omega
    · have := h.2 d' hd'
      omega

theorem Ordered.concat {first last : Nat} {d : Done} {done : List Done} (hd : d.1.stage = last + 1)
    (hfirst : first ≤ last) (h : Ordered first last done) :
    Ordered first (last + 1) (done ++ [d]) := by
  refine ⟨List.pairwise_append.mpr ⟨h.1, List.pairwise_singleton _ _, ?_⟩, fun d' hd' => ?_⟩
  · intro a ha b hb
    rw [List.mem_singleton.mp hb]
    have := (h.2 a ha).2
    exact .inl (by omega)
  · rcases List.mem_append.mp hd' with hd' | hd'
    · have := h.2 d' hd'
      omega
    · rw [List.mem_singleton.mp hd']
      omega

theorem Ordered.weaken {first last last' : Nat} {done : List Done} (h : Ordered first last done)
    (hlast : last ≤ last') : Ordered first last' done :=
  ⟨h.1, fun d hd => ⟨(h.2 d hd).1, Nat.le_trans (h.2 d hd).2 hlast⟩⟩

theorem Straight.ordered {done : List Done} {o : Outcome RunFault Unit} (h : Straight done o) :
    Ordered 4 4 done := by
  refine ⟨?_, fun d hd => ?_⟩
  · induction h with
    | done => exact .nil
    | failed _ _ => exact List.pairwise_singleton _ _
    | passed ofRecord others ih =>
      exact List.pairwise_cons.mpr ⟨fun d hd => .inr ⟨ofRecord, others.ofRecord d hd⟩, ih⟩
  · have := Effect.stage_of_isOfRecord (h.ofRecord d hd)
    omega

theorem Serving.ordered {done : List Done} {o : Outcome RunFault Unit} (h : Serving done o) :
    Ordered 2 4 done := by
  cases h with
  | uncreated _ => exact .cons rfl (by omega) (.nil 3 4)
  | unheaded _ => exact .cons rfl (by omega) (.cons rfl (by omega) (.nil 4 4))
  | processed straight => exact .cons rfl (by omega) (.cons rfl (by omega) straight.ordered)

theorem Lived.ordered {done : List Done} {o : Outcome RunFault Unit} (h : Lived done o) :
    Ordered 2 5 done := by
  cases h with
  | aborted serving => exact serving.ordered.weaken (by omega)
  | closed _ serving _ => exact serving.ordered.concat rfl (by omega)

theorem Course.ordered {done : List Done} {o : Outcome RunFault Unit} (h : Course done o) :
    Ordered 0 6 done := by
  cases h with
  | unread _ => exact .cons rfl (by omega) (.nil 1 6)
  | unloaded _ => exact .cons rfl (by omega) (.cons rfl (by omega) (.nil 2 6))
  | failed lived _ =>
    exact .cons rfl (by omega) (.cons rfl (by omega) (lived.ordered.weaken (by omega)))
  | flushed lived _ =>
    exact .cons rfl (by omega) (.cons rfl (by omega) (lived.ordered.concat rfl (by omega)))

theorem Serving.told {done : List Done} {o : Outcome RunFault Unit} (h : Serving done o) {d : Done}
    (hd : d ∈ done) (hfails : ¬ d.2.isOk) : o = d.2 := by
  cases h with
  | uncreated _ => rw [List.mem_singleton.mp hd]
  | unheaded _ =>
    rcases List.mem_cons.mp hd with rfl | hd
    · exact absurd rfl hfails
    · rw [List.mem_singleton.mp hd]
  | processed straight =>
    rcases List.mem_cons.mp hd with rfl | hd
    · exact absurd rfl hfails
    · rcases List.mem_cons.mp hd with rfl | hd
      · exact absurd rfl hfails
      · exact straight.told hd hfails

theorem Lived.told {done : List Done} {o : Outcome RunFault Unit} (h : Lived done o) {e : Effect}
    {fault : RunFault} (hd : (e, .error fault) ∈ done) (he : ¬ e.isClose)
    (hclose : (.close, .aborted) ∉ done) : o = .error fault := by
  cases h with
  | aborted serving => cases serving.told hd (by simp [Outcome.isOk])
  | closed closing serving returned =>
    rcases List.mem_append.mp hd with hd | hd
    · rw [serving.told hd (by simp [Outcome.isOk])]
      cases closing with
      | ok _ => rfl
      | error _ => rfl
      | aborted => exact absurd (List.mem_append.mpr (.inr (List.mem_singleton.mpr rfl))) hclose
    · cases List.mem_singleton.mp hd
      exact absurd rfl he

theorem Course.told {done : List Done} {o : Outcome RunFault Unit} (h : Course done o) {e : Effect}
    {fault : RunFault} (hd : (e, .error fault) ∈ done) (he : ¬ e.isClose)
    (hclose : (.close, .aborted) ∉ done) : o = .error fault := by
  cases h with
  | unread _ => rw [← (Prod.mk.inj (List.mem_singleton.mp hd)).2]
  | unloaded _ =>
    have hload : (e, .error fault) ∈ [(.load, o)] := by simpa using hd
    rw [← (Prod.mk.inj (List.mem_singleton.mp hload)).2]
  | failed lived _ =>
    exact lived.told (by simpa using hd) he (by simpa using hclose)
  | @flushed served lived _ =>
    have hd : (e, .error fault) ∈ served ++ [(.flush, o)] := by simpa using hd
    rcases List.mem_append.mp hd with hd | hd
    · cases lived.told hd he (by simpa using hclose)
    · rw [← (Prod.mk.inj (List.mem_singleton.mp hd)).2]

theorem Serving.succeeds_iff {done : List Done} {o : Outcome RunFault Unit} (h : Serving done o) :
    o = .ok () ↔ ∀ d ∈ done, d.2 = .ok () := by
  refine ⟨fun hok d hd => ?_, fun hall => ?_⟩
  · by_contra hfails
    have := h.told hd fun hd' => hfails (Outcome.eq_ok_of_isOk hd')
    exact hfails (this.symm.trans hok)
  · cases h with
    | uncreated _ => simpa using hall
    | unheaded _ => simpa using hall
    | processed straight => exact straight.succeeds fun d hd => hall d (by simp [hd])

theorem Lived.succeeds_iff {done : List Done} {o : Outcome RunFault Unit} (h : Lived done o) :
    o = .ok () ↔ ∀ d ∈ done, d.2 = .ok () := by
  cases h with
  | aborted serving => exact serving.succeeds_iff
  | closed closing serving returned =>
    rw [firstFault_eq_ok, serving.succeeds_iff]
    simp [or_imp, forall_and]

theorem Course.succeeds_iff {done : List Done} {o : Outcome RunFault Unit} (h : Course done o) :
    o = .ok () ↔ ∀ d ∈ done, d.2 = .ok () := by
  cases h with
  | unread _ => simp
  | unloaded _ => simp
  | failed lived _ => simpa using lived.succeeds_iff
  | flushed lived o =>
    have hlived := lived.succeeds_iff.mp rfl
    constructor
    · rintro rfl d hd
      simp only [List.mem_cons, List.mem_append, List.mem_nil_iff, or_false] at hd
      rcases hd with rfl | rfl | hd | rfl
      · rfl
      · rfl
      · exact hlived d hd
      · rfl
    · intro hall
      exact hall (.flush, o) (by simp)

theorem Ordered.unclosed {first last : Nat} {done : List Done} (h : Ordered first last done)
    (hlast : last < 5) : done.countP (·.1.isClose) = 0 := by
  refine List.countP_eq_zero.mpr fun d hd hclose => ?_
  have hle := (h.2 d hd).2
  rw [Effect.stage_of_isClose hclose] at hle
  omega

theorem Lived.closes {done : List Done} {o : Outcome RunFault Unit} (h : Lived done o)
    (ho : o ≠ .aborted) : done.countP (·.1.isClose) = 1 := by
  cases h with
  | aborted serving => exact absurd rfl ho
  | closed closing serving returned =>
    rw [List.countP_append, serving.ordered.unclosed (by omega)]
    rfl

theorem Course.closes {done : List Done} {o : Outcome RunFault Unit} (h : Course done o)
    (hload : (.load, .ok ()) ∈ done) (ho : o ≠ .aborted) : done.countP (·.1.isClose) = 1 := by
  cases h with
  | unread _ => simp at hload
  | unloaded fails =>
    simp only [List.mem_cons, Prod.mk.injEq, reduceCtorEq, false_and, true_and, List.mem_nil_iff,
      or_false, false_or] at hload
    exact absurd (by rw [← hload]; rfl) fails
  | failed lived _ => exact lived.closes ho
  | flushed lived o =>
    rw [List.countP_cons_of_neg (by simp [Effect.isClose]),
      List.countP_cons_of_neg (by simp [Effect.isClose]), List.countP_append,
      lived.closes (by simp)]
    rfl

/-! ### What the script goes through -/

theorem toPipeline_of_attempt {e : Effect} {op : Operation} (hop : e.operation? = some op)
    {r r' : Running φ σ ι} {o : Outcome RunFault Unit}
    (h : e.attempt store t p options r = (o, r')) :
    r'.toPipeline = (t.perform op r.toPipeline).2 := by
  obtain rfl : _ = r' := congrArg Prod.snd h
  cases e with
  | load =>
    cases hop
    rw [t.perform_load]
    rfl
  | record number row =>
    cases hop
    rfl
  | close =>
    cases hop
    rw [t.perform_close]
    rfl
  | read => cases hop
  | create => cases hop
  | header => cases hop
  | write row => cases hop
  | flush => cases hop

theorem silent_of_attempt {e : Effect} (hop : e.operation? = none) {r r' : Running φ σ ι}
    {o : Outcome RunFault Unit} (h : e.attempt store t p options r = (o, r')) :
    r'.toHosted.silent = r.toHosted.silent := by
  obtain rfl : _ = r' := congrArg Prod.snd h
  cases e with
  | read =>
    rw [Effect.attempt, bind_pure_apply fun _ => ()]
    exact (readRows_alike (Prod.ext rfl rfl)).1.host
  | create => rfl
  | header => rfl
  | write row => rfl
  | flush => rfl
  | load => cases hop
  | record number row => cases hop
  | close => cases hop

theorem phase_perform_close {s : Pipeline σ ι RowBuffer} (hloaded : s.lifecycle.phase ≠ .unloaded) :
    (t.perform .close s).2.lifecycle.phase = .closed := by
  obtain ⟨⟨life, w⟩, sink⟩ := s
  rw [t.perform_close]
  cases life with
  | unloaded => exact absurd rfl hloaded
  | ready _ _ => rfl
  | closed => rfl

theorem phase_perform_transform (s : Pipeline σ ι RowBuffer) (row : Row) :
    (t.perform (.transform row) s).2.lifecycle.phase = s.lifecycle.phase := by
  have turns := t.turns_perform (.transform row) s
  generalize (t.perform (.transform row) s).2.lifecycle = after, s.lifecycle = before at turns ⊢
  cases turns with
  | kept => rfl
  | called => rfl

/-- What an effect behind the load does to the script: it calls the live instance as was pending. A
script that was loaded is closed behind its closing, and in its phase behind anything else. -/
structure StepsOn (t : Transformer σ υ ι) (e : Effect) (s s' : Hosted σ ι) : Prop where
  suits : t.Suits s'.lifecycle
  events : ∀ rest, s'.world.events.toList ++ t.pending s'.lifecycle rest =
    s.world.events.toList ++ t.pending s.lifecycle (e.operation?.toList ++ rest)
  kept : ¬ e.isClose → s'.lifecycle.phase = s.lifecycle.phase
  closes : e.isClose → s.lifecycle.phase ≠ .unloaded → s'.lifecycle.phase = .closed

theorem stepsOn_of_silent_eq {e : Effect} (hop : e.operation? = none) {s s' : Hosted σ ι}
    (hsuits : t.Suits s.lifecycle) (h : s'.silent = s.silent) : StepsOn t e s s' := by
  have hlifecycle := Hosted.lifecycle_of_silent_eq h
  refine ⟨hlifecycle ▸ hsuits, fun rest => ?_, fun _ => by rw [hlifecycle], fun hclose => ?_⟩
  · rw [hop, hlifecycle, Hosted.events_of_silent_eq h]
    rfl
  · rw [Effect.isClose_iff, hop] at hclose
    cases hclose

theorem stepsOn_of_perform {e : Effect} {op : Operation} (hop : e.operation? = some op)
    (hload : op ≠ .load) {s : Pipeline σ ι RowBuffer} (hsuits : t.Suits s.lifecycle) :
    StepsOn t e s.toHosted (t.perform op s).2.toHosted := by
  have hbegins : ¬ t.begins ⟨s, op⟩ := fun h => hload (t.perform_begins h).1
  obtain ⟨es, hevents, -, -, hpending⟩ := t.perform_continues hbegins hsuits
  refine ⟨t.suits_perform op hsuits, fun rest => ?_, fun hclose => ?_, fun hclose hloaded => ?_⟩
  · rw [hop, hevents, List.append_assoc, ← hpending]
    rfl
  · rw [Effect.isClose_iff, hop] at hclose
    cases op with
    | load => exact absurd rfl hload
    | transform row => exact phase_perform_transform s row
    | close => exact absurd rfl hclose
  · cases hop.symm.trans ((Effect.isClose_iff e).mp hclose)
    exact phase_perform_close hloaded

theorem stepsOn_of_attempt {e : Effect} (hload : e ≠ .load) {r r' : Running φ σ ι}
    {o : Outcome RunFault Unit} (hsuits : t.Suits r.lifecycle)
    (h : e.attempt store t p options r = (o, r')) : StepsOn t e r.toHosted r'.toHosted := by
  cases hop : e.operation? with
  | none => exact stepsOn_of_silent_eq hop hsuits (silent_of_attempt hop h)
  | some op =>
    rw [toPipeline_of_attempt hop h]
    refine stepsOn_of_perform hop ?_ hsuits
    rintro rfl
    exact hload ((Effect.eq_load_iff e).mpr hop)

theorem suits_of_performs {r r' : Running φ σ ι} {done : List Done}
    (h : Performs store t p options r done r') (hload : ∀ d ∈ done, d.1 ≠ .load)
    (hsuits : t.Suits r.lifecycle) : t.Suits r'.lifecycle := by
  induction h with
  | nothing alike => exact Hosted.lifecycle_of_silent_eq alike.host ▸ hsuits
  | effect alike performed _ ih =>
    have hlifecycle := Hosted.lifecycle_of_silent_eq alike.host
    exact ih (fun d hd => hload d (List.mem_cons_of_mem _ hd))
      (stepsOn_of_attempt (hload _ List.mem_cons_self) (hlifecycle ▸ hsuits) performed).suits

/-- Effects behind the load call the live instance for all that they are, and leave it to be called
for the rest. -/
theorem events_of_performs {r r' : Running φ σ ι} {done : List Done}
    (h : Performs store t p options r done r') (hload : ∀ d ∈ done, d.1 ≠ .load)
    (hsuits : t.Suits r.lifecycle) (rest : List Operation) :
    r'.world.events.toList ++ t.pending r'.lifecycle rest =
      r.world.events.toList ++ t.pending r.lifecycle (operations done ++ rest) := by
  induction h with
  | nothing alike =>
    rw [Hosted.events_of_silent_eq alike.host, Hosted.lifecycle_of_silent_eq alike.host]
    rfl
  | @effect r r₁ r₂ r' e o done alike performed _ ih =>
    have hlifecycle := Hosted.lifecycle_of_silent_eq alike.host
    obtain ⟨hsuits₂, hevents, -⟩ :=
      stepsOn_of_attempt (hload _ List.mem_cons_self) (hlifecycle ▸ hsuits) performed
    have hoperations : operations ((e, o) :: done) = e.operation?.toList ++ operations done := by
      cases hop : e.operation? <;> simp [operations, hop]
    rw [ih (fun d hd => hload d (List.mem_cons_of_mem _ hd)) hsuits₂, hevents, hoperations,
      List.append_assoc, hlifecycle, Hosted.events_of_silent_eq alike.host]

theorem closed_of_performs {r r' : Running φ σ ι} {done : List Done}
    (h : Performs store t p options r done r') (hload : ∀ d ∈ done, d.1 ≠ .load)
    (hsuits : t.Suits r.lifecycle) (hloaded : r.lifecycle.phase ≠ .unloaded)
    (hclosed : r.lifecycle.phase = .closed ∨ ∃ d ∈ done, d.1.isClose) :
    r'.lifecycle.phase = .closed := by
  induction h with
  | nothing alike =>
    rw [Hosted.lifecycle_of_silent_eq alike.host]
    exact hclosed.resolve_right (by simp)
  | @effect r r₁ r₂ r' e o done alike performed _ ih =>
    have hlifecycle := Hosted.lifecycle_of_silent_eq alike.host
    obtain ⟨hsuits₂, -, hkept, hcloses⟩ :=
      stepsOn_of_attempt (hload _ List.mem_cons_self) (hlifecycle ▸ hsuits) performed
    rw [hlifecycle] at hkept hcloses
    have hothers := fun d hd => hload d (List.mem_cons_of_mem _ hd)
    by_cases he : e.isClose
    · have hafter := hcloses he hloaded
      exact ih hothers hsuits₂ (by rw [hafter]; simp) (.inl hafter)
    · have hafter := hkept he
      refine ih hothers hsuits₂ (hafter ▸ hloaded) (hclosed.imp hafter.trans ?_)
      rintro ⟨d, hd, hclose⟩
      rcases List.mem_cons.mp hd with rfl | hd
      · exact absurd hclose he
      · exact ⟨d, hd, hclose⟩

/-- What loading does to a script that is not there: with what the instance then owes, the events
are those of a lifetime, or there are none if the configuration is at fault. -/
structure Begins (t : Transformer σ υ ι) (rest : List Operation) (loaded : Outcome RunFault Unit)
    (s s' : Hosted σ ι) : Prop where
  suits : t.Suits s'.lifecycle
  phase : s'.lifecycle.phase = if loaded.isOk then .ready else .unloaded
  events : ∃ es, s'.world.events.toList ++ t.pending s'.lifecycle rest =
      s.world.events.toList ++ es ∧
    ((∃ fault, t.config.source t.engine.example? = .error fault ∧ es = []) ∨
      ∃ source, t.config.source t.engine.example? = .ok source ∧
        t.Lifetime source s.world rest es)

theorem begins_of_attempt {r r' : Running φ σ ι} {o : Outcome RunFault Unit}
    (hlife : r.lifecycle = .unloaded) (h : Effect.load.attempt store t p options r = (o, r'))
    (rest : List Operation) : Begins t rest o r.toHosted r'.toHosted := by
  obtain rfl : _ = o := congrArg Prod.fst h
  obtain rfl : _ = r' := congrArg Prod.snd h
  obtain ⟨⟨⟨life, w⟩, sink⟩, files, summary⟩ := r
  cases hlife
  rw [Effect.attempt]
  cases hsource : t.config.source t.engine.example? with
  | error fault =>
    have hload : t.load (⟨⟨.unloaded, w⟩, sink⟩ : Pipeline σ ι RowBuffer) =
        (.error (.config fault), ⟨⟨.unloaded, w⟩, sink⟩) := by
      rw [Transformer.load, hsource]
      rfl
    rw [mapError_apply_of _ (onPipeline_apply_of hload)]
    refine ⟨by rintro _ _ ⟨⟩, rfl, [], by simp [Transformer.pending], .inl ⟨fault, hsource, rfl⟩⟩
  | ok source =>
    obtain ⟨es, loaded, w', hl⟩ := t.host.exists_loading source w
    have hidle : ¬ (Lifecycle.unloaded : Lifecycle ι).isReady := by simp [Lifecycle.isReady]
    have hload : t.load (⟨⟨.unloaded, w⟩, sink⟩ : Pipeline σ ι RowBuffer) =
        ((Host.loadEnd .unloaded w' loaded).1, ⟨(Host.loadEnd .unloaded w' loaded).2, sink⟩) := by
      rw [Transformer.load, hsource]
      show Pipeline.onHost (t.host.load source) _ = _
      rw [Pipeline.onHost_apply, t.host.load_of_loading hidle hl]
    rw [mapError_apply_of _ (onPipeline_apply_of hload)]
    have hsuits := t.suits_perform .load (p := ⟨⟨.unloaded, w⟩, sink⟩) (by rintro _ _ ⟨⟩)
    rw [t.perform_load, hload] at hsuits
    refine ⟨hsuits, ?_, _, ?_, .inr ⟨source, hsource, t.lifetime_of_loading hl hidle rest⟩⟩
    · rcases loaded with ⟨entries, gate⟩ | e | _ <;> rfl
    · rw [← List.append_assoc, ← hl.noted.1]
      exact congrArg (fun world => world.events.toList ++ _) (Host.world_loadEnd .unloaded w' loaded)

/-! ### All exits -/

/-- How a run comes to its end by these effects. -/
structure Exits (store : Store φ) (t : Transformer σ υ ι) (p : PlacedJob) (options : RunOptions)
    (world : World σ) (files : φ) (done : List Done)
    (result : Outcome RunFault Unit × Running φ σ ι) : Prop where
  /-- These are its effects, and nothing else is. -/
  performs : Performs store t p options (.new world files) done result.2
  course : Course done result.1
  /-- The input is read, then the script loaded, then the output made ready, then the records are
  transformed and written, then the script is closed. -/
  ordered : done.Pairwise fun d d' => d.1.Before d'.1
  /-- The script is called for the first of the rows that were read, in their order. -/
  called : ∀ rows r₁, readRows store t p options (.new world files) = (.ok rows, r₁) →
    calledRows done <+: rows
  /-- If the script is not loaded, then the run fails, no file and no output is touched, and no
  script is closed. -/
  unloaded : (.load, .ok ()) ∉ done → ¬ result.1.isOk ∧ result.2.files = files ∧
    result.2.lifecycle.phase = .unloaded ∧ ∀ d ∈ done, d.1 = .read ∨ d.1 = .load
  /-- A loaded script is closed once before the run returns. -/
  closed : (.load, .ok ()) ∈ done → result.1 ≠ .aborted →
    done.countP (·.1.isClose) = 1 ∧ result.2.lifecycle.phase = .closed
  /-- A fault is told before that of closing the script. -/
  told : ∀ {e fault}, (e, .error fault) ∈ done → ¬ e.isClose → (.close, .aborted) ∉ done →
    result.1 = .error fault
  /-- No fault is kept back. -/
  succeeds : result.1 = .ok () ↔ ∀ d ∈ done, d.2 = .ok ()
  /-- The engine sees the effects as the lifetime of one instance. -/
  events : ∃ es, result.2.world.events.toList = world.events.toList ++ es ∧ Traced t world done es
  /-- Where the output goes has no part in what it is, and it may go where the input came from. -/
  elsewhere : ∀ (ledger : store.Ledger) path other, p.target options = .file path →
    let there := complete store t p { options with output := some other } (.new world files)
    Undisturbed result.1 → Undisturbed there.1 →
      there.1 = result.1 ∧ there.2.summary = result.2.summary ∧
        ((.load, .ok ()) ∈ done →
          ledger.holds there.2.files (.file other) = ledger.holds result.2.files (.file path))

theorem alike_of_performs_read {r r' : Running φ σ ι} {o : Outcome RunFault Unit} {done : List Done}
    (h : Performs store t p options r ((.read, o) :: done) r') :
    ∃ r₁, Alike r r₁ ∧ Performs store t p options r₁ done r' := by
  cases h with
  | @effect _ r₁ r₂ _ _ _ _ alike performed others =>
    refine ⟨r₂, alike.trans ?_, others⟩
    rw [Effect.attempt, bind_pure_apply fun _ => ()] at performed
    cases performed
    exact (readRows_alike (Prod.ext rfl rfl)).1

theorem Ordered.loadless {first last : Nat} {done : List Done} (h : Ordered first last done)
    (hfirst : 1 < first) : ∀ d ∈ done, d.1 ≠ .load := by
  intro d hd hload
  have := (h.2 d hd).1
  rw [hload, Effect.stage] at this
  omega

theorem Course.shape {done : List Done} {o : Outcome RunFault Unit} (h : Course done o) :
    (∃ o', done = [(.read, o')]) ∨
      ∃ loaded rest, done = (.read, .ok ()) :: (.load, loaded) :: rest ∧ Ordered 2 6 rest := by
  cases h with
  | unread _ => exact .inl ⟨_, rfl⟩
  | unloaded _ => exact .inr ⟨_, _, rfl, .nil 2 6⟩
  | failed lived _ => exact .inr ⟨_, _, rfl, lived.ordered.weaken (by omega)⟩
  | flushed lived _ => exact .inr ⟨_, _, rfl, lived.ordered.concat rfl (by omega)⟩

section Exits

variable {r r' : Running φ σ ι} {done : List Done} {o : Outcome RunFault Unit}
  (hlife : r.lifecycle = .unloaded) (performs : Performs store t p options r done r')
  (course : Course done o)

include hlife performs course

theorem unloaded_of_course (hload : (.load, .ok ()) ∉ done) :
    ¬ o.isOk ∧ r'.files = r.files ∧ r'.lifecycle.phase = .unloaded ∧
      ∀ d ∈ done, d.1 = .read ∨ d.1 = .load := by
  cases course with
  | failed _ _ => exact absurd (by simp) hload
  | flushed _ _ => exact absurd (by simp) hload
  | unread fails =>
    obtain ⟨r₁, alike, others⟩ := alike_of_performs_read performs
    cases others with
    | nothing alike' =>
      obtain ⟨hhost, hfiles⟩ := alike.trans alike'
      refine ⟨fails, hfiles, ?_, by simp⟩
      rw [Hosted.lifecycle_of_silent_eq hhost, hlife]
      rfl
  | unloaded fails =>
    obtain ⟨r₁, alike, others⟩ := alike_of_performs_read performs
    cases others with
    | @effect _ r₂ r₃ _ _ _ _ alike₂ performed others =>
      obtain ⟨hhost, hfiles⟩ := alike.trans alike₂
      have hunloaded := (Hosted.lifecycle_of_silent_eq hhost).trans hlife
      have hphase := (begins_of_attempt hunloaded performed []).phase
      have hkept : r₃.files = r₂.files := by
        cases performed
        rfl
      cases others with
      | nothing alike₃ =>
        refine ⟨fails, alike₃.files.trans (hkept.trans hfiles), ?_, by simp⟩
        rw [Hosted.lifecycle_of_silent_eq alike₃.host, hphase, if_neg fails]

theorem closed_of_course (hload : (.load, .ok ()) ∈ done) (returned : o ≠ .aborted) :
    done.countP (·.1.isClose) = 1 ∧ r'.lifecycle.phase = .closed := by
  have hcount := course.closes hload returned
  refine ⟨hcount, ?_⟩
  obtain ⟨d, hd, hclose⟩ := List.countP_pos_iff.mp (Nat.lt_of_lt_of_eq Nat.one_pos hcount.symm)
  rcases course.shape with ⟨o', rfl⟩ | ⟨loaded, rest, rfl, hrest⟩
  · simp at hload
  · have hloaded : loaded = .ok () := by
      have hmem : (.load, .ok ()) = (Effect.load, loaded) ∨ (.load, .ok ()) ∈ rest := by
        simpa using hload
      rcases hmem with heq | hmem
      · exact (Prod.mk.inj heq).2.symm
      · exact absurd rfl (hrest.loadless (by omega) _ hmem)
    subst hloaded
    obtain ⟨r₁, alike, others⟩ := alike_of_performs_read performs
    cases others with
    | @effect _ r₂ r₃ _ _ _ _ alike₂ performed others =>
      have hunloaded :=
        (Hosted.lifecycle_of_silent_eq (alike.trans alike₂).host).trans hlife
      obtain ⟨hsuits, hphase, -⟩ := begins_of_attempt hunloaded performed []
      have hready : r₃.lifecycle.phase = .ready := hphase
      refine closed_of_performs others (hrest.loadless (by omega)) hsuits (by simp [hready]) ?_
      refine .inr ⟨d, ?_, hclose⟩
      rcases List.mem_cons.mp hd with rfl | hd
      · cases hclose
      · rcases List.mem_cons.mp hd with rfl | hd
        · cases hclose
        · exact hd

theorem traced_of_course : ∃ es, r'.world.events.toList = r.world.events.toList ++ es ∧
    Traced t r.world done es := by
  rcases course.shape with ⟨o', rfl⟩ | ⟨loaded, rest, rfl, hrest⟩
  · obtain ⟨r₁, alike, others⟩ := alike_of_performs_read performs
    cases others with
    | nothing alike' =>
      refine ⟨[], ?_, .idle (.inl rfl)⟩
      rw [Hosted.events_of_silent_eq (alike.trans alike').host, List.append_nil]
  · obtain ⟨r₁, alike, others⟩ := alike_of_performs_read performs
    cases others with
    | @effect _ r₂ r₃ _ _ _ _ alike₂ performed others =>
      obtain ⟨hhost, -⟩ := alike.trans alike₂
      have hunloaded := (Hosted.lifecycle_of_silent_eq hhost).trans hlife
      obtain ⟨hsuits, -, es, hevents, htraced⟩ :=
        begins_of_attempt hunloaded performed (operations rest)
      refine ⟨es, ?_, ?_⟩
      · have hothers := events_of_performs others (hrest.loadless (by omega)) hsuits []
        rw [t.pending_nil, List.append_nil, List.append_nil, hevents,
          Hosted.events_of_silent_eq hhost] at hothers
        exact hothers
      · rcases htraced with ⟨fault, hconfig, rfl⟩ | ⟨source, hconfig, hlifetime⟩
        · exact .idle (.inr ⟨fault, hconfig⟩)
        · have hworld : r₂.world.silent = r.world.silent := by
            have := congrArg Hosted.world hhost
            exact this
          exact .lived rfl hconfig hworld hlifetime

end Exits

variable (store t p options) in
/-- **Every run takes its effects in order, and leaves nothing or a closed script behind.** All of
the input is read before the script is loaded, and both before the output is touched. A run that cannot
read its input or load its script fails and changes no file. A script that was loaded is closed once
on every path on which the run returns, behind the last record, and a fault that came before the
closing is the one that is told. A run that writes over its own input writes what it would write
elsewhere. -/
theorem exits_of_complete (world : World σ) (files : φ) :
    ∃ done, Exits store t p options world files done
      (complete store t p options (.new world files : Running φ σ ι)) := by
  obtain ⟨done, performs, course, hcalled, hloads⟩ :=
    course_of_complete store t p options (r := (.new world files : Running φ σ ι)) rfl
  refine ⟨done, performs, course, course.ordered.1, hcalled, unloaded_of_course rfl performs course,
    closed_of_course rfl performs course, course.told, course.succeeds_iff,
    traced_of_course rfl performs course, ?_⟩
  intro ledger path other htarget there hhere hthere
  obtain ⟨hresult, hsummary, hholds⟩ := complete_elsewhere ledger other htarget hhere hthere
  exact ⟨hresult, hsummary, fun hload => hholds (hloads hload)⟩

end Run

end RowScript
