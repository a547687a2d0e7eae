import RowScript.Proofs.Delivery

/-!
# Records side by side

Any number of records of one advanced transformer can be under way at once. Each has a collector of
its own, all share one buffer, and a script may keep a handle and put rows through it when its
record has long ended. `InFlight.Step` says what can happen next, in any order: a record begins, a row
is put through some handle, the call of a record returns and its rows are collected, the rows of a
record go to the buffer, or a record fails. Collecting and forwarding are steps of their own, so
other records can come between them.

`rows_of_reaches`: whatever the interleaving, the buffer holds one block for each forwarded record,
in the order of forwarding, and the block of a record is made of what was put through its own
handles before it was collected. The invariant is `InFlight.Sound`: the collector of a running record
holds what the history says was put through its handles, and rows on their way are a block of the
history.

`reaches_of_transform`: a record that `Transformer.transform` takes from its beginning to its end is
such a run without others in between.
-/

namespace RowScript

/-- What happens to records in flight, which are told apart by their collectors. -/
inductive Move
  | begin
  | put (h : CollectorHandle) (values : List Value)
  /-- The call has returned a value; the rows are taken, made fields and shaped. -/
  | collect (h : CollectorHandle) (returned : Value)
  /-- The shaped rows go to the buffer. -/
  | forward (h : CollectorHandle)
  | fail (h : CollectorHandle)
  deriving Inhabited

namespace Move

def put? (h : CollectorHandle) : Move → Option (List Value)
  | put k values => if k = h then some values else none
  | begin | collect _ _ | forward _ | fail _ => none

def forwarded? : Move → Option CollectorHandle
  | forward h => some h
  | begin | put _ _ | collect _ _ | fail _ => none

/-- The record whose call is over. -/
def ended? : Move → Option CollectorHandle
  | collect h _ | fail h => some h
  | begin | put _ _ | forward _ => none

end Move

/-- A history: moves in the order in which they happened. -/
abbrev History := List Move

namespace History

/-- What was put through the handles of a record. -/
def emitted (moves : History) (h : CollectorHandle) : List (List Value) :=
  moves.filterMap (·.put? h)

/-- The records whose rows went to the buffer, in that order. -/
def forwarded (moves : History) : List CollectorHandle := moves.filterMap (·.forwarded?)

def ended (moves : History) : List CollectorHandle := moves.filterMap (·.ended?)

/-- A record was collected, the shape policy let its rows pass, and `rows` is what it made of
them. -/
def Passed (config : AdvancedConfig) (moves : History) (h : CollectorHandle)
    (rows : List OutputRow) : Prop :=
  ∃ before returned after, moves = before ++ .collect h returned :: after ∧
    config.refused? (emitted before h) = none ∧
    rows = config.delivered (emitted before h) returned

variable {config : AdvancedConfig} {moves : History} {h k : CollectorHandle} {rows : List OutputRow}

@[simp] theorem emitted_concat (moves : History) (m : Move) (h : CollectorHandle) :
    emitted (moves ++ [m]) h = emitted moves h ++ (m.put? h).toList := by
  cases hm : m.put? h <;> simp [emitted, hm]

@[simp] theorem forwarded_concat (moves : History) (m : Move) :
    forwarded (moves ++ [m]) = forwarded moves ++ m.forwarded?.toList := by
  cases hm : m.forwarded? <;> simp [forwarded, hm]

@[simp] theorem ended_concat (moves : History) (m : Move) :
    ended (moves ++ [m]) = ended moves ++ m.ended?.toList := by
  cases hm : m.ended? <;> simp [ended, hm]

theorem Passed.append (passed : Passed config moves h rows) (more : History) :
    Passed config (moves ++ more) h rows := by
  obtain ⟨before, returned, after, rfl, hrefused, hrows⟩ := passed
  exact ⟨before, returned, after ++ more, by simp, hrefused, hrows⟩

theorem Passed.mem_ended (passed : Passed config moves h rows) : h ∈ ended moves := by
  obtain ⟨before, returned, after, rfl, -, -⟩ := passed
  simp [ended, Move.ended?]

theorem Passed.of_concat {m : Move} (passed : Passed config (moves ++ [m]) h rows) :
    Passed config moves h rows ∨ ∃ returned, m = .collect h returned ∧
      config.refused? (emitted moves h) = none ∧
      rows = config.delivered (emitted moves h) returned := by
  obtain ⟨before, returned, after, heq, hrefused, hrows⟩ := passed
  rcases List.eq_nil_or_concat after with rfl | ⟨after, last, rfl⟩
  · obtain ⟨rfl, hm⟩ := List.append_inj' heq rfl
    exact .inr ⟨returned, List.singleton_inj.mp hm, hrefused, hrows⟩
  · rw [List.concat_eq_append, ← List.cons_append, ← List.append_assoc] at heq
    exact .inl ⟨before, returned, after, (List.append_inj' heq rfl).1, hrefused, hrows⟩

end History

/-- Records under way side by side, and the buffer they share. -/
structure InFlight where
  collectors : Collectors := .empty
  buffer : RowBuffer := .empty
  /-- Records whose rows have not been taken. -/
  running : List CollectorHandle := []
  /-- Shaped rows on their way to the buffer. -/
  leaving : List (CollectorHandle × List OutputRow) := []

namespace InFlight

open History

/-- What can happen next. -/
inductive Step (config : AdvancedConfig) (f : InFlight) : Move → InFlight → Prop
  | begin : Step config f .begin
      { f with collectors := f.collectors.fresh.2, running := f.collectors.fresh.1 :: f.running }
  /-- A handle to a collector can be used at any time, also after its record ended. -/
  | put {h values} (made : f.collectors.Made h) :
      Step config f (.put h values) { f with collectors := f.collectors.put h values }
  | collect {h returned rows} (mem : h ∈ f.running)
      (shaped : config.shape.applyAll config.width
        (Transformer.collectedRows config (f.collectors.take h).1 returned) = .ok rows) :
      Step config f (.collect h returned)
        { f with
          collectors := (f.collectors.take h).2
          running := f.running.filter (· ≠ h)
          leaving := (h, rows) :: f.leaving }
  | refuse {h returned e} (mem : h ∈ f.running)
      (refused : config.shape.applyAll config.width
        (Transformer.collectedRows config (f.collectors.take h).1 returned) = .error e) :
      Step config f (.collect h returned)
        { f with
          collectors := (f.collectors.take h).2
          running := f.running.filter (· ≠ h) }
  | forward {h rows} (mem : (h, rows) ∈ f.leaving) : Step config f (.forward h)
      { f with
        buffer := RowSink.putRows f.buffer rows
        leaving := f.leaving.filter (·.1 ≠ h) }
  | fail {h} (mem : h ∈ f.running) :
      Step config f (.fail h) { f with running := f.running.filter (· ≠ h) }

/-- A state that a history leads to. -/
inductive Reaches (config : AdvancedConfig) (start : InFlight) : History → InFlight → Prop
  | start : Reaches config start [] start
  | step {moves f m f'} (reaches : Reaches config start moves f) (step : Step config f m f') :
      Reaches config start (moves ++ [m]) f'

/-- Nothing under way. -/
def idle (collectors : Collectors) (buffer : RowBuffer) : InFlight := { collectors, buffer }

variable {config : AdvancedConfig} {buffer : RowBuffer} {moves : History} {f f' : InFlight}
  {m : Move}

/-! ### The invariant -/

/-- What the state and the history of records in flight have to do with each other. -/
structure Sound (config : AdvancedConfig) (buffer : RowBuffer) (moves : History) (f : InFlight) :
    Prop where
  /-- There is no history of a record that has not begun. -/
  unmade : ∀ h, ¬ f.collectors.Made h → emitted moves h = [] ∧ h ∉ ended moves
  running : ∀ h ∈ f.running,
    f.collectors.Made h ∧ f.collectors.rows h = emitted moves h ∧ h ∉ ended moves
  leaving : ∀ p ∈ f.leaving, Passed config moves p.1 p.2 ∧ p.1 ∉ forwarded moves
  ended_of_forwarded : ∀ h ∈ forwarded moves, h ∈ ended moves
  ended_once : (ended moves).Nodup
  forwarded_once : (forwarded moves).Nodup
  blocks : ∃ blocks : List (CollectorHandle × List OutputRow),
    f.buffer.rows = buffer.rows ++ blocks.flatMap (·.2) ∧ blocks.map (·.1) = forwarded moves ∧
      ∀ b ∈ blocks, Passed config moves b.1 b.2
  kept : ∀ h rows, Passed config moves h rows → h ∈ forwarded moves ∨ (h, rows) ∈ f.leaving

theorem sound_idle (config : AdvancedConfig) (collectors : Collectors) (buffer : RowBuffer) :
    Sound config buffer [] (idle collectors buffer) where
  unmade _ _ := ⟨rfl, List.not_mem_nil⟩
  running _ hmem := absurd hmem List.not_mem_nil
  leaving _ hmem := absurd hmem List.not_mem_nil
  ended_of_forwarded _ hmem := absurd hmem List.not_mem_nil
  ended_once := List.nodup_nil
  forwarded_once := List.nodup_nil
  blocks := ⟨[], by simp [idle], rfl, fun _ hmem => absurd hmem List.not_mem_nil⟩
  kept _ _ passed := absurd passed.mem_ended List.not_mem_nil

theorem applyAll_collectedRows (config : AdvancedConfig) (values : List (List Value))
    (returned : Value) :
    config.shape.applyAll config.width (Transformer.collectedRows config values returned) =
      match config.refused? values with
      | some misfit => .error (.shapeMismatch config.width misfit.length)
      | none => .ok (config.delivered values returned) := by
  rw [ShapePolicy.applyAll_eq, Transformer.refused?_collectedRows,
    Transformer.map_shaped_collectedRows]
  cases config.refused? values with
  | none => rfl
  | some misfit => simp

namespace Sound

variable (hs : Sound config buffer moves f)
include hs

/-- The rows in a running record's collector pass or are refused as the history says. -/
theorem shaped_iff {h : CollectorHandle} (mem : h ∈ f.running) {returned : Value}
    {rows : List OutputRow} :
    config.shape.applyAll config.width
        (Transformer.collectedRows config (f.collectors.take h).1 returned) = .ok rows ↔
      config.refused? (emitted moves h) = none ∧
        rows = config.delivered (emitted moves h) returned := by
  rw [show (f.collectors.take h).1 = emitted moves h from (hs.running h mem).2.1,
    applyAll_collectedRows]
  cases config.refused? (emitted moves h) with
  | none => simp [eq_comm]
  | some misfit => simp

theorem unmade_concat {h : CollectorHandle} (hm : ¬ f.collectors.Made h) (hput : m.put? h = none)
    (hended : m.ended? ≠ some h) : emitted (moves ++ [m]) h = [] ∧ h ∉ ended (moves ++ [m]) := by
  obtain ⟨hemitted, hopen⟩ := hs.unmade h hm
  exact ⟨by simp [hemitted, hput], by simp [hopen, hended]⟩

theorem blocks_concat (hm : m.forwarded? = none) :
    ∃ blocks : List (CollectorHandle × List OutputRow),
      f.buffer.rows = buffer.rows ++ blocks.flatMap (·.2) ∧
        blocks.map (·.1) = forwarded (moves ++ [m]) ∧
        ∀ b ∈ blocks, Passed config (moves ++ [m]) b.1 b.2 := by
  obtain ⟨blocks, hrows, hforwarded, hpassed⟩ := hs.blocks
  exact ⟨blocks, hrows, by simp [hforwarded, hm], fun b hb => (hpassed b hb).append _⟩

theorem leaving_concat (hm : m.forwarded? = none) :
    ∀ p ∈ f.leaving, Passed config (moves ++ [m]) p.1 p.2 ∧ p.1 ∉ forwarded (moves ++ [m]) :=
  fun p hp => ⟨(hs.leaving p hp).1.append _, by simpa [hm] using (hs.leaving p hp).2⟩

theorem kept_concat (hm : m.forwarded? = none) (hcollect : ∀ h returned, m ≠ .collect h returned) :
    ∀ h rows, Passed config (moves ++ [m]) h rows →
      h ∈ forwarded (moves ++ [m]) ∨ (h, rows) ∈ f.leaving := by
  intro h rows passed
  rcases passed.of_concat with passed | ⟨returned, heq, -⟩
  · simpa [hm] using hs.kept h rows passed
  · exact absurd heq (hcollect h returned)

theorem begins : Sound config buffer (moves ++ [.begin])
    { f with
      collectors := f.collectors.fresh.2
      running := f.collectors.fresh.1 :: f.running } where
  unmade h hm := hs.unmade_concat (fun made => hm made.fresh) rfl (by simp [Move.ended?])
  running h hmem := by
    simp only [emitted_concat, ended_concat, Move.put?, Move.ended?, Option.toList_none,
      List.append_nil]
    rcases List.mem_cons.mp hmem with rfl | hmem
    · obtain ⟨hemitted, hopen⟩ := hs.unmade _ (Collectors.not_made_fresh f.collectors)
      exact ⟨Collectors.made_fresh _, by rw [Collectors.rows_fresh, hemitted], hopen⟩
    · obtain ⟨made, hrows, hopen⟩ := hs.running h hmem
      exact ⟨made.fresh, made.rows_fresh.trans hrows, hopen⟩
  leaving := hs.leaving_concat rfl
  ended_of_forwarded := by simpa [Move.forwarded?, Move.ended?] using hs.ended_of_forwarded
  ended_once := by simpa [Move.ended?] using hs.ended_once
  forwarded_once := by simpa [Move.forwarded?] using hs.forwarded_once
  blocks := hs.blocks_concat rfl
  kept := hs.kept_concat rfl (by simp)

theorem puts {k : CollectorHandle} (made : f.collectors.Made k) (values : List Value) :
    Sound config buffer (moves ++ [.put k values])
      { f with collectors := f.collectors.put k values } where
  unmade h hm := by
    have hm : ¬ f.collectors.Made h := fun made => hm (made.put k values)
    have hne : k ≠ h := fun heq => hm (heq ▸ made)
    exact hs.unmade_concat hm (by simp [Move.put?, hne]) (by simp [Move.ended?])
  running h hmem := by
    obtain ⟨made', hrows, hopen⟩ := hs.running h hmem
    refine ⟨made'.put k values, ?_, by simpa [Move.ended?] using hopen⟩
    by_cases hk : k = h
    · subst hk
      simp [Collectors.rows_put_self made', hrows, Move.put?]
    · simp [Collectors.rows_put_of_ne hk, hrows, Move.put?, hk]
  leaving := hs.leaving_concat rfl
  ended_of_forwarded := by simpa [Move.forwarded?, Move.ended?] using hs.ended_of_forwarded
  ended_once := by simpa [Move.ended?] using hs.ended_once
  forwarded_once := by simpa [Move.forwarded?] using hs.forwarded_once
  blocks := hs.blocks_concat rfl
  kept := hs.kept_concat rfl (by simp)

/-- A record ends, and `arrived` is what of it is on its way from now on. -/
theorem ends {h : CollectorHandle} {collectors : Collectors}
    (arrived : List (CollectorHandle × List OutputRow)) (mem : h ∈ f.running)
    (hended : m.ended? = some h) (hput : ∀ k, m.put? k = none) (hforwarded : m.forwarded? = none)
    (hmade : ∀ k, f.collectors.Made k → collectors.Made k)
    (hrows : ∀ k ≠ h, collectors.rows k = f.collectors.rows k)
    (harrived : ∀ p ∈ arrived, p.1 = h ∧ Passed config (moves ++ [m]) p.1 p.2)
    (hcollect : ∀ k returned, m = .collect k returned → config.refused? (emitted moves k) = none →
      (k, config.delivered (emitted moves k) returned) ∈ arrived) :
    Sound config buffer (moves ++ [m])
      { f with
        collectors
        running := f.running.filter (· ≠ h)
        leaving := arrived ++ f.leaving } where
  unmade k hm := by
    have hne : h ≠ k := fun heq => hm (hmade k (heq ▸ (hs.running h mem).1))
    exact hs.unmade_concat (fun made => hm (hmade k made)) (hput k) (by simp [hended, hne])
  running k hk := by
    obtain ⟨hk, hne⟩ := List.mem_filter.mp hk
    have hne : k ≠ h := by simpa using hne
    obtain ⟨made, hkrows, hopen⟩ := hs.running k hk
    exact ⟨hmade k made, by simp [hrows k hne, hkrows, hput], by simp [hended, hopen, hne]⟩
  leaving p hp := by
    rcases List.mem_append.mp hp with hp | hp
    · obtain ⟨hrecord, passed⟩ := harrived p hp
      refine ⟨passed, ?_⟩
      rw [forwarded_concat, hforwarded, hrecord, Option.toList_none, List.append_nil]
      exact fun hmem => (hs.running h mem).2.2 (hs.ended_of_forwarded h hmem)
    · exact hs.leaving_concat hforwarded p hp
  ended_of_forwarded k hk := by
    have hk : k ∈ forwarded moves := by simpa [hforwarded] using hk
    simp [hs.ended_of_forwarded k hk]
  ended_once := by
    have hopen : h ∉ ended moves := (hs.running h mem).2.2
    rw [ended_concat, hended, Option.toList_some, List.nodup_append]
    refine ⟨hs.ended_once, by simp, ?_⟩
    rintro k hk _ hmem rfl
    exact hopen (List.mem_singleton.mp hmem ▸ hk)
  forwarded_once := by simpa [hforwarded] using hs.forwarded_once
  blocks := hs.blocks_concat hforwarded
  kept k rows passed := by
    rcases passed.of_concat with passed | ⟨returned, heq, hrefused, rfl⟩
    · rcases hs.kept k rows passed with hmem | hmem
      · exact .inl (by simp [hmem])
      · exact .inr (List.mem_append_right _ hmem)
    · exact .inr (List.mem_append_left _ (hcollect k returned heq hrefused))

theorem collects {h : CollectorHandle} {returned : Value} {rows : List OutputRow}
    (mem : h ∈ f.running)
    (shaped : config.shape.applyAll config.width
      (Transformer.collectedRows config (f.collectors.take h).1 returned) = .ok rows) :
    Sound config buffer (moves ++ [.collect h returned])
      { f with
        collectors := (f.collectors.take h).2
        running := f.running.filter (· ≠ h)
        leaving := (h, rows) :: f.leaving } := by
  obtain ⟨hrefused, rfl⟩ := (hs.shaped_iff mem).mp shaped
  refine hs.ends [(h, _)] mem rfl (fun _ => rfl) rfl (fun k made => made.take h)
    (fun k hne => Collectors.rows_take_of_ne hne.symm _) ?_ ?_
  · intro p hp
    obtain rfl := List.mem_singleton.mp hp
    exact ⟨rfl, moves, returned, [], rfl, hrefused, rfl⟩
  · intro k returned' heq _
    cases heq
    exact List.mem_singleton_self _

theorem refuses {h : CollectorHandle} {returned : Value} {e : HostError} (mem : h ∈ f.running)
    (refused : config.shape.applyAll config.width
      (Transformer.collectedRows config (f.collectors.take h).1 returned) = .error e) :
    Sound config buffer (moves ++ [.collect h returned])
      { f with
        collectors := (f.collectors.take h).2
        running := f.running.filter (· ≠ h) } := by
  refine hs.ends [] mem rfl (fun _ => rfl) rfl (fun k made => made.take h)
    (fun k hne => Collectors.rows_take_of_ne hne.symm _) (fun p hp => absurd hp List.not_mem_nil) ?_
  intro k returned' heq hpass
  cases heq
  rw [(hs.shaped_iff mem).mpr ⟨hpass, rfl⟩] at refused
  cases refused

theorem fails {h : CollectorHandle} (mem : h ∈ f.running) :
    Sound config buffer (moves ++ [.fail h]) { f with running := f.running.filter (· ≠ h) } :=
  hs.ends [] mem rfl (fun _ => rfl) rfl (fun _ made => made) (fun _ _ => rfl)
    (fun p hp => absurd hp List.not_mem_nil) (by simp)

theorem forwards {h : CollectorHandle} {rows : List OutputRow} (mem : (h, rows) ∈ f.leaving) :
    Sound config buffer (moves ++ [.forward h])
      { f with
        buffer := RowSink.putRows f.buffer rows
        leaving := f.leaving.filter (·.1 ≠ h) } where
  unmade k hm := hs.unmade_concat hm rfl (by simp [Move.ended?])
  running k hk := by simpa [Move.put?, Move.ended?] using hs.running k hk
  leaving p hp := by
    obtain ⟨hp, hne⟩ := List.mem_filter.mp hp
    have hne : p.1 ≠ h := by simpa using hne
    exact ⟨(hs.leaving p hp).1.append _, by simp [Move.forwarded?, (hs.leaving p hp).2, hne]⟩
  ended_of_forwarded k hk := by
    have hk : k ∈ forwarded moves ∨ k = h := by simpa [Move.forwarded?] using hk
    rcases hk with hk | rfl
    · simp [hs.ended_of_forwarded k hk]
    · simp [(hs.leaving _ mem).1.mem_ended]
  ended_once := by simpa [Move.ended?] using hs.ended_once
  forwarded_once := by
    have hnew : h ∉ forwarded moves := (hs.leaving _ mem).2
    rw [forwarded_concat, Move.forwarded?, Option.toList_some, List.nodup_append]
    refine ⟨hs.forwarded_once, by simp, ?_⟩
    rintro k hk _ hmem rfl
    exact hnew (List.mem_singleton.mp hmem ▸ hk)
  blocks := by
    obtain ⟨blocks, hrows, hforwarded, hpassed⟩ := hs.blocks
    refine ⟨blocks ++ [(h, rows)], ?_, by simp [hforwarded, Move.forwarded?], ?_⟩
    · simp [RowSink.putRows, hrows]
    · intro b hb
      rcases List.mem_append.mp hb with hb | hb
      · exact (hpassed b hb).append _
      · obtain rfl := List.mem_singleton.mp hb
        exact (hs.leaving _ mem).1.append _
  kept k rows' passed := by
    rcases passed.of_concat with passed | ⟨_, heq, -⟩
    · by_cases hk : k = h
      · exact .inl (by simp [Move.forwarded?, hk])
      · rcases hs.kept k rows' passed with hmem | hmem
        · exact .inl (by simp [hmem])
        · exact .inr (List.mem_filter.mpr ⟨hmem, by simpa using hk⟩)
    · cases heq

omit hs in
theorem step (hs : Sound config buffer moves f) (step : Step config f m f') :
    Sound config buffer (moves ++ [m]) f' := by
  cases step with
  | begin => exact hs.begins
  | put made => exact hs.puts made _
  | collect mem shaped => exact hs.collects mem shaped
  | refuse mem refused => exact hs.refuses mem refused
  | forward mem => exact hs.forwards mem
  | fail mem => exact hs.fails mem

end Sound

theorem sound_of_reaches {collectors : Collectors}
    (reaches : Reaches config (idle collectors buffer) moves f) : Sound config buffer moves f := by
  induction reaches with
  | start => exact sound_idle config collectors buffer
  | step _ step ih => exact ih.step step

/-! ### Isolation -/

/-- What the buffer of records in flight holds. -/
structure Isolated (config : AdvancedConfig) (buffer : RowBuffer) (moves : History) (f : InFlight) :
    Prop where
  /-- The collector of the next record to begin is empty. -/
  starts_empty : f.collectors.fresh.2.rows f.collectors.fresh.1 = []
  /-- One contiguous block for each forwarded record, in the order of forwarding. -/
  blocks : ∃ blocks : List (CollectorHandle × List OutputRow),
    f.buffer.rows = buffer.rows ++ blocks.flatMap (·.2) ∧ blocks.map (·.1) = forwarded moves ∧
      ∀ b ∈ blocks, Passed config moves b.1 b.2
  forwarded_once : (forwarded moves).Nodup
  ended_once : (ended moves).Nodup
  /-- No row is lost: what passed was forwarded or is on its way. -/
  kept : ∀ h rows, Passed config moves h rows → h ∈ forwarded moves ∨ (h, rows) ∈ f.leaving
  /-- Without the returned value, a block has one row for each row put before the collection. -/
  one_each : config.emitReturned = false → ∀ h rows, Passed config moves h rows →
    ∃ before returned after, moves = before ++ .collect h returned :: after ∧
      rows = (emitted before h).map fun values =>
        config.shape.shaped config.width (values.map outputField)

/-- **Records side by side do not mix.** -/
theorem rows_of_reaches {collectors : Collectors}
    (reaches : Reaches config (idle collectors buffer) moves f) :
    Isolated config buffer moves f := by
  have hs := sound_of_reaches reaches
  refine ⟨Collectors.rows_fresh _, hs.blocks, hs.forwarded_once, hs.ended_once, hs.kept, ?_⟩
  rintro hoff h rows ⟨before, returned, after, hmoves, -, rfl⟩
  exact ⟨before, returned, after, hmoves, by simp [AdvancedConfig.delivered, hoff]⟩

/-- Two records in turns, and a row that comes too late: record 1 is collected already when
something puts another row through its handle. -/
theorem rows_of_two_in_turns :
    let config : AdvancedConfig := { outputFields := 1, shape := .reject }
    let moves : History := [.begin, .begin, .put ⟨0⟩ [.int 1], .put ⟨1⟩ [.int 2],
      .collect ⟨1⟩ .null, .put ⟨1⟩ [.int 9], .put ⟨0⟩ [.int 3], .collect ⟨0⟩ .null, .forward ⟨0⟩,
      .forward ⟨1⟩]
    ∃ f, Reaches config (idle .empty .empty) moves f ∧ Isolated config .empty moves f ∧
      f.buffer.rows = [[some "1"], [some "3"], [some "2"]] := by
  intro config moves
  have begun : Reaches config (idle .empty .empty) [.begin, .begin]
      ⟨⟨#[#[], #[]]⟩, ⟨[]⟩, [⟨1⟩, ⟨0⟩], []⟩ := .step (.step .start .begin) .begin
  have put : Reaches config (idle .empty .empty) (moves.take 4)
      ⟨⟨#[#[[.int 1]], #[[.int 2]]]⟩, ⟨[]⟩, [⟨1⟩, ⟨0⟩], []⟩ :=
    .step (.step begun (.put (show 0 < 2 by decide))) (.put (show 1 < 2 by decide))
  have collected : Reaches config (idle .empty .empty) (moves.take 5)
      ⟨⟨#[#[[.int 1]], #[]]⟩, ⟨[]⟩, [⟨0⟩], [(⟨1⟩, [[some "2"]])]⟩ :=
    .step put (.collect (by decide) rfl)
  have late : Reaches config (idle .empty .empty) (moves.take 7)
      ⟨⟨#[#[[.int 1], [.int 3]], #[[.int 9]]]⟩, ⟨[]⟩, [⟨0⟩], [(⟨1⟩, [[some "2"]])]⟩ :=
    .step (.step collected (.put (show 1 < 2 by decide))) (.put (show 0 < 2 by decide))
  have both : Reaches config (idle .empty .empty) (moves.take 8)
      ⟨⟨#[#[], #[[.int 9]]]⟩, ⟨[]⟩, [], [(⟨0⟩, [[some "1"], [some "3"]]), (⟨1⟩, [[some "2"]])]⟩ :=
    .step late (.collect (by decide) rfl)
  have forwarded : Reaches config (idle .empty .empty) moves
      ⟨⟨#[#[], #[[.int 9]]]⟩, ⟨[[some "1"], [some "3"], [some "2"]]⟩, [], []⟩ :=
    .step (.step both (.forward (List.mem_cons_self)))
      (.forward (List.mem_singleton_self (_, [[some "2"]])))
  exact ⟨_, forwarded, rows_of_reaches forwarded, rfl⟩

/-! ### Records one after the other -/

theorem Reaches.append {start middle last : InFlight} {more : History}
    (first : Reaches config start moves middle) (second : Reaches config middle more last) :
    Reaches config start (moves ++ more) last := by
  induction second with
  | start => simpa using first
  | step _ step ih =>
    rw [← List.append_assoc]
    exact ih.step step

theorem reaches_puts (f : InFlight) (puts : List (CollectorHandle × List Value))
    (made : ∀ p ∈ puts, f.collectors.Made p.1) :
    Reaches config f (puts.map fun p => .put p.1 p.2)
      { f with collectors := f.collectors.putAll puts } := by
  induction puts generalizing f with
  | nil => exact .start
  | cons p rest ih =>
    have first : Reaches config f [.put p.1 p.2]
        { f with collectors := f.collectors.put p.1 p.2 } :=
      .step .start (.put (made p List.mem_cons_self))
    exact first.append (ih _ fun q hq => (made q (List.mem_cons_of_mem _ hq)).put _ _)

/-- How a record ends whose call is over. -/
def lastMoves {σ ι : Type} (config : AdvancedConfig) (call : RecordCall σ ι) : History :=
  match call.outcome with
  | .ok returned => .collect call.handle returned ::
      match config.refused? call.emitted with
      | none => [.forward call.handle]
      | some _ => []
  | .error _ | .aborted => [.fail call.handle]

theorem reaches_lastMoves {σ ι : Type} (call : RecordCall σ ι) (buffer : RowBuffer)
    (hemitted : call.world.collectors.rows call.handle = call.emitted) :
    Reaches config ⟨call.world.collectors, buffer, [call.handle], []⟩ (lastMoves config call)
      (match call.outcome with
        | .ok returned => idle (call.world.collectors.take call.handle).2
          (match config.refused? call.emitted with
            | none => RowSink.putRows buffer (config.delivered call.emitted returned)
            | some _ => buffer)
        | .error _ | .aborted => idle call.world.collectors buffer) := by
  have mem : call.handle ∈ [call.handle] := List.mem_singleton_self _
  have failed : Reaches config ⟨call.world.collectors, buffer, [call.handle], []⟩
      [.fail call.handle] (idle call.world.collectors buffer) := by
    have step : Step config ⟨call.world.collectors, buffer, [call.handle], []⟩ _ _ := .fail mem
    exact .step .start (by simpa [idle] using step)
  unfold lastMoves
  cases call.outcome with
  | error e => exact failed
  | aborted => exact failed
  | ok returned =>
    have hshaped := applyAll_collectedRows config call.emitted returned
    rw [← hemitted] at hshaped ⊢
    cases hrefused : config.refused? (call.world.collectors.rows call.handle) with
    | some misfit =>
      rw [hrefused] at hshaped
      have step : Step config ⟨call.world.collectors, buffer, [call.handle], []⟩ _ _ :=
        .refuse mem hshaped
      exact .step .start (by simpa [idle] using step)
    | none =>
      rw [hrefused] at hshaped
      have collect : Step config ⟨call.world.collectors, buffer, [call.handle], []⟩ _ _ :=
        .collect mem hshaped
      have forward : Step config ⟨(call.world.collectors.take call.handle).2, buffer, [],
          [(call.handle, config.delivered (call.world.collectors.rows call.handle) returned)]⟩ _ _ :=
        .forward (List.mem_singleton_self _)
      exact .step (.step .start (by simpa using collect)) (by simpa [idle] using forward)

/-- A record from its beginning to its end is one history of records in flight. -/
theorem reaches_of_transform {σ υ ι : Type} (t : Transformer σ υ ι)
    (hvariant : t.config.variant = .advanced config) (entries : EntryPoints) (gate : Gate ι)
    (row : Row) (w : World σ) (buffer : RowBuffer) (puts : List (CollectorHandle × List Value))
    (made : ∀ p ∈ puts, w.collectors.fresh.2.Made p.1)
    (hputs : (t.collectingCall entries gate row w).world.collectors =
      w.collectors.fresh.2.putAll puts) :
    let call := t.collectingCall entries gate row w
    let last := (t.transform row ⟨⟨.ready entries gate, w⟩, buffer⟩).2
    Reaches config (idle w.collectors buffer)
      (.begin :: (puts.map fun p => .put p.1 p.2) ++ lastMoves config call)
      (idle last.world.collectors last.sink) := by
  intro call last
  have begun : Reaches config (idle w.collectors buffer) [.begin]
      ⟨w.collectors.fresh.2, buffer, [call.handle], []⟩ := .step .start .begin
  have called : Reaches config (idle w.collectors buffer)
      (.begin :: puts.map fun p => .put p.1 p.2)
      ⟨call.world.collectors, buffer, [call.handle], []⟩ := by
    rw [hputs]
    exact begun.append (reaches_puts _ puts made)
  refine called.append ?_
  have ended : Reaches config _ (lastMoves config call) _ := reaches_lastMoves call buffer rfl
  have hlast : last = (t.transformCollecting config row ⟨⟨.ready entries gate, w⟩, buffer⟩).2 :=
    congrArg Prod.snd (t.transform_of_advanced hvariant row _)
  have hcall : t.collectingCall entries gate row w = call := rfl
  rw [t.transformCollecting_ready, hcall] at hlast
  clear_value call last
  rw [hlast]
  cases hout : call.outcome with
  | error e => simpa only [hout] using ended
  | aborted => simpa only [hout] using ended
  | ok returned =>
    have hcollectors : (Transformer.collected config call returned).collectors =
        (call.world.collectors.take call.handle).2 := rfl
    cases hrefused : config.refused? call.emitted with
    | some misfit => simpa only [hout, hrefused, hcollectors] using ended
    | none => simpa only [hout, hrefused, hcollectors] using ended

end InFlight

end RowScript
