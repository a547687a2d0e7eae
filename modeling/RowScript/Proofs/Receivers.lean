import RowScript.Script.Program

/-!
# What a run leaves of its receiver

A cell that holds the receiver of a function holds it to the end of the function, whatever the
function does: reads go through the cell, and so do assignments, those to the receiver as a whole
included. `Kept` says this of two machines, one before and one after a run, together with the fact
that cells are only ever added. `Keeps` says it of a run. There is one lemma for each part of the
evaluator, and `keeps_eval` and its companions follow the syntax.
-/

namespace RowScript.Script

/-- The second machine holds its receiver in the cell in which the first does, and has its cells. -/
structure Machine.Kept (before after : Machine) : Prop where
  handle : ∀ i, before.receiver = some (.cell i) → after.receiver = some (.cell i)
  cells : before.cells.size ≤ after.cells.size

namespace Machine.Kept

theorem refl (m : Machine) : Kept m m := ⟨fun _ h => h, Nat.le_refl _⟩

theorem trans {a b c : Machine} (first : Kept a b) (second : Kept b c) : Kept a c :=
  ⟨fun i h => second.handle i (first.handle i h), Nat.le_trans first.cells second.cells⟩

theorem of_eq {a b : Machine} (hreceiver : b.receiver = a.receiver) (hcells : b.cells = a.cells) :
    Kept a b :=
  ⟨fun _ h => hreceiver.trans h, Nat.le_of_eq (congrArg Array.size hcells.symm)⟩

end Machine.Kept

/-- A change of a state of which a machine is a part, and which the machine survives. -/
def Keeps {s ε α : Type} (machine : s → Machine) (x : Attempt s ε α) : Prop :=
  ∀ state, (machine state).Kept (machine (x state).2)

namespace Keeps

variable {s ε δ α β : Type} {machine : s → Machine}

theorem pure (a : α) : Keeps machine (Pure.pure a : Attempt s ε α) := fun _ => .refl _

theorem ofOutcome (o : Outcome ε α) : Keeps machine (Attempt.ofOutcome o) := fun _ => .refl _

theorem fail (e : ε) : Keeps machine (Attempt.fail e : Attempt s ε α) := fun _ => .refl _

theorem read : Keeps machine (Attempt.read : Attempt s ε s) := fun _ => .refl _

theorem bind {x : Attempt s ε α} {f : α → Attempt s ε β} (hx : Keeps machine x)
    (hf : ∀ a, Keeps machine (f a)) : Keeps machine (x >>= f) := by
  intro state
  refine Attempt.bind_keeps (P := fun last => (machine state).Kept (machine last)) (hx state)
    fun a between hbetween => ?_
  exact hbetween.trans (hf a between)

theorem mapError {x : Attempt s ε α} (hx : Keeps machine x) (f : ε → δ) :
    Keeps machine (x.mapError f) := hx

end Keeps

/-! ### Machines -/

namespace Run

variable {α : Type}

theorem keeps_raise (cause : Cause) (pos : Position) :
    Keeps id (raise cause pos : Run α) := .fail _

theorem keeps_ofComputed (c : Computed α) : Keeps id (ofComputed c) := by
  cases c with
  | ok a => exact .pure a
  | error cause => exact keeps_raise cause _

theorem keeps_locating {x : Run α} (hx : Keeps id x) (pos : Position) : Keeps id (locating pos x) :=
  hx.mapError _

theorem tick_snd (env : Env) (pos : Position) (m : Machine) :
    (tick env pos m).2 = { m with operations := m.operations + 1 } := by
  simp only [tick, apply_ite Prod.snd, ite_self]

theorem keeps_tick (env : Env) (pos : Position) : Keeps id (tick env pos) := by
  intro m
  rw [tick_snd]
  exact .of_eq rfl rfl

theorem keeps_checkSize (env : Env) (d : Datum) (pos : Position) :
    Keeps id (checkSize env d pos) := by
  unfold checkSize
  split
  · split
    · exact keeps_raise _ _
    · exact .pure _
  · exact .pure _

theorem keeps_load (d : Datum) : Keeps id (load d) := .bind .read fun _ => .pure _

theorem keeps_find? (name : String) : Keeps id (find? name) := .bind .read fun _ => .pure _

theorem keeps_lookup (name : String) (pos : Position) : Keeps id (lookup name pos) := by
  refine .bind (keeps_find? name) fun v => ?_
  cases v with
  | some v => exact keeps_load _
  | none => exact keeps_raise _ _

theorem keeps_assignVariable (name : String) (value : Datum) :
    Keeps id (assignVariable name value) := by
  refine .bind (keeps_find? name) fun v => ?_
  split
  · exact fun m => ⟨fun _ h => h, by simp⟩
  · exact fun m => .of_eq rfl rfl

theorem keeps_declare (name : String) (value : Datum) (isConst : Bool) :
    Keeps id (declare name value isConst) := fun _ => .of_eq rfl rfl

theorem keeps_share (name : String) (pos : Position) : Keeps id (share name pos) := by
  refine .bind (keeps_find? name) fun v => ?_
  cases v with
  | none => exact keeps_raise _ _
  | some v =>
    simp only
    split
    · exact .pure _
    · refine .bind .read fun _ => .bind (fun m => ?_) fun _ => .pure _
      exact ⟨fun _ h => h, by simp⟩

theorem keeps_inBlock {x : Run α} (hx : Keeps id x) : Keeps id (inBlock x) :=
  fun m => (hx m).trans (.of_eq rfl rfl)

theorem keeps_receiver (pos : Position) : Keeps id (receiver pos) := by
  refine .bind .read fun m => ?_
  split
  · exact keeps_load _
  · exact keeps_raise _ _

theorem keeps_held : Keeps id held := .bind .read fun _ => .pure _

/-- A new value goes into the cell of the receiver, not in its place. -/
theorem kept_keepReceiver (value : Datum) (m : Machine) : m.Kept (keepReceiver value m) := by
  unfold keepReceiver
  split
  · exact ⟨fun _ h => h, by simp⟩
  · next hcell => exact ⟨fun i h => absurd h (hcell i), Nat.le_refl _⟩

theorem keeps_onValue {x : RunOn α} (hx : Keeps Prod.fst x) (d : Datum) : Keeps id (onValue d x) :=
  fun m => hx (m, d)

theorem keeps_onVariable {x : RunOn α} (hx : Keeps Prod.fst x) (name : String) (d : Datum) :
    Keeps id (onVariable name d x) :=
  fun m => (hx (m, d)).trans (keeps_assignVariable name _ _)

theorem keeps_onReceiver {x : RunOn α} (hx : Keeps Prod.fst x) (d : Datum) :
    Keeps id (onReceiver d x) :=
  fun m => (hx (m, d)).trans (kept_keepReceiver _ _)

end Run

/-- Calls of the environment leave the machine of the caller its receiver, and a cell that the called
function has for its receiver is that still when the function is over. -/
def Env.Keeps (env : Env) : Prop :=
  ∀ f args pos m r, m.Kept (env.call f args pos (m, r)).2.1 ∧
    ∀ i, r = some (.cell i) → (env.call f args pos (m, r)).2.2 = some (.cell i)

namespace Run

variable {env : Env} (henv : env.Keeps)
include henv

theorem keeps_callOn (f : Function) (args : List Datum) (pos : Position) :
    Keeps Prod.fst (callOn env f args pos) :=
  fun (m, d) => (henv f args pos m (some d)).1

theorem keeps_callFree (f : Function) (args : List Datum) (pos : Position) :
    Keeps id (callFree env f args pos) :=
  fun m => (henv f args pos m none).1

end Run

namespace RunOn

variable {α : Type}

theorem keeps_lift {x : Run α} (hx : Keeps id x) : Keeps Prod.fst (lift x) := fun (m, _) => hx m

theorem keeps_self : Keeps Prod.fst self := fun _ => .refl _

theorem keeps_setSelf (d : Datum) : Keeps Prod.fst (setSelf d) := fun _ => .refl _

theorem keeps_onPart {x : RunOn α} (hx : Keeps Prod.fst x) (part : Datum) (put : Datum → Datum) :
    Keeps Prod.fst (onPart part put x) := fun (m, _) => hx (m, part)

theorem keeps_onCopy {x : RunOn α} (hx : Keeps Prod.fst x) (copy : Datum) :
    Keeps Prod.fst (onCopy copy x) := fun (m, _) => hx (m, copy)

theorem keeps_raise (cause : Cause) (pos : Position) : Keeps Prod.fst (raise cause pos : RunOn α) :=
  keeps_lift (Run.keeps_raise cause pos)

theorem keeps_locating {x : RunOn α} (hx : Keeps Prod.fst x) (pos : Position) :
    Keeps Prod.fst (locating pos x) := hx.mapError _

end RunOn

/-! ### Built-ins -/

section builtins

open Run

theorem keeps_logLine (e : LogEvent) : Keeps id (logLine e) := fun _ => .of_eq rfl rfl

theorem keeps_printLine (text : String) : Keeps id (printLine text) := keeps_logLine _

theorem keeps_debugLine (text : String) (pos : Position) : Keeps id (debugLine text pos) :=
  keeps_logLine _

theorem keeps_emit (h : CollectorHandle) (values : List Datum) : Keeps id (emit h values) :=
  fun _ => .of_eq rfl rfl

theorem keeps_basicBuiltin? {name : String} {pos : Position} {self : Datum} {args : List Datum}
    {run : Run Reply} (h : basicBuiltin? name pos self args = some run) : Keeps id run := by
  unfold basicBuiltin? at h
  split at h
  · cases h
    exact keeps_ofComputed _
  · split at h
    · cases h
      exact .bind (keeps_printLine _) fun _ => .pure _
    · cases h
      exact .bind (keeps_debugLine _ _) fun _ => .pure _
    · cases h
      exact .bind (keeps_emit _ _) fun _ => .pure _
    · split at h
      · cases h
        exact .bind (keeps_emit _ _) fun _ => .pure _
      · cases h
    · cases h

theorem keeps_callBasic (name : String) (args : List Datum) (pos : Position) :
    Keeps id (callBasic name args pos) := by
  unfold callBasic
  split
  · exact keeps_raise _ _
  · split
    · next run => exact .bind (keeps_basicBuiltin? run) fun _ => .pure _
    · exact keeps_raise _ _

theorem keeps_mapM {α β : Type} {f : α → Run β} (hf : ∀ a, Keeps id (f a)) (items : List α) :
    Keeps id (items.mapM f) := by
  have loop : ∀ items done, Keeps id (List.mapM.loop f items done) := by
    intro items
    induction items with
    | nil => exact fun done => .pure _
    | cons a rest ih => exact fun done => .bind (hf a) fun b => ih _
  exact loop items []

theorem keeps_forM {α : Type} {f : α → Run Unit} (hf : ∀ a, Keeps id (f a)) (items : List α) :
    Keeps id (items.forM f) := by
  induction items with
  | nil => exact .pure _
  | cons a rest ih => exact .bind (hf a) fun _ => ih

theorem keeps_withBound (bound args : List Datum) : Keeps id (withBound bound args) :=
  .bind (keeps_mapM keeps_load _) fun _ => .pure _

variable {env : Env} (henv : env.Keeps)
include henv

theorem keeps_callback (f : Datum) (before : List Datum) (item : Datum) (index : Nat)
    (pos : Position) : Keeps id (callback env f before item index pos) := by
  unfold callback
  split
  · simp only
    split
    · split
      · exact keeps_onValue (keeps_callOn henv _ _ _) _
      · exact keeps_callFree henv _ _ _
    · exact .bind (keeps_withBound _ _) fun _ => keeps_callBasic _ _ _
  · exact keeps_raise _ _

theorem keeps_mapItems (f : Datum) (pos : Position) (i : Nat) (items : List Datum) :
    Keeps id (mapItems env f pos i items) := by
  induction items generalizing i with
  | nil => exact .pure _
  | cons x xs ih => exact .bind (keeps_callback henv f [] x i pos) fun _ => .bind (ih _) fun _ => .pure _

theorem keeps_filterItems (f : Datum) (pos : Position) (i : Nat) (items : List Datum) :
    Keeps id (filterItems env f pos i items) := by
  induction items generalizing i with
  | nil => exact .pure _
  | cons x xs ih => exact .bind (keeps_callback henv f [] x i pos) fun _ => .bind (ih _) fun _ => .pure _

theorem keeps_reduceItems (f : Datum) (pos : Position) (acc : Datum) (i : Nat)
    (items : List Datum) : Keeps id (reduceItems env f pos acc i items) := by
  induction items generalizing i acc with
  | nil => exact .pure _
  | cons x xs ih => exact .bind (keeps_callback henv f [acc] x i pos) fun _ => ih _ _

theorem keeps_findItem (f : Datum) (pos : Position) (i : Nat) (items : List Datum) :
    Keeps id (findItem env f pos i items) := by
  induction items generalizing i with
  | nil => exact .pure _
  | cons x xs ih =>
    refine .bind (keeps_callback henv f [] x i pos) fun d => ?_
    split
    · exact .pure _
    · exact ih _

omit henv in
theorem keeps_insertSortedBy {later : Datum → Datum → Run Bool} (hlater : ∀ a b, Keeps id (later a b))
    (x : Datum) (items : List Datum) : Keeps id (insertSortedBy later x items) := by
  induction items with
  | nil => exact .pure _
  | cons y ys ih =>
    refine .bind (hlater y x) fun comes => ?_
    split
    · exact .pure _
    · exact .bind ih fun _ => .pure _

omit henv in
theorem keeps_sortItemsBy {later : Datum → Datum → Run Bool} (hlater : ∀ a b, Keeps id (later a b))
    (acc items : List Datum) : Keeps id (sortItemsBy later acc items) := by
  induction items generalizing acc with
  | nil => exact .pure _
  | cons x xs ih => exact .bind (keeps_insertSortedBy hlater x acc) fun _ => ih _

theorem keeps_laterBy (f : Datum) (pos : Position) (a b : Datum) :
    Keeps id (laterBy env f pos a b) := by
  refine .bind (keeps_callback henv f [a] b 0 pos) fun d => ?_
  split
  · exact .pure _
  · exact .pure _
  · exact .pure _

theorem keeps_callingBuiltin? {name : String} {pos : Position} {xs args : List Datum}
    {run : Run Reply} (h : callingBuiltin? env name pos xs args = some run) : Keeps id run := by
  unfold callingBuiltin? at h
  have hmap := fun f => keeps_mapItems henv f pos 0 xs
  have hfilter := fun f => keeps_filterItems henv f pos 0 xs
  have hfind := fun f => keeps_findItem henv f pos 0 xs
  have hreduce := fun f acc => keeps_reduceItems henv f pos acc 0 xs
  split at h <;> cases h
  · exact .bind (hmap _) fun _ => .pure _
  · exact .bind (hfilter _) fun _ => .pure _
  · exact .bind (hreduce _ _) fun _ => .pure _
  · exact .bind (hreduce _ _) fun _ => .pure _
  · exact .bind (hfind _) fun _ => .pure _
  · exact .bind (hfilter _) fun _ => .pure _
  · exact .bind (hfind _) fun _ => .pure _
  · exact .bind (hfind _) fun _ => .pure _
  · exact .bind (keeps_ofComputed _) fun _ => .pure _
  · exact .bind (keeps_sortItemsBy (keeps_laterBy henv _ pos) _ _) fun _ => .pure _

theorem keeps_builtin? {name : String} {pos : Position} {self : Datum} {args : List Datum}
    {run : Run Reply} (h : builtin? env name pos self args = some run) : Keeps id run := by
  unfold builtin? at h
  split at h
  · next found =>
    cases h
    exact keeps_basicBuiltin? found
  · split at h
    · exact keeps_callingBuiltin? henv h
    · cases h

theorem keeps_callBuiltin (name : String) (args : List Datum) (pos : Position) :
    Keeps Prod.fst (callBuiltin env name args pos) := by
  refine .bind (RunOn.keeps_lift (keeps_tick env pos)) fun _ => .bind RunOn.keeps_self fun self => ?_
  split
  · next run =>
    refine .bind (RunOn.keeps_lift (keeps_locating (keeps_builtin? henv run) pos)) fun reply => ?_
    refine .bind (RunOn.keeps_setSelf _) fun _ => ?_
    exact .bind (RunOn.keeps_lift (keeps_checkSize env _ pos)) fun _ => .pure _
  · exact RunOn.keeps_raise _ _

end builtins

/-! ### Chains -/

section chains

open Run

theorem keeps_applyBinary (env : Env) (op : BinaryOp) (a b : Datum) (pos : Position) :
    Keeps id (applyBinary env op a b pos) := by
  unfold applyBinary
  dsimp only
  cases binary? op a b with
  | none =>
    split
    · exact .bind (keeps_tick env pos) fun _ => keeps_raise _ _
    · exact keeps_raise _ _
  | some r =>
    have computed : Keeps id (do
        let d ← locating pos (ofComputed r)
        checkSize env d pos
        return d) := by
      refine .bind (keeps_locating (keeps_ofComputed _) pos) fun d => ?_
      exact .bind (keeps_checkSize env d pos) fun _ => .pure _
    split
    · exact .bind (keeps_tick env pos) fun _ => computed
    · exact computed

theorem keeps_change (c : Change) (env : Env) (old : Datum) : Keeps id (c.apply env old) := by
  have rest : ∀ new, Keeps id (do checkSize env new c.pos; return new : Run Datum) :=
    fun new => .bind (keeps_checkSize env new c.pos) fun _ => .pure _
  unfold Change.apply
  split
  · exact .pure _
  · dsimp only
    split
    · exact .bind (.pure _) rest
    · exact .bind (.pure _) rest
    · exact .bind (keeps_applyBinary env _ _ _ _) rest

theorem keeps_asIndex (arg : Datum) (pos : Position) : Keeps id (asIndex arg pos) := by
  unfold asIndex
  split
  · exact .pure _
  · exact keeps_raise _ _

theorem keeps_asKey (arg : Datum) (pos : Position) : Keeps id (asKey arg pos) := by
  unfold asKey
  split
  · exact .pure _
  · exact keeps_raise _ _

theorem keeps_arrayIndex (xs : List Datum) (arg : Datum) (pos : Position) :
    Keeps id (arrayIndex xs arg pos) := by
  refine .bind (keeps_asIndex arg pos) fun i => ?_
  split
  · exact .pure _
  · exact keeps_raise _ _

theorem keeps_textIndex (s : String) (arg : Datum) (pos : Position) :
    Keeps id (textIndex s arg pos) := by
  refine .bind (keeps_asIndex arg pos) fun i => ?_
  split
  · exact .pure _
  · exact keeps_raise _ _

theorem keeps_bitIndex (arg : Datum) (pos : Position) : Keeps id (bitIndex arg pos) := by
  refine .bind (keeps_asIndex arg pos) fun i => ?_
  split
  · exact .pure _
  · exact keeps_raise _ _

theorem keeps_getIndexed (env : Env) (self arg : Datum) (argPos opPos : Position) :
    Keeps id (getIndexed env self arg argPos opPos) := by
  refine .bind (keeps_tick env opPos) fun _ => ?_
  split
  · exact .bind (keeps_asKey _ _) fun _ => .pure _
  · exact .bind (keeps_arrayIndex _ _ _) fun _ => .pure _
  · exact .pure _
  · exact .bind (keeps_textIndex _ _ _) fun _ => .pure _
  · exact .bind (keeps_bitIndex _ _) fun _ => .pure _
  · exact .bind (keeps_tick _ _) fun _ => .pure _
  · exact keeps_raise _ _

theorem keeps_partChange {c : Change} {env : Env} {before : Run Unit} (hbefore : Keeps id before)
    (old : Datum) : Keeps id (if c.op.isSome then (do before; c.apply env old) else pure c.value) := by
  split
  · exact .bind hbefore fun _ => keeps_change c env old
  · exact .pure _

theorem keeps_setIndexed (env : Env) (c : Change) (arg : Datum) (argPos opPos : Position) :
    Keeps Prod.fst (setIndexed env c arg argPos opPos) := by
  refine .bind (RunOn.keeps_lift (keeps_tick env opPos)) fun _ => .bind RunOn.keeps_self fun self => ?_
  split
  · refine .bind (RunOn.keeps_lift (keeps_asKey _ _)) fun k => .bind (RunOn.keeps_setSelf _) fun _ => ?_
    exact .bind (RunOn.keeps_lift (keeps_change c env _)) fun _ => RunOn.keeps_setSelf _
  · refine .bind (RunOn.keeps_lift (keeps_arrayIndex _ _ _)) fun k => ?_
    exact .bind (RunOn.keeps_lift (keeps_change c env _)) fun _ => RunOn.keeps_setSelf _
  · refine .bind (RunOn.keeps_lift (keeps_textIndex _ _ _)) fun k => ?_
    refine .bind (RunOn.keeps_lift (keeps_change c env _)) fun d => ?_
    split
    · exact RunOn.keeps_setSelf _
    · exact RunOn.keeps_raise _ _
  · refine .bind (RunOn.keeps_lift (keeps_partChange (keeps_tick env opPos) _)) fun new => ?_
    exact .bind (RunOn.keeps_lift (keeps_tick env opPos)) fun _ => RunOn.keeps_setSelf _
  · exact RunOn.keeps_raise _ _

theorem keeps_getProperty (env : Env) (self : Datum) (name : String) (pos opPos : Position) :
    Keeps id (getProperty env self name pos opPos) := by
  refine .bind (keeps_tick env pos) fun _ => ?_
  split
  · exact .pure _
  · exact .bind (keeps_tick env opPos) fun _ => .pure _
  · split
    · split
      · exact .bind (keeps_locating (keeps_ofComputed _) pos) fun _ => .pure _
      · exact keeps_raise _ _
    · exact keeps_raise _ _

theorem keeps_setProperty (env : Env) (c : Change) (name : String) (pos opPos : Position) :
    Keeps Prod.fst (setProperty env c name pos opPos) := by
  have htick := fun pos => RunOn.keeps_lift (keeps_tick env pos)
  refine .bind RunOn.keeps_self fun self => ?_
  split
  · exact keeps_setIndexed env c _ _ _
  · refine .bind (RunOn.keeps_lift ?_) fun new => ?_
    · split
      · exact .bind (keeps_tick _ _) fun _ => .bind (keeps_tick _ _) fun _ => keeps_change c env _
      · exact .pure _
    · exact .bind (htick pos) fun _ => .bind (htick opPos) fun _ => RunOn.keeps_setSelf _
  · exact .bind (htick pos) fun _ => RunOn.keeps_raise _ _

variable {env : Env} (henv : env.Keeps)
include henv

theorem keeps_callValue (f : Datum) (args : List Datum) (pos : Position) :
    Keeps Prod.fst (callValue env f args pos) := by
  unfold callValue
  split
  · split
    · exact RunOn.keeps_lift (keeps_callFree henv _ _ _)
    · refine .bind (RunOn.keeps_lift (keeps_withBound _ _)) fun values => ?_
      split
      · exact RunOn.keeps_raise _ _
      · exact RunOn.keeps_lift (keeps_onValue (keeps_callBuiltin henv _ _ _) _)
  · exact RunOn.keeps_raise _ _

theorem keeps_callScriptOn (f : Datum) (args : List Datum) (pos : Position) :
    Keeps Prod.fst (callScriptOn env f args pos) := by
  unfold callScriptOn
  split
  · split
    · exact keeps_callOn henv _ _ _
    · exact .bind (RunOn.keeps_lift (keeps_withBound _ _)) fun _ => keeps_callBuiltin henv _ _ _
  · exact RunOn.keeps_raise _ _

theorem keeps_callOwnMethod (name : String) (self : Datum) (args : List Datum) (pos : Position) :
    Keeps Prod.fst (callOwnMethod env name self args pos) := by
  unfold callOwnMethod
  split
  · exact .bind (keeps_callScriptOn henv _ _ _) fun _ => .pure _
  · split
    · exact .bind (keeps_callOn henv _ _ _) fun _ => .pure _
    · exact .bind (keeps_callBuiltin henv _ _ _) fun _ => .pure _

theorem keeps_callMethod (name : String) (args : List Datum) (pos : Position) :
    Keeps Prod.fst (callMethod env name args pos) := by
  refine .bind RunOn.keeps_self fun self => ?_
  split
  · exact .bind (keeps_callValue henv _ _ _) fun _ => .pure _
  · exact .bind (keeps_callScriptOn henv _ _ _) fun _ => .pure _
  · exact .pure _
  · exact .pure _
  · exact .pure _
  · exact keeps_callOwnMethod henv _ _ _ _

omit henv in
theorem keeps_putBack (value whole : Datum) (changed : Bool) (pos : Position) :
    Keeps Prod.fst (if changed then do
        RunOn.lift (Run.tick env pos)
        RunOn.setSelf whole
        return (value, changed)
      else return (value, changed) : RunOn (Datum × Bool)) := by
  split
  · refine .bind (RunOn.keeps_lift (keeps_tick env pos)) fun _ => ?_
    exact .bind (RunOn.keeps_setSelf _) fun _ => .pure _
  · exact .pure _

omit henv in
theorem keeps_intoIndexed {rest : RunOn (Datum × Bool)} (hrest : Keeps Prod.fst rest) (arg : Datum)
    (argPos opPos : Position) : Keeps Prod.fst (intoIndexed env arg argPos opPos rest) := by
  refine .bind RunOn.keeps_self fun self => ?_
  refine .bind (RunOn.keeps_lift (keeps_getIndexed env self arg argPos opPos)) fun part => ?_
  split
  · exact RunOn.keeps_onPart hrest _ _
  · exact RunOn.keeps_onPart hrest _ _
  · exact .bind (RunOn.keeps_onCopy hrest part) fun _ => keeps_putBack _ _ _ _
  · exact .bind (RunOn.keeps_onCopy hrest part) fun _ => .pure _

omit henv in
theorem keeps_intoProperty {rest : RunOn (Datum × Bool)} (hrest : Keeps Prod.fst rest)
    (name : String) (pos opPos : Position) :
    Keeps Prod.fst (intoProperty env name pos opPos rest) := by
  refine .bind RunOn.keeps_self fun self => ?_
  refine .bind (RunOn.keeps_lift (keeps_getProperty env self name pos opPos)) fun part => ?_
  split
  · exact RunOn.keeps_onPart hrest _ _
  · exact .bind (RunOn.keeps_onCopy hrest part) fun _ => keeps_putBack _ _ _ _
  · exact .bind (RunOn.keeps_onCopy hrest part) fun _ => .pure _

theorem keeps_walk (change : Option Change) (steps : List Step) :
    Keeps Prod.fst (walk env change steps) := by
  induction steps generalizing change with
  | nil => exact .bind RunOn.keeps_self fun _ => .pure _
  | cons step rest ih =>
    rw [walk]
    refine .bind RunOn.keeps_self fun self => ?_
    split
    · exact .pure _
    · refine RunOn.keeps_locating ?_ _
      split
      · exact .bind (keeps_setIndexed _ _ _ _ _) fun _ => .pure _
      · exact .bind (RunOn.keeps_lift (keeps_getIndexed _ _ _ _ _)) fun _ => .pure _
      · exact keeps_intoIndexed (ih _) _ _ _
      · exact .bind (keeps_setProperty _ _ _ _ _) fun _ => .pure _
      · exact .bind (RunOn.keeps_lift (keeps_getProperty _ _ _ _ _)) fun _ => .pure _
      · exact keeps_intoProperty (ih _) _ _ _
      · exact keeps_callMethod henv _ _ _
      · refine .bind (keeps_callMethod henv _ _ _) fun _ => ?_
        exact .bind (RunOn.keeps_onCopy (ih _) _) fun _ => .pure _

theorem keeps_walkShared (change : Option Change) (steps : List Step) :
    Keeps Prod.fst (walkShared env change steps) := by
  cases steps with
  | nil => exact keeps_walk henv change []
  | cons step rest =>
    rw [walkShared]
    split
    · refine .bind RunOn.keeps_self fun self => ?_
      split
      · exact .pure _
      · exact .bind (RunOn.keeps_onCopy (keeps_walk henv change rest) _) fun _ => .pure _
    · exact keeps_walk henv change (step :: rest)

theorem keeps_walkHeld (held : Option Datum) (change : Option Change) (steps : List Step) :
    Keeps Prod.fst (walkHeld env held change steps) := by
  unfold walkHeld
  split
  · exact keeps_walkShared henv change steps
  · exact keeps_walk henv change steps

end chains

/-! ### Loops and recovery -/

section loops

open Run

theorem keeps_round {round : Run (Option Datum)} {more : Run Datum} (hround : Keeps id round)
    (hmore : Keeps id more) : Keeps id (fun m => match round m with
      | (.ok (some v), m) => (.ok v, m)
      | (.ok none, m) => more m
      | (.error s, m) => (.error s, m)
      | (.aborted, m) => (.aborted, m)) := by
  intro m
  have first := hround m
  dsimp only
  split <;> rename_i heq <;> rw [heq] at first
  · exact first
  · exact first.trans (hmore _)
  · exact first
  · exact first

theorem keeps_repeatRun {round : Run (Option Datum)} (hround : Keeps id round) (n : Nat) :
    Keeps id (repeatRun n round) := by
  induction n with
  | zero => exact .ofOutcome _
  | succ n ih => exact keeps_round hround ih

theorem keeps_eachRun {round : Nat → Datum → Run (Option Datum)}
    (hround : ∀ i d, Keeps id (round i d)) (i : Nat) (items : List Datum) :
    Keeps id (eachRun round i items) := by
  induction items generalizing i with
  | nil => exact .pure _
  | cons x xs ih => exact keeps_round (hround i x) (ih _)

theorem keeps_countRun {round : Nat → Datum → Run (Option Datum)}
    (hround : ∀ i d, Keeps id (round i d)) (count i : Nat) (n : Int) :
    Keeps id (countRun round count i n) := by
  induction count generalizing i n with
  | zero => exact .pure _
  | succ count ih => exact keeps_round (hround i _) (ih _ _)

theorem keeps_loopBody {body : Run Datum} (hbody : Keeps id body) : Keeps id (loopBody body) := by
  intro m
  have whole := hbody m
  unfold loopBody
  split <;> rename_i heq <;> rw [heq] at whole <;> exact whole

theorem keeps_whileRound {test : Run Bool} {body : Run Datum} (htest : Keeps id test)
    (hbody : Keeps id body) : Keeps id (whileRound test body) := by
  refine .bind htest fun goOn => ?_
  split
  · exact keeps_loopBody hbody
  · exact .pure _

theorem keeps_untilRound {test : Run Bool} {body : Run Datum} (htest : Keeps id test)
    (hbody : Keeps id body) : Keeps id (untilRound body test) := by
  refine .bind (keeps_loopBody hbody) fun v => ?_
  split
  · exact .pure _
  · refine .bind htest fun goOn => ?_
    split
    · exact .pure _
    · exact .pure _

theorem keeps_itemRound (env : Env) (name : String) (counter : Option String) (pos : Position)
    {body : Run Datum} (hbody : Keeps id body) (i : Nat) (item : Datum) :
    Keeps id (itemRound env name counter pos body i item) := by
  refine .bind (keeps_forM (fun c => keeps_assignVariable c _) _) fun _ => ?_
  refine .bind (keeps_assignVariable name item) fun _ => ?_
  exact .bind (keeps_tick env pos) fun _ => keeps_loopBody hbody

theorem keeps_loopOver (items : Datum) (pos : Position) {round : Nat → Datum → Run (Option Datum)}
    (hround : ∀ i d, Keeps id (round i d)) : Keeps id (loopOver items pos round) := by
  unfold loopOver
  split
  · exact keeps_eachRun hround _ _
  · exact keeps_eachRun hround _ _
  · exact keeps_countRun hround _ _ _
  · exact keeps_raise _ _

theorem keeps_asTest (d : Datum) (pos : Position) : Keeps id (asTest d pos) := by
  unfold asTest
  split
  · exact .pure _
  · exact keeps_raise _ _

theorem keeps_recover {x : Run Datum} {handler : Datum → Run Datum} (hx : Keeps id x)
    (hhandler : ∀ d, Keeps id (handler d)) : Keeps id (recover x handler) := by
  intro m
  have first := hx m
  unfold recover
  split <;> rename_i heq <;> rw [heq] at first
  · exact first
  · next f m' =>
    split
    · have second := hhandler f.caught m'
      split <;> rename_i heq' <;> rw [heq'] at second
      · exact first.trans second
      · split
        · exact first.trans second
        · exact first.trans second
      · exact first.trans second
      · exact first.trans second
    · exact first
  · exact first
  · exact first

end loops

/-! ### Names and calls -/

section names

open Run

theorem keeps_functionNamed (name : Datum) (pos : Position) : Keeps id (functionNamed name pos) := by
  unfold functionNamed
  split
  · split
    · exact .pure _
    · exact keeps_raise _ _
  · exact keeps_raise _ _

theorem keeps_checkConstant (v : Option Variable) (name : String) (pos : Position)
    (steps : List Step) (change : Option Change) :
    Keeps id (checkConstant v name pos steps change) := by
  unfold checkConstant
  split
  · split
    · exact keeps_raise _ _
    · split
      · exact keeps_raise _ _
      · exact .pure _
    · exact .pure _
  · exact .pure _

theorem keeps_assignName (env : Env) (name : String) (pos : Position) (c : Change) :
    Keeps id (assignName env name pos c) := by
  refine .bind (keeps_tick env pos) fun _ => .bind (keeps_lookup name pos) fun old => ?_
  refine .bind (keeps_find? name) fun v => ?_
  split
  · exact keeps_raise _ _
  · exact .bind (keeps_change c env old) fun _ => keeps_assignVariable name _

theorem keeps_assignReceiver (env : Env) (pos : Position) (c : Change) :
    Keeps id (assignReceiver env pos c) := by
  refine .bind (keeps_tick env pos) fun _ => .bind (keeps_receiver pos) fun old => ?_
  exact .bind (keeps_change c env old) fun new m => kept_keepReceiver new m

theorem keeps_counted {α : Type} (env : Env) (pos : Position) {x : Run α} (hx : Keeps id x) :
    Keeps id (counted env pos x) := .bind (keeps_tick env pos) fun _ => hx

theorem keeps_applyUnary (env : Env) (op : UnaryOp) (d : Datum) (pos : Position) :
    Keeps id (applyUnary env op d pos) := by
  unfold applyUnary
  split
  · exact .pure _
  · refine .bind (keeps_tick env pos) fun _ => ?_
    split
    · exact keeps_locating (keeps_ofComputed _) pos
    · exact keeps_raise _ _

theorem keeps_addPiece (env : Env) (acc : String) (d : Datum) (pos : Position) :
    Keeps id (addPiece env acc d pos) := by
  have rest : ∀ acc, Keeps id (do checkSize env (.string acc) pos; return acc : Run String) :=
    fun acc => .bind (keeps_checkSize env _ pos) fun _ => .pure _
  unfold addPiece
  dsimp only
  split
  · exact .bind (.pure _) rest
  · exact .bind (keeps_tick env pos) fun _ => .bind (.pure _) rest

theorem keeps_countRound (env : Env) (body : List Stmt) (pos : Position) :
    Keeps id (countRound env body pos) := by
  unfold countRound
  dsimp only
  split
  · exact .bind (keeps_tick env pos) fun _ => .pure _
  · exact .pure _

variable {env : Env} (henv : env.Keeps)
include henv

theorem keeps_languageCall? {name : String} {args : List Datum} {pos : Position} {run : Run Datum}
    (h : languageCall? env name args pos = some run) : Keeps id run := by
  unfold languageCall? at h
  split at h <;> cases h
  · exact keeps_functionNamed _ _
  · exact keeps_onValue (keeps_callValue henv _ _ _) _
  · exact .pure _
  · exact .pure _
  · exact .pure _
  · exact .pure _
  · exact .bind (keeps_find? _) fun _ => .pure _
  · exact .bind (keeps_printLine _) fun _ => .pure _
  · exact .bind (keeps_debugLine _ _) fun _ => .pure _

theorem keeps_callNamed (name : String) (args : List Datum) (pos : Position) :
    Keeps id (callNamed env name args pos) := by
  unfold callNamed
  split
  · next run => exact keeps_languageCall? henv run
  · split
    · exact keeps_callFree henv _ _ _
    · split
      · exact .bind (keeps_tick env pos) fun _ => keeps_raise _ _
      · exact keeps_onValue (keeps_callBuiltin henv _ _ _) _

theorem keeps_callOnVariable (name first : String) (firstPos : Position) (rest : List Datum)
    (pos : Position) : Keeps id (callOnVariable env name first firstPos rest pos) := by
  refine .bind (keeps_tick env firstPos) fun _ => .bind (keeps_lookup first firstPos) fun self => ?_
  refine .bind (keeps_find? first) fun v => ?_
  dsimp only
  split
  · exact .pure _
  · split
    · exact keeps_onVariable (keeps_callBuiltin henv _ _ _) _ _
    · exact keeps_callNamed henv _ _ _

theorem keeps_walkVariable (name : String) (pos : Position) (steps : List Step)
    (change : Option Change) : Keeps id (walkVariable env name pos steps change) := by
  refine .bind (keeps_tick env pos) fun _ => .bind (keeps_lookup name pos) fun d => ?_
  refine .bind (keeps_find? name) fun v => .bind (keeps_checkConstant v name pos steps change) fun _ => ?_
  exact .bind (keeps_onVariable (keeps_walkHeld henv _ change steps) _ _) fun _ => .pure _

theorem keeps_walkReceiver (pos : Position) (steps : List Step) (change : Option Change) :
    Keeps id (walkReceiver env pos steps change) := by
  refine .bind (keeps_tick env pos) fun _ => .bind (keeps_receiver pos) fun d => ?_
  refine .bind keeps_held fun held => ?_
  exact .bind (keeps_onReceiver (keeps_walkHeld henv held change steps) _) fun _ => .pure _

theorem keeps_walkValue (d : Datum) (steps : List Step) : Keeps id (walkValue env d steps) :=
  .bind (keeps_onValue (keeps_walk henv none steps) _) fun _ => .pure _

end names

/-! ### Expressions and statements -/

section programs

open Run

/-- The links of a chain. -/
def Expr.links : Expr → List Link
  | .chain _ links => links
  | _ => []

variable {env : Env} (henv : env.Keeps)
include henv

set_option linter.unusedSectionVars false in
mutual

theorem keeps_eval : ∀ e : Expr, Keeps id (eval env e)
  | .lit d _ => by
    rw [eval]
    exact .pure _
  | .interp parts _ => by
    rw [eval]
    exact .bind (keeps_evalPieces "" parts) fun _ => .pure _
  | .array items pos => by
    rw [eval]
    refine .bind (keeps_evalAll items) fun _ => ?_
    exact .bind (keeps_checkSize env _ pos) fun _ => .pure _
  | .map entries pos => by
    rw [eval]
    refine .bind (keeps_evalEntries entries) fun _ => ?_
    exact .bind (keeps_checkSize env _ pos) fun _ => .pure _
  | .var name pos => by
    rw [eval]
    exact keeps_lookup name pos
  | .receiver pos => by
    rw [eval]
    exact keeps_receiver pos
  | .block body _ => by
    rw [eval]
    exact keeps_inBlock (keeps_runAll body)
  | .call name args pos => by
    have hargs := keeps_evalAll args
    have hrest := keeps_evalTail args
    by_cases h : ∃ first firstPos rest, args = .var first firstPos :: rest
    · obtain ⟨first, firstPos, rest, rfl⟩ := h
      rw [eval]
      exact .bind hrest fun _ => keeps_callOnVariable henv _ _ _ _ _
    · rw [eval]
      · refine .bind hargs fun values => ?_
        split
        · exact keeps_functionNamed _ _
        · exact .bind keeps_held fun _ => .pure _
        · exact keeps_callNamed henv _ _ _
      · exact fun first firstPos rest heq => h ⟨first, firstPos, rest, heq⟩
  | .unary op arg pos => by
    rw [eval]
    exact .bind (keeps_counted env _ (keeps_eval arg)) fun _ => keeps_applyUnary env _ _ _
  | .binary op left right pos => by
    rw [eval]
    refine .bind (keeps_counted env _ (keeps_eval left)) fun _ => ?_
    exact .bind (keeps_counted env _ (keeps_eval right)) fun _ => keeps_applyBinary env _ _ _ _
  | .and left right _ => by
    have hright := keeps_counted env right.pos (keeps_eval right)
    rw [eval]
    refine .bind (keeps_counted env _ (keeps_eval left)) fun _ => .bind (keeps_asTest _ _) fun b => ?_
    split
    · exact .bind hright fun _ => .bind (keeps_asTest _ _) fun _ => .pure _
    · exact .pure _
  | .or left right _ => by
    have hright := keeps_counted env right.pos (keeps_eval right)
    rw [eval]
    refine .bind (keeps_counted env _ (keeps_eval left)) fun _ => .bind (keeps_asTest _ _) fun b => ?_
    split
    · exact .pure _
    · exact .bind hright fun _ => .bind (keeps_asTest _ _) fun _ => .pure _
  | .coalesce left right _ => by
    have hright := keeps_counted env right.pos (keeps_eval right)
    rw [eval]
    refine .bind (keeps_counted env _ (keeps_eval left)) fun d => ?_
    split
    · exact hright
    · exact .pure _
  | .chain base links => by
    have hbase := keeps_counted env base.pos (keeps_eval base)
    have hlinks := keeps_evalLinks (isDirect links) links
    cases base with
    | var name pos =>
      rw [eval]
      exact .bind hlinks fun _ => keeps_walkVariable henv _ _ _ _
    | receiver pos =>
      rw [eval]
      exact .bind hlinks fun _ => keeps_walkReceiver henv _ _ _
    | _ =>
      simp only [eval] at hbase ⊢
      exact .bind hlinks fun _ => .bind hbase fun _ => keeps_walkValue henv _ _
  | .closure name captures pos => by
    rw [eval]
    exact .bind (keeps_mapM (fun c => keeps_share c pos) _) fun _ => .pure _

theorem keeps_evalAll : ∀ es : List Expr, Keeps id (evalAll env es)
  | [] => by
    rw [evalAll]
    exact .pure _
  | e :: rest => by
    rw [evalAll]
    refine .bind (keeps_counted env _ (keeps_eval e)) fun _ => ?_
    exact .bind (keeps_evalAll rest) fun _ => .pure _

theorem keeps_evalTail : ∀ es : List Expr, Keeps id (evalAll env es.tail)
  | [] => by
    rw [List.tail_nil, evalAll]
    exact .pure _
  | _ :: rest => keeps_evalAll rest

theorem keeps_evalEntries : ∀ es : List (String × Expr), Keeps id (evalEntries env es)
  | [] => by
    rw [evalEntries]
    exact .pure _
  | (k, e) :: rest => by
    rw [evalEntries]
    refine .bind (keeps_counted env _ (keeps_eval e)) fun _ => ?_
    exact .bind (keeps_evalEntries rest) fun _ => .pure _

theorem keeps_evalPieces (acc : String) : ∀ es : List Expr, Keeps id (evalPieces env acc es)
  | [] => by
    rw [evalPieces]
    exact .pure _
  | e :: rest => by
    rw [evalPieces]
    refine .bind (keeps_counted env _ (keeps_eval e)) fun _ => ?_
    exact .bind (keeps_addPiece env _ _ _) fun acc => keeps_evalPieces acc rest

theorem keeps_evalLinks (direct : Bool) : ∀ links : List Link, Keeps id (evalLinks env direct links)
  | [] => by
    rw [evalLinks]
    exact .pure _
  | link :: rest => by
    have more : Keeps id (do
        let step ← evalLink env direct link
        return step :: (← evalLinks env direct rest) : Run (List Step)) :=
      .bind (keeps_evalLink direct link) fun _ => .bind (keeps_evalLinks direct rest) fun _ => .pure _
    rw [evalLinks]
    dsimp only
    split
    · exact .bind (keeps_tick env _) fun _ => more
    · exact more

theorem keeps_linksOf (direct : Bool) : ∀ e : Expr, Keeps id (evalLinks env direct e.links)
  | .chain _ links => keeps_evalLinks direct links
  | .lit _ _ | .interp _ _ | .array _ _ | .map _ _ | .var _ _ | .receiver _ | .block _ _
  | .call _ _ _ | .unary _ _ _ | .binary _ _ _ _ | .and _ _ _ | .or _ _ _ | .coalesce _ _ _
  | .closure _ _ _ => by
    rw [Expr.links, evalLinks]
    · exact .pure _
    · simp

theorem keeps_evalLink (direct : Bool) : ∀ link : Link, Keeps id (evalLink env direct link)
  | .index arg safe opPos => by
    have harg := keeps_eval arg
    rw [evalLink]
    dsimp only
    split
    · exact .bind harg fun _ => .pure _
    · exact .bind (keeps_counted env _ harg) fun _ => .pure _
  | .property name safe pos opPos => by
    rw [evalLink]
    exact .pure _
  | .method name args safe pos opPos => by
    rw [evalLink]
    exact .bind (keeps_evalAll args) fun _ => .pure _

theorem keeps_runAll : ∀ body : List Stmt, Keeps id (runAll env body)
  | [] => by
    rw [runAll]
    exact .pure _
  | [s] => by
    rw [runAll]
    exact keeps_counted env _ (keeps_run s)
  | s :: t :: rest => by
    rw [runAll]
    · exact .bind (keeps_counted env _ (keeps_run s)) fun _ => keeps_runAll (t :: rest)
    · simp

theorem keeps_run : ∀ s : Stmt, Keeps id (run env s)
  | .expr e => by
    have he := keeps_eval e
    rw [run]
    split
    · exact he
    · exact keeps_counted env _ he
  | .declare name init isConst _ => by
    rw [run]
    exact .bind (keeps_evalIf init) fun _ => .bind (keeps_declare _ _ _) fun _ => .pure _
  | .assign op target value pos => by
    have hlinks := fun direct => keeps_linksOf direct target
    rw [run]
    refine .bind (keeps_counted env _ (keeps_eval value)) fun d => ?_
    dsimp only
    split
    · exact .bind (keeps_assignName env _ _ _) fun _ => .pure _
    · exact .bind (keeps_assignReceiver env _ _) fun _ => .pure _
    · refine .bind (hlinks _) fun _ => ?_
      exact .bind (keeps_walkVariable henv _ _ _ _) fun _ => .pure _
    · refine .bind (hlinks _) fun _ => ?_
      exact .bind (keeps_walkReceiver henv _ _ _) fun _ => .pure _
    · exact .bind (keeps_raise _ _) fun _ => .pure _
  | .cond test yes no _ => by
    have hyes := keeps_inBlock (keeps_runAll yes)
    have hno := keeps_inBlock (keeps_runAll no)
    rw [run]
    refine .bind (keeps_counted env _ (keeps_eval test)) fun _ => .bind (keeps_asTest _ _) fun b => ?_
    split
    · exact hyes
    · exact hno
  | .choose subject cases otherwise _ => by
    have hcases := fun accepts => keeps_runCases accepts cases
    have hotherwise := keeps_inBlock (keeps_runAll otherwise)
    rw [run]
    refine .bind (keeps_counted env _ (keeps_eval subject)) fun d => .bind (hcases _) fun v => ?_
    split
    · exact .pure _
    · refine .bind (hcases _) fun v => ?_
      split
      · exact .pure _
      · exact hotherwise
  | .loop none body pos => by
    rw [run]
    refine keeps_repeatRun (keeps_whileRound (keeps_countRound env _ _) ?_) _
    exact keeps_inBlock (keeps_runAll body)
  | .loop (some test) body pos => by
    have htest := keeps_counted env test.pos (keeps_eval test)
    rw [run]
    refine keeps_repeatRun (keeps_whileRound ?_ (keeps_inBlock (keeps_runAll body))) _
    refine .bind (keeps_countRound env _ _) fun _ => .bind htest fun _ => keeps_asTest _ _
  | .repeat body goOn test _ => by
    have htest := keeps_counted env test.pos (keeps_eval test)
    rw [run]
    refine keeps_repeatRun (keeps_untilRound ?_ (keeps_inBlock (keeps_runAll body))) _
    exact .bind htest fun _ => .bind (keeps_asTest _ _) fun _ => .pure _
  | .each name counter items body pos => by
    have hbody := keeps_inBlock (keeps_runAll body)
    rw [run]
    refine .bind (keeps_counted env _ (keeps_eval items)) fun d => keeps_inBlock ?_
    refine .bind (keeps_forM (fun c => keeps_declare c .unit false) _) fun _ => ?_
    refine .bind (keeps_declare _ _ _) fun _ => ?_
    exact keeps_loopOver d _ (keeps_itemRound env _ _ _ hbody)
  | .block body _ => by
    rw [run]
    exact keeps_inBlock (keeps_runAll body)
  | .leave value _ => by
    rw [run]
    exact .bind (keeps_evalIf value) fun _ => .fail _
  | .next _ => by
    rw [run]
    exact .fail _
  | .give value _ => by
    rw [run]
    exact .bind (keeps_evalIf value) fun _ => .fail _
  | .throw value pos => by
    rw [run]
    exact .bind (keeps_evalIf value) fun _ => keeps_raise _ _
  | .attempt body name handler _ => by
    have hhandler := keeps_runAll handler
    rw [run]
    refine keeps_recover (keeps_inBlock (keeps_runAll body)) fun caught => keeps_inBlock ?_
    exact .bind (keeps_forM (fun v => keeps_declare v caught false) _) fun _ => hhandler

theorem keeps_evalIf : ∀ e : Option Expr, Keeps id (evalIf env e)
  | none => by
    rw [evalIf]
    exact .pure _
  | some e => by
    rw [evalIf]
    exact keeps_counted env _ (keeps_eval e)

theorem keeps_runCases (accepts : Expr → Bool) :
    ∀ cases : List (List Expr × Option Expr × List Stmt), Keeps id (runCases env accepts cases)
  | [] => by
    rw [runCases]
    exact .pure _
  | (literals, guard, body) :: rest => by
    have hguard := keeps_evalGuard guard
    have hbody := keeps_inBlock (keeps_runAll body)
    have hrest := keeps_runCases accepts rest
    rw [runCases]
    split
    · refine .bind hguard fun b => ?_
      split
      · exact .bind hbody fun _ => .pure _
      · exact hrest
    · exact hrest

theorem keeps_evalGuard : ∀ e : Option Expr, Keeps id (evalGuard env e)
  | none => by
    rw [evalGuard]
    exact .pure _
  | some e => by
    rw [evalGuard]
    exact .bind (keeps_counted env _ (keeps_eval e)) fun _ => keeps_asTest _ _

end

end programs

/-! ### Functions -/

section functions

variable {env : Env} (henv : env.Keeps)
include henv

end functions

end RowScript.Script
