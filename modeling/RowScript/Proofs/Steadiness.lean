import RowScript.Proofs.Uniformity
import RowScript.Script.Program

/-!
# Scripts do not see the numbers of handles

A run from a machine whose handles are moved, and whose collectors are where the handles point then, is
the run from the machine itself, moved: it ends alike, with the moved value or the moved fault, and it
leaves the moved machine. `Steady` says this of two attempts, the second of which is the first one with
the handles that occur in it moved.

There is one lemma for each part of the evaluator, and `steady_eval` and its companions follow the syntax.
Scripts hold no handles, so the two runs are of one script; the environments may still differ in the
top-level statements of their scripts, which nobody looks up (`Env.Akin`).
-/

namespace RowScript

namespace Script

instance : Movable Variable := ⟨fun ρ v => { v with value := move ρ v.value }⟩

instance : Movable (List Variable) := ⟨fun ρ => List.map (move ρ)⟩

instance : Movable Machine where
  move ρ m :=
    { m with
      scope := move ρ m.scope
      receiver := move ρ m.receiver
      cells := move ρ m.cells
      collectors := ρ.collectors m.collectors }

instance : Movable Signal where
  move ρ
    | .fault f => .fault (move ρ f)
    | .leave d => .leave (move ρ d)
    | .next => .next
    | .give d => .give (move ρ d)

/-- From a moved state the second attempt does what the first one does from the state, moved. -/
def Steady {s ε α : Type} [Movable s] [Movable ε] [Movable α] (ρ : Relocation)
    (x y : Attempt s ε α) : Prop :=
  ∀ a, y (move ρ a) = move ρ (x a)

namespace Steady

variable {s ε δ α β : Type} [Movable s] [Movable ε] [Movable δ] [Movable α] [Movable β]
  {ρ : Relocation}

theorem pure {a a' : α} (h : a' = move ρ a) :
    Steady ρ (Pure.pure a : Attempt s ε α) (Pure.pure a') := fun _ => by
  rw [h]
  rfl

theorem fail {e e' : ε} (h : e' = move ρ e) :
    Steady ρ (Attempt.fail e : Attempt s ε α) (Attempt.fail e') := fun _ => by
  rw [h]
  rfl

theorem aborted : Steady ρ (Attempt.ofOutcome .aborted : Attempt s ε α) (Attempt.ofOutcome .aborted) :=
  fun _ => rfl

theorem read : Steady ρ (Attempt.read : Attempt s ε s) Attempt.read := fun _ => rfl

theorem update {f g : s → s} (h : ∀ a, g (move ρ a) = move ρ (f a)) :
    Steady ρ (Attempt.update f : Attempt s ε Unit) (Attempt.update g) := fun a =>
  congrArg (Prod.mk _) (h a)

theorem bind {x y : Attempt s ε α} {f g : α → Attempt s ε β} (hx : Steady ρ x y)
    (hf : ∀ a, Steady ρ (f a) (g (move ρ a))) : Steady ρ (x >>= f) (y >>= g) := by
  intro state
  have first := hx state
  rcases hxs : x state with ⟨o, between⟩
  rw [hxs] at first
  cases o with
  | ok a =>
    rw [Attempt.bind_apply_of_ok hxs, Attempt.bind_apply_of_ok first]
    exact hf a between
  | error e =>
    rw [Attempt.bind_apply_of_error hxs, Attempt.bind_apply_of_error first]
    rfl
  | aborted =>
    rw [Attempt.bind_apply_of_aborted hxs, Attempt.bind_apply_of_aborted first]
    rfl

theorem bind_fixed [Movable.Fixed α] {x y : Attempt s ε α} {f g : α → Attempt s ε β}
    (hx : Steady ρ x y) (hf : ∀ a, Steady ρ (f a) (g a)) : Steady ρ (x >>= f) (y >>= g) :=
  .bind hx fun a => (move_fixed ρ a).symm ▸ hf a

theorem mapError {x y : Attempt s ε α} {f g : ε → δ} (hx : Steady ρ x y)
    (h : ∀ e, g (move ρ e) = move ρ (f e)) : Steady ρ (x.mapError f) (y.mapError g) := by
  intro state
  have first := hx state
  rcases hxs : x state with ⟨o, between⟩
  rw [hxs] at first
  rw [Attempt.mapError_apply_of f hxs, Attempt.mapError_apply_of g first]
  cases o with
  | ok a => rfl
  | error e => exact congrArg (fun e => (Outcome.error e, move ρ between)) (h e)
  | aborted => rfl

end Steady

variable {ρ : Relocation}

/-! ### Machines -/

theorem find?_move (name : String) (scope : List Variable) :
    (move ρ scope).find? (·.name == name) = move ρ (scope.find? (·.name == name)) :=
  List.find?_map

theorem scope_length_move (scope : List Variable) : (move ρ scope).length = scope.length :=
  List.length_map (move ρ)

theorem replaceIn_move (name : String) (value : Datum) (scope : List Variable) :
    Run.replaceIn name (move ρ value) (move ρ scope) = move ρ (Run.replaceIn name value scope) := by
  induction scope with
  | nil => rfl
  | cons v rest ih =>
    have tail : move ρ (v :: rest) = move ρ v :: move ρ rest := rfl
    rw [tail, Run.replaceIn, Run.replaceIn, ih]
    show (if v.name == name then _ else _) = _
    split <;> rfl

theorem cells_modify_move (cells : Array Datum) (i : Nat) (value : Datum) :
    (move ρ cells).modify i (fun _ => move ρ value) = move ρ (cells.modify i fun _ => value) := by
  refine Array.ext_getElem? fun j => ?_
  show (Array.modify (cells.map (move ρ)) i _)[j]? = (Array.map (move ρ) _)[j]?
  rw [Array.getElem?_modify, Array.getElem?_map, Array.getElem?_map, Array.getElem?_modify]
  split <;> cases cells[j]? <;> rfl

namespace Run

variable {α : Type} [Movable α]

theorem steady_raise {cause cause' : Cause} (h : cause' = move ρ cause) (pos : Position) :
    Steady ρ (raise cause pos : Run α) (raise cause' pos) :=
  .fail (congrArg (fun c => Signal.fault { cause := c, pos }) h)

theorem steady_ofComputed {c c' : Computed α} (h : c' = move ρ c) :
    Steady ρ (ofComputed c) (ofComputed c') := by
  rw [h]
  cases c with
  | ok a => exact .pure rfl
  | error cause => exact steady_raise rfl _

theorem steady_locating {x y : Run α} (hx : Steady ρ x y) (pos : Position) :
    Steady ρ (locating pos x) (locating pos y) :=
  hx.mapError fun e => by
    cases e with
    | fault f => exact congrArg Signal.fault (Fault.move_locate f pos).symm
    | _ => rfl

theorem steady_load (d : Datum) : Steady ρ (load d) (load (move ρ d)) :=
  .bind .read fun m => .pure (loadFrom_move m.cells d)

theorem steady_find? (name : String) : Steady ρ (find? name) (find? name) :=
  .bind .read fun m => .pure (find?_move name m.scope)

theorem steady_lookup (name : String) (pos : Position) :
    Steady ρ (lookup name pos) (lookup name pos) := by
  refine .bind (steady_find? name) fun v => ?_
  cases v with
  | some v => exact steady_load v.value
  | none => exact steady_raise rfl pos

theorem steady_assignVariable (name : String) (value : Datum) :
    Steady ρ (assignVariable name value) (assignVariable name (move ρ value)) := by
  have placed : Steady ρ
      (.update fun m => { m with scope := replaceIn name value m.scope } : Run Unit)
      (.update fun m => { m with scope := replaceIn name (move ρ value) m.scope }) :=
    .update fun m => congrArg (fun scope => { move ρ m with scope })
      (replaceIn_move name value m.scope)
  refine .bind (steady_find? name) fun v => ?_
  rcases v with _ | ⟨vname, d, isConst⟩
  · exact placed
  · cases d with
    | cell i =>
      exact .update fun m => congrArg (fun cells => { move ρ m with cells })
        (cells_modify_move m.cells i value)
    | _ => exact placed

theorem steady_declare (name : String) (value : Datum) (isConst : Bool) :
    Steady ρ (declare name value isConst) (declare name (move ρ value) isConst) :=
  .update fun _ => rfl

theorem steady_share (name : String) (pos : Position) :
    Steady ρ (share name pos) (share name pos) := by
  refine .bind (steady_find? name) fun v => ?_
  rcases v with _ | ⟨vname, d, isConst⟩
  · exact steady_raise rfl pos
  have shared (d : Datum) : Steady ρ (do
      let i := (← .read).cells.size
      .update fun m => { m with cells := m.cells.push d, scope := replaceIn name (.cell i) m.scope }
      return .cell i : Run Datum) (do
      let i := (← .read).cells.size
      .update fun m =>
        { m with cells := m.cells.push (move ρ d), scope := replaceIn name (.cell i) m.scope }
      return .cell i) := by
    refine .bind .read fun m => ?_
    have size : (move ρ m).cells.size = m.cells.size := Array.size_map
    rw [size]
    refine .bind_fixed (.update fun m' => ?_) fun _ => .pure rfl
    have cells : (move ρ m').cells.push (move ρ d) = move ρ (m'.cells.push d) :=
      Array.map_push.symm
    rw [cells, show (move ρ m').scope = move ρ m'.scope from rfl,
      show Datum.cell m.cells.size = move ρ (.cell m.cells.size) from rfl, replaceIn_move]
    rfl
  cases d with
  | cell i => exact .pure rfl
  | _ => exact shared _

theorem dropTo_move (size : Nat) (m : Machine) :
    dropTo size (move ρ m) = move ρ (dropTo size m) := by
  have dropped : (move ρ m.scope).drop ((move ρ m.scope).length - size) =
      move ρ (m.scope.drop (m.scope.length - size)) := by
    rw [scope_length_move]
    exact List.map_drop.symm
  exact congrArg (fun scope => { move ρ m with scope }) dropped

theorem steady_inBlock {x y : Run α} (hx : Steady ρ x y) :
    Steady ρ (inBlock x) (inBlock y) := by
  intro m
  simp only [inBlock, hx m]
  refine congrArg (Prod.mk _) ?_
  rw [show (move ρ m).scope = move ρ m.scope from rfl, scope_length_move]
  exact dropTo_move _ _

theorem steady_receiver (pos : Position) : Steady ρ (receiver pos) (receiver pos) := by
  refine .bind .read fun m => ?_
  obtain ⟨scope, self, cells, operations, collectors, log⟩ := m
  cases self with
  | some d => exact steady_load d
  | none => exact steady_raise rfl pos

theorem steady_held : Steady ρ held held := .bind .read fun _ => .pure rfl

theorem keepReceiver_move (value : Datum) (m : Machine) :
    keepReceiver (move ρ value) (move ρ m) = move ρ (keepReceiver value m) := by
  obtain ⟨scope, self, cells, operations, collectors, log⟩ := m
  rcases self with _ | d
  · rfl
  · cases d with
    | cell i =>
      exact congrArg (fun cells => (⟨move ρ scope, some (.cell i), cells, operations,
        ρ.collectors collectors, log⟩ : Machine)) (cells_modify_move cells i value)
    | _ => rfl

theorem steady_onValue {x y : RunOn α} (hx : Steady ρ x y) (d : Datum) :
    Steady ρ (onValue d x) (onValue (move ρ d) y) := by
  intro m
  have whole := hx (m, d)
  simp only [move_pair] at whole
  simp only [onValue, whole]
  rfl

theorem steady_onVariable {x y : RunOn α} (hx : Steady ρ x y) (name : String) (d : Datum) :
    Steady ρ (onVariable name d x) (onVariable name (move ρ d) y) := by
  intro m
  have whole := hx (m, d)
  simp only [move_pair] at whole
  simp only [onVariable, whole]
  exact congrArg (Prod.mk _) (congrArg Prod.snd (steady_assignVariable name _ _))

theorem steady_onReceiver {x y : RunOn α} (hx : Steady ρ x y) (d : Datum) :
    Steady ρ (onReceiver d x) (onReceiver (move ρ d) y) := by
  intro m
  have whole := hx (m, d)
  simp only [move_pair] at whole
  simp only [onReceiver, whole]
  exact congrArg (Prod.mk _) (keepReceiver_move _ _)

end Run

namespace RunOn

variable {α : Type} [Movable α]

theorem steady_lift {x y : Run α} (hx : Steady ρ x y) : Steady ρ (lift x) (lift y) := by
  rintro ⟨m, d⟩
  simp only [lift, move_pair, hx m]
  rfl

theorem steady_self : Steady ρ self self := fun _ => rfl

theorem steady_setSelf {d d' : Datum} (h : d' = move ρ d) : Steady ρ (setSelf d) (setSelf d') :=
  fun _ => by rw [h]; rfl

theorem steady_onPart {x y : RunOn α} (hx : Steady ρ x y) (part : Datum) {put put' : Datum → Datum}
    (hput : ∀ d, put' (move ρ d) = move ρ (put d)) :
    Steady ρ (onPart part put x) (onPart (move ρ part) put' y) := by
  rintro ⟨m, d⟩
  have whole := hx (m, part)
  simp only [move_pair] at whole
  simp only [onPart, move_pair, whole]
  exact congrArg (fun d => (_, _, d)) (hput _)

theorem steady_onCopy {x y : RunOn α} (hx : Steady ρ x y) (copy : Datum) :
    Steady ρ (onCopy copy x) (onCopy (move ρ copy) y) := by
  rintro ⟨m, d⟩
  have whole := hx (m, copy)
  simp only [move_pair] at whole
  simp only [onCopy, move_pair, whole]
  rcases x (m, copy) with ⟨o, m', copy'⟩
  cases o <;> rfl

theorem steady_raise {cause cause' : Cause} (h : cause' = move ρ cause) (pos : Position) :
    Steady ρ (raise cause pos : RunOn α) (raise cause' pos) :=
  steady_lift (Run.steady_raise h pos)

theorem steady_locating {x y : RunOn α} (hx : Steady ρ x y) (pos : Position) :
    Steady ρ (locating pos x) (locating pos y) :=
  hx.mapError fun e => by
    cases e with
    | fault f => exact congrArg Signal.fault (Fault.move_locate f pos).symm
    | _ => rfl

end RunOn

/-! ### Environments -/

/-- Two environments that limit alike, find the same functions, and call them alike. -/
structure Env.Akin (ρ : Relocation) (env env' : Env) : Prop where
  functions : ∀ name arity, env'.script.function? name arity = env.script.function? name arity
  maxOperations : env'.maxOperations = env.maxOperations
  timedOperations : env'.timedOperations = env.timedOperations
  maxText : env'.maxText = env.maxText
  call : ∀ f args pos, Steady ρ (env.call f args pos) (env'.call f (move ρ args) pos)

namespace Run

variable {env env' : Env} (akin : env.Akin ρ env')
include akin

theorem steady_tick (pos : Position) : Steady ρ (tick env pos) (tick env' pos) := by
  intro m
  have count : (move ρ m).operations = m.operations := rfl
  simp only [tick, akin.maxOperations, akin.timedOperations, count, apply_ite (move ρ)]
  rfl

theorem steady_checkSize (d : Datum) (pos : Position) :
    Steady ρ (checkSize env d pos) (checkSize env' (move ρ d) pos) := by
  simp only [checkSize, akin.maxText, Datum.textSize_move]
  split
  · split
    · exact steady_raise rfl pos
    · exact .pure rfl
  · exact .pure rfl

theorem steady_callOn (f : Function) (args : List Datum) (pos : Position) :
    Steady ρ (callOn env f args pos) (callOn env' f (move ρ args) pos) := by
  rintro ⟨m, d⟩
  have whole := akin.call f args pos (m, some d)
  simp only [move_pair, move_some] at whole
  simp only [callOn, move_pair, whole]
  exact congrArg (fun d => (_, _, d)) (move_getD _ _)

theorem steady_callFree (f : Function) (args : List Datum) (pos : Position) :
    Steady ρ (callFree env f args pos) (callFree env' f (move ρ args) pos) := by
  intro m
  have whole := akin.call f args pos (m, none)
  simp only [move_pair, move_none] at whole
  simp only [callFree, whole]
  rfl

end Run

/-! ### Built-ins -/

/-- Neither is found, or both are and the second is the first one moved. -/
inductive Matched {α : Type} [Movable α] (ρ : Relocation) : Option (Run α) → Option (Run α) → Prop
  | neither : Matched ρ none none
  | both {x y : Run α} (h : Steady ρ x y) : Matched ρ (some x) (some y)

/-- What is found is found after a relocation, and so is what is found behind one that can be undone. -/
theorem Matched.of_found {α : Type} [Movable α] {x? y? : Option (Run α)}
    (forth : ∀ x, x? = some x → ∃ y, y? = some y ∧ Steady ρ x y)
    (back : ∀ y, y? = some y → ∃ x, x? = some x) : Matched ρ x? y? := by
  cases x? with
  | some x =>
    obtain ⟨y, rfl, h⟩ := forth x rfl
    exact .both h
  | none =>
    cases y? with
    | none => exact .neither
    | some y =>
      obtain ⟨x, hx⟩ := back y rfl
      cases hx

theorem Matched.isNone_eq {α : Type} [Movable α] {x? y? : Option (Run α)} (h : Matched ρ x? y?) :
    y?.isNone = x?.isNone := by
  cases h <;> rfl

section builtins

open Run

theorem steady_logLine (e : LogEvent) : Steady ρ (logLine e) (logLine e) := .update fun _ => rfl

theorem steady_printLine (text : String) : Steady ρ (printLine text) (printLine text) :=
  steady_logLine _

theorem steady_debugLine (text : String) (pos : Position) :
    Steady ρ (debugLine text pos) (debugLine text pos) :=
  steady_logLine _

variable (sound : ρ.Sound)
include sound

theorem steady_emit (h : CollectorHandle) (values : List Datum) :
    Steady ρ (emit h values) (emit (ρ.handle h) (move ρ values)) := by
  refine .update fun m => ?_
  rw [Datum.itemValues_move]
  exact congrArg (fun collectors => { move ρ m with collectors }) (sound.put m.collectors h _)

theorem matched_basicBuiltin? (name : String) (pos : Position) (self : Datum) (args : List Datum) :
    Matched ρ (basicBuiltin? name pos self args)
      (basicBuiltin? name pos (move ρ self) (move ρ args)) := by
  obtain ⟨back, undoes⟩ := sound.undone
  unfold basicBuiltin?
  rw [plainBuiltin?_move undoes]
  cases plainBuiltin? name self args with
  | some r => exact .both (steady_ofComputed rfl)
  | none =>
    dsimp only [move_none]
    split
    · refine .both ?_
      rw [Datum.printText_move]
      exact .bind_fixed (steady_printLine _) fun _ => .pure rfl
    · refine .both ?_
      rw [Datum.debugText_move]
      exact .bind_fixed (steady_debugLine _ _) fun _ => .pure rfl
    · exact .both (.bind_fixed (steady_emit sound _ _) fun _ => .pure rfl)
    · split
      · next few =>
        rw [← length_move (ρ := ρ)] at few
        simp only [move_collector, if_pos few]
        exact .both (.bind_fixed (steady_emit sound _ _) fun _ => .pure rfl)
      · next many =>
        rw [← length_move (ρ := ρ)] at many
        simp only [move_collector, if_neg many]
        exact .neither
    · next hvalues hprint hdebug hrow =>
      split
      · next hargs => exact (hprint rfl (move_eq_nil.mp hargs)).elim
      · next hargs => exact (hdebug rfl (move_eq_nil.mp hargs)).elim
      · next hself hargs =>
        obtain ⟨h, hself, -⟩ := move_eq_collector.mp hself
        obtain ⟨d, rest, hargs, hd, hrest⟩ := move_eq_cons.mp hargs
        obtain ⟨row, rfl, -⟩ := move_eq_array.mp hd
        exact (hrow h row rfl hself (by rw [hargs, move_eq_nil.mp hrest])).elim
      · next hself =>
        obtain ⟨h, hself, -⟩ := move_eq_collector.mp hself
        exact (hvalues h rfl hself).elim
      · exact .neither

theorem steady_callBasic (name : String) (args : List Datum) (pos : Position) :
    Steady ρ (callBasic name args pos) (callBasic name (move ρ args) pos) := by
  have missing : Steady ρ (raise (.functionNotFound (Datum.signature name args)) pos : Run Datum)
      (raise (.functionNotFound (Datum.signature name (move ρ args))) pos) := by
    rw [Datum.signature_move]
    exact steady_raise rfl pos
  cases args with
  | nil => exact missing
  | cons self rest =>
    have matched := matched_basicBuiltin? sound name pos self rest
    simp only [callBasic, move_cons] at missing ⊢
    generalize basicBuiltin? name pos self rest = x?,
      basicBuiltin? name pos (move ρ self) (move ρ rest) = y? at matched
    cases matched with
    | neither => exact missing
    | both h => exact .bind h fun _ => .pure rfl

omit sound in
theorem steady_mapM {α β : Type} {f : α → Run Datum} {g : β → Run Datum} {t : α → β}
    (h : ∀ a, Steady ρ (f a) (g (t a))) (items : List α) :
    Steady ρ (items.mapM f) ((items.map t).mapM g) := by
  have loop (done : List Datum) : Steady ρ (List.mapM.loop f items done)
      (List.mapM.loop g (items.map t) (move ρ done)) := by
    induction items generalizing done with
    | nil => exact .pure (move_reverse done).symm
    | cons a rest ih => exact .bind (h a) fun d => ih (d :: done)
  exact loop []

omit sound in
theorem steady_forM {α : Type} {f g : α → Run Unit} (h : ∀ a, Steady ρ (f a) (g a))
    (items : List α) : Steady ρ (items.forM f) (items.forM g) := by
  induction items with
  | nil => exact .pure rfl
  | cons a rest ih => exact .bind (h a) fun _ => ih

omit sound in
theorem steady_withBound (bound args : List Datum) :
    Steady ρ (withBound bound args) (withBound (move ρ bound) (move ρ args)) := by
  unfold withBound
  rw [move_items bound]
  exact .bind (steady_mapM steady_load bound) fun values => .pure (move_append values args).symm

omit sound in
theorem isTrue_move (d : Datum) : isTrue (move ρ d) = isTrue d := by
  cases d <;> rfl

variable {env env' : Env} (akin : env.Akin ρ env')
include akin

omit sound in
theorem firstFunction?_akin (name : String) (arities : List Nat) :
    firstFunction? env' name arities = firstFunction? env name arities :=
  congrArg (List.findSome? · arities) (funext (akin.functions name))

theorem steady_callback (f : Datum) (before : List Datum) (item : Datum) (index : Nat)
    (pos : Position) : Steady ρ (callback env f before item index pos)
      (callback env' (move ρ f) (move ρ before) (move ρ item) index pos) := by
  cases f with
  | function name bound =>
    simp only [callback, move_function, length_move, firstFunction?_akin akin]
    cases firstFunction? env name _ with
    | some g =>
      have extra : [move ρ item, .int (Int64.ofNat index)].take (g.arity - (bound.length + before.length)) =
          move ρ ([item, .int (Int64.ofNat index)].take (g.arity - (bound.length + before.length))) :=
        (move_take [item, .int (Int64.ofNat index)] _).symm
      simp only [extra, ← move_append]
      split
      · exact steady_onValue (steady_callOn akin g _ pos) item
      · exact steady_callFree akin g _ pos
    | none =>
      have values : move ρ before ++ [move ρ item] = move ρ (before ++ [item]) :=
        (move_append before [item]).symm
      simp only [values]
      exact .bind (steady_withBound bound _) fun _ => steady_callBasic sound name _ pos
  | _ => exact steady_raise rfl pos

theorem steady_mapItems (f : Datum) (pos : Position) (i : Nat) (items : List Datum) :
    Steady ρ (mapItems env f pos i items) (mapItems env' (move ρ f) pos i (move ρ items)) := by
  induction items generalizing i with
  | nil => exact .pure rfl
  | cons x xs ih =>
    exact .bind (steady_callback sound akin f [] x i pos) fun _ => .bind (ih _) fun _ => .pure rfl

theorem steady_filterItems (f : Datum) (pos : Position) (i : Nat) (items : List Datum) :
    Steady ρ (filterItems env f pos i items)
      (filterItems env' (move ρ f) pos i (move ρ items)) := by
  induction items generalizing i with
  | nil => exact .pure rfl
  | cons x xs ih =>
    refine .bind (steady_callback sound akin f [] x i pos) fun d => .bind (ih _) fun rest => ?_
    simp only [isTrue_move]
    split <;> exact .pure rfl

theorem steady_reduceItems (f : Datum) (pos : Position) (acc : Datum) (i : Nat)
    (items : List Datum) : Steady ρ (reduceItems env f pos acc i items)
      (reduceItems env' (move ρ f) pos (move ρ acc) i (move ρ items)) := by
  induction items generalizing i acc with
  | nil => exact .pure rfl
  | cons x xs ih => exact .bind (steady_callback sound akin f [acc] x i pos) fun _ => ih _ _

theorem steady_findItem (f : Datum) (pos : Position) (i : Nat) (items : List Datum) :
    Steady ρ (findItem env f pos i items) (findItem env' (move ρ f) pos i (move ρ items)) := by
  induction items generalizing i with
  | nil => exact .pure rfl
  | cons x xs ih =>
    refine .bind (steady_callback sound akin f [] x i pos) fun d => ?_
    simp only [isTrue_move]
    split
    · exact .pure rfl
    · exact ih _

omit sound akin in
theorem steady_insertSortedBy {later later' : Datum → Datum → Run Bool}
    (hlater : ∀ a b, Steady ρ (later a b) (later' (move ρ a) (move ρ b))) (x : Datum)
    (items : List Datum) : Steady ρ (insertSortedBy later x items)
      (insertSortedBy later' (move ρ x) (move ρ items)) := by
  induction items with
  | nil => exact .pure rfl
  | cons y ys ih =>
    refine .bind_fixed (hlater y x) fun comes => ?_
    split
    · exact .pure rfl
    · exact .bind ih fun _ => .pure rfl

omit sound akin in
theorem steady_sortItemsBy {later later' : Datum → Datum → Run Bool}
    (hlater : ∀ a b, Steady ρ (later a b) (later' (move ρ a) (move ρ b))) (acc items : List Datum) :
    Steady ρ (sortItemsBy later acc items)
      (sortItemsBy later' (move ρ acc) (move ρ items)) := by
  induction items generalizing acc with
  | nil => exact .pure rfl
  | cons x xs ih => exact .bind (steady_insertSortedBy hlater x acc) fun _ => ih _

theorem steady_laterBy (f : Datum) (pos : Position) (a b : Datum) :
    Steady ρ (laterBy env f pos a b) (laterBy env' (move ρ f) pos (move ρ a) (move ρ b)) := by
  refine .bind (steady_callback sound akin f [a] b 0 pos) fun d => ?_
  cases d <;> exact .pure rfl

omit sound akin in
theorem callingBuiltin?_found {ρ : Relocation} {env : Env} (env' : Env) {name : String}
    {pos : Position} {xs : List Datum} (xs' : List Datum) {args : List Datum} {x : Run Reply}
    (h : callingBuiltin? env name pos xs args = some x) :
    ∃ y, callingBuiltin? env' name pos xs' (move ρ args) = some y ∧
      (ρ.Sound → env.Akin ρ env' → xs' = move ρ xs → Steady ρ x y) := by
  unfold callingBuiltin? at h
  split at h <;> cases h
  · refine ⟨_, rfl, ?_⟩
    rintro sound akin rfl
    exact .bind (steady_mapItems sound akin (.function _ _) pos 0 xs) fun _ => .pure rfl
  · refine ⟨_, rfl, ?_⟩
    rintro sound akin rfl
    exact .bind (steady_filterItems sound akin (.function _ _) pos 0 xs) fun _ => .pure rfl
  · refine ⟨_, rfl, ?_⟩
    rintro sound akin rfl
    exact .bind (steady_reduceItems sound akin (.function _ _) pos .unit 0 xs) fun _ => .pure rfl
  · refine ⟨_, rfl, ?_⟩
    rintro sound akin rfl
    exact .bind (steady_reduceItems sound akin (.function _ _) pos _ 0 xs) fun _ => .pure rfl
  · refine ⟨_, rfl, ?_⟩
    rintro sound akin rfl
    exact .bind_fixed (steady_findItem sound akin (.function _ _) pos 0 xs) fun _ => .pure rfl
  · refine ⟨_, rfl, ?_⟩
    rintro sound akin rfl
    refine .bind (steady_filterItems sound akin (.function _ _) pos 0 xs) fun kept => .pure ?_
    rw [length_move, length_move]
    rfl
  · refine ⟨_, rfl, ?_⟩
    rintro sound akin rfl
    refine .bind_fixed (steady_findItem sound akin (.function _ _) pos 0 xs) fun i => .pure ?_
    cases i with
    | none => rfl
    | some k =>
      have item : (move ρ xs)[k]?.getD .unit = move ρ (xs[k]?.getD .unit) := by
        rw [← move_getElem?]
        exact move_getD xs[k]? .unit
      exact congrArg (fun d => (⟨d, .array (move ρ xs)⟩ : Reply)) item
  · refine ⟨_, rfl, ?_⟩
    rintro sound akin rfl
    exact .bind_fixed (steady_findItem sound akin (.function _ _) pos 0 xs) fun _ => .pure rfl
  · next d hplain =>
    have equal : Steady ρ (do
        let i ← ofComputed (findEqual d 0 xs)
        return ⟨.int ((i.map Int64.ofNat).getD (-1)), .array xs⟩ : Run Reply) (do
        let i ← ofComputed (findEqual (move ρ d) 0 (move ρ xs))
        return ⟨.int ((i.map Int64.ofNat).getD (-1)), .array (move ρ xs)⟩) :=
      .bind_fixed (steady_ofComputed (findEqual_move d 0 xs)) fun _ => .pure rfl
    cases d with
    | function f bound => exact (hplain f bound rfl).elim
    | _ => exact ⟨_, rfl, fun _ _ hxs => hxs ▸ equal⟩
  · refine ⟨_, rfl, ?_⟩
    rintro sound akin rfl
    exact .bind (steady_sortItemsBy (steady_laterBy sound akin (.function _ _) pos) [] xs)
      fun _ => .pure rfl

theorem matched_callingBuiltin? (name : String) (pos : Position) (xs args : List Datum) :
    Matched ρ (callingBuiltin? env name pos xs args)
      (callingBuiltin? env' name pos (move ρ xs) (move ρ args)) := by
  refine .of_found (fun x h => ?_) fun y h => ?_
  · obtain ⟨y, hy, steady⟩ := callingBuiltin?_found env' (move ρ xs) h
    exact ⟨y, hy, steady sound akin rfl⟩
  · obtain ⟨back, undoes⟩ := sound.undone
    obtain ⟨x, hx, -⟩ := callingBuiltin?_found (ρ := back) env xs h
    rw [movedItems_back undoes] at hx
    exact ⟨x, hx⟩

theorem matched_builtin? (name : String) (pos : Position) (self : Datum) (args : List Datum) :
    Matched ρ (builtin? env name pos self args)
      (builtin? env' name pos (move ρ self) (move ρ args)) := by
  have matched := matched_basicBuiltin? sound name pos self args
  unfold builtin?
  generalize basicBuiltin? name pos self args = x?,
    basicBuiltin? name pos (move ρ self) (move ρ args) = y? at matched
  cases matched with
  | both h => exact .both h
  | neither =>
    cases self with
    | array xs => exact matched_callingBuiltin? sound akin name pos xs args
    | _ => exact .neither

theorem steady_callBuiltin (name : String) (args : List Datum) (pos : Position) :
    Steady ρ (callBuiltin env name args pos) (callBuiltin env' name (move ρ args) pos) := by
  refine .bind_fixed (RunOn.steady_lift (steady_tick akin pos)) fun _ => ?_
  refine .bind RunOn.steady_self fun self => ?_
  have matched := matched_builtin? sound akin name pos self args
  generalize builtin? env name pos self args = x?,
    builtin? env' name pos (move ρ self) (move ρ args) = y? at matched
  cases matched with
  | both h =>
    refine .bind (RunOn.steady_lift (steady_locating h pos)) fun reply => ?_
    refine .bind_fixed (RunOn.steady_setSelf rfl) fun _ => ?_
    refine .bind_fixed (RunOn.steady_lift (steady_checkSize akin reply.value pos)) fun _ => ?_
    exact .pure rfl
  | neither =>
    have signature : Datum.signature name (move ρ self :: move ρ args) =
        Datum.signature name (self :: args) := Datum.signature_move name (self :: args)
    simp only [signature]
    exact RunOn.steady_raise rfl pos

end builtins

end Script

end RowScript
