import RowScript.Proofs.Receivers
import RowScript.Proofs.Steadiness

/-!
# Programs do not see the numbers of handles

The rest of the evaluator, from the links of a chain to the call of a function (`Steadiness` has the
machine and the built-ins). A program holds no handles, so `steady_eval` and its companions, which
follow the syntax, compare two runs of one and the same program. `Env.akin_atDepth` closes the circle:
however deep calls may nest, they are steady.
-/

namespace RowScript.Script

variable {ρ : Relocation}

/-! ### Chains -/

instance : Movable Step where
  move ρ
    | .index arg safe argPos opPos => .index (move ρ arg) safe argPos opPos
    | .property name safe pos opPos => .property name safe pos opPos
    | .method name args safe pos opPos => .method name (move ρ args) safe pos opPos

instance : Movable (List Step) := ⟨fun ρ => List.map (move ρ)⟩

instance : Movable Change := ⟨fun ρ c => { c with value := move ρ c.value }⟩

section chains

open Run

theorem steady_asIndex (arg : Datum) (pos : Position) :
    Steady ρ (asIndex arg pos) (asIndex (move ρ arg) pos) := by
  cases arg with
  | int n => exact .pure rfl
  | _ => exact steady_raise rfl pos

theorem steady_asKey (arg : Datum) (pos : Position) :
    Steady ρ (asKey arg pos) (asKey (move ρ arg) pos) := by
  cases arg with
  | string k => exact .pure rfl
  | _ => exact steady_raise rfl pos

theorem steady_arrayIndex (xs : List Datum) (arg : Datum) (pos : Position) :
    Steady ρ (arrayIndex xs arg pos) (arrayIndex (move ρ xs) (move ρ arg) pos) := by
  unfold arrayIndex
  rw [length_move]
  refine .bind_fixed (steady_asIndex arg pos) fun i => ?_
  split
  · exact .pure rfl
  · exact steady_raise rfl pos

theorem steady_textIndex (s : String) (arg : Datum) (pos : Position) :
    Steady ρ (textIndex s arg pos) (textIndex s (move ρ arg) pos) := by
  refine .bind_fixed (steady_asIndex arg pos) fun i => ?_
  split
  · exact .pure rfl
  · exact steady_raise rfl pos

theorem steady_bitIndex (arg : Datum) (pos : Position) :
    Steady ρ (bitIndex arg pos) (bitIndex (move ρ arg) pos) := by
  refine .bind_fixed (steady_asIndex arg pos) fun i => ?_
  split
  · exact .pure rfl
  · exact steady_raise rfl pos

@[simp] theorem isGetter_move (self : Datum) (name : String) :
    isGetter (move ρ self) name = isGetter self name := by
  cases self <;> rfl

theorem noGetter_move (name : String) (self : Datum) :
    noGetter name (move ρ self) = move ρ (noGetter name self) := by
  rw [noGetter, Datum.kindName_move]
  rfl

theorem noSetter_move (name : String) (self value : Datum) :
    noSetter name (move ρ self) (move ρ value) = move ρ (noSetter name self value) := by
  rw [noSetter, Datum.kindName_move, Datum.kindName_move]
  rfl

theorem ownFunction?_move (self : Datum) (name : String) :
    ownFunction? (move ρ self) name = move ρ (ownFunction? self name) := by
  cases self with
  | map m =>
    simp only [move_map, ownFunction?, ← move_lookup]
    cases m.lookup name with
    | none => rfl
    | some d => cases d <;> rfl
  | _ => rfl

theorem indexSignature_move (self arg : Datum) :
    indexSignature (move ρ self) (move ρ arg) = indexSignature self arg := by
  rw [indexSignature, indexSignature, Datum.kindName_move, Datum.kindName_move]

theorem plain_move {self : Datum} (hmap : ∀ m, self = .map m → False)
    (hrecord : ∀ r, self = .record r → False) :
    (∀ m, move ρ self = .map m → False) ∧ ∀ r, move ρ self = .record r → False := by
  refine ⟨fun m h => ?_, fun r h => hrecord r (move_eq_record.mp h)⟩
  obtain ⟨m', hm, -⟩ := move_eq_map.mp h
  exact hmap m' hm

variable {env env' : Env} (akin : env.Akin ρ env')
include akin

theorem steady_applyBinary (op : BinaryOp) (a b : Datum) (pos : Position) :
    Steady ρ (applyBinary env op a b pos) (applyBinary env' op (move ρ a) (move ρ b) pos) := by
  have signature : Datum.signature op.sign [move ρ a, move ρ b] = Datum.signature op.sign [a, b] :=
    Datum.signature_move op.sign [a, b]
  unfold applyBinary
  simp only [isPlain_move, binary?_move, signature]
  cases binary? op a b with
  | none =>
    split
    · exact .bind_fixed (steady_tick akin pos) fun _ => steady_raise rfl pos
    · exact steady_raise rfl pos
  | some r =>
    have computed : Steady ρ (do
        let d ← locating pos (ofComputed r)
        checkSize env d pos
        return d : Run Datum) (do
        let d ← locating pos (ofComputed (move ρ r))
        checkSize env' d pos
        return d) := by
      refine .bind (steady_locating (steady_ofComputed rfl) pos) fun d => ?_
      exact .bind_fixed (steady_checkSize akin d pos) fun _ => .pure rfl
    split
    · exact .bind_fixed (steady_tick akin pos) fun _ => computed
    · exact computed

theorem steady_change (c : Change) (old : Datum) :
    Steady ρ (c.apply env old) ((move ρ c).apply env' (move ρ old)) := by
  obtain ⟨op, value, pos⟩ := c
  have rest (new : Datum) : Steady ρ (do checkSize env new pos; return new : Run Datum)
      (do checkSize env' (move ρ new) pos; return move ρ new) :=
    .bind_fixed (steady_checkSize akin new pos) fun _ => .pure rfl
  cases op with
  | none => exact .pure rfl
  | some op =>
    have applied := steady_applyBinary akin op old value pos
    cases op with
    | add =>
      cases old with
      | array xs =>
        cases value with
        | array ys =>
          exact .bind (.pure (congrArg Datum.array (move_append xs ys).symm)) rest
        | _ => exact .bind (.pure (congrArg Datum.array (move_append xs [_]).symm)) rest
      | _ => exact .bind applied rest
    | _ => exact .bind applied rest

theorem steady_getIndexed (self arg : Datum) (argPos opPos : Position) :
    Steady ρ (getIndexed env self arg argPos opPos)
      (getIndexed env' (move ρ self) (move ρ arg) argPos opPos) := by
  have none_indexes : Steady ρ (raise (.noIndexer (indexSignature self arg)) opPos : Run Datum)
      (raise (.noIndexer (indexSignature (move ρ self) (move ρ arg))) opPos) := by
    rw [indexSignature_move]
    exact steady_raise rfl opPos
  refine .bind_fixed (steady_tick akin opPos) fun _ => ?_
  cases self with
  | map m =>
    exact .bind_fixed (steady_asKey arg argPos) fun k => .pure (move_valueOf m k).symm
  | array xs =>
    exact .bind_fixed (steady_arrayIndex xs arg argPos) fun k => .pure (move_getD_unit xs k).symm
  | string s =>
    have character := steady_textIndex (ρ := ρ) s arg argPos
    cases arg with
    | range a b closed => exact .pure rfl
    | _ => exact .bind_fixed character fun k => .pure rfl
  | int n =>
    cases arg with
    | int i => exact .bind_fixed (steady_bitIndex (.int i) argPos) fun k => .pure rfl
    | _ => exact none_indexes
  | record r =>
    cases arg with
    | string k =>
      refine .bind_fixed (steady_tick akin opPos) fun _ => .pure (Record.move_get r k).symm
    | _ => exact none_indexes
  | _ => exact none_indexes

theorem steady_partChange (c : Change) {before before' : Run Unit} (hbefore : Steady ρ before before')
    {old : Datum} (hold : move ρ old = old) :
    Steady ρ (if c.op.isSome then (do before; c.apply env old) else pure c.value)
      (if (move ρ c).op.isSome then (do before'; (move ρ c).apply env' old)
        else pure (move ρ c).value) := by
  have changed := steady_change akin c old
  rw [hold] at changed
  obtain ⟨op, value, pos⟩ := c
  cases op with
  | none => exact .pure rfl
  | some op => exact .bind_fixed hbefore fun _ => changed

theorem steady_setIndexed (c : Change) (arg : Datum) (argPos opPos : Position) :
    Steady ρ (setIndexed env c arg argPos opPos)
      (setIndexed env' (move ρ c) (move ρ arg) argPos opPos) := by
  have hcounted := RunOn.steady_lift (steady_tick akin opPos)
  refine .bind_fixed hcounted fun _ => .bind RunOn.steady_self fun self => ?_
  have none_indexes : Steady ρ
      (RunOn.raise (.noIndexer (indexSignature self arg ++ " = " ++ c.value.kindName)) opPos :
        RunOn Unit)
      (RunOn.raise (.noIndexer (indexSignature (move ρ self) (move ρ arg) ++ " = " ++
        (move ρ c).value.kindName)) opPos) := by
    rw [indexSignature_move, show (move ρ c).value = move ρ c.value from rfl, Datum.kindName_move]
    exact RunOn.steady_raise rfl opPos
  cases self with
  | map m =>
    refine .bind_fixed (RunOn.steady_lift (steady_asKey arg argPos)) fun k => ?_
    simp only [movedEntries_eq, ← move_valueOf, ← move_insertSorted]
    refine .bind_fixed (RunOn.steady_setSelf rfl) fun _ => ?_
    refine .bind (RunOn.steady_lift (steady_change akin c _)) fun new => ?_
    exact RunOn.steady_setSelf (congrArg Datum.map (move_insertSorted m k new).symm)
  | array xs =>
    refine .bind_fixed (RunOn.steady_lift (steady_arrayIndex xs arg argPos)) fun k => ?_
    simp only [movedItems_eq, ← move_getD_unit]
    refine .bind (RunOn.steady_lift (steady_change akin c _)) fun new => ?_
    exact RunOn.steady_setSelf (congrArg Datum.array (move_set xs k new).symm)
  | string s =>
    refine .bind_fixed (RunOn.steady_lift (steady_textIndex s arg argPos)) fun k => ?_
    refine .bind (RunOn.steady_lift (steady_change akin c (.char _))) fun d => ?_
    cases d with
    | char d => exact RunOn.steady_setSelf rfl
    | _ => exact RunOn.steady_raise rfl _
  | record r =>
    cases arg with
    | string k =>
      have new := steady_partChange akin c (steady_tick akin opPos) (Record.move_get r k)
      refine .bind (RunOn.steady_lift new) fun new => .bind_fixed hcounted fun _ => ?_
      refine RunOn.steady_setSelf ?_
      rw [Record.set, Datum.toValue_move]
      rfl
    | _ => exact none_indexes
  | _ => exact none_indexes

variable (sound : ρ.Sound)
include sound

theorem steady_getProperty (self : Datum) (name : String) (pos opPos : Position) :
    Steady ρ (getProperty env self name pos opPos)
      (getProperty env' (move ρ self) name pos opPos) := by
  obtain ⟨back, undoes⟩ := sound.undone
  refine .bind_fixed (steady_tick akin pos) fun _ => ?_
  split
  · exact .pure (move_valueOf _ name).symm
  · exact .bind_fixed (steady_tick akin opPos) fun _ => .pure (Record.move_get _ name).symm
  · next hmap hrecord =>
    have missing : Steady ρ (raise (noGetter name self) pos : Run Datum)
        (raise (noGetter name (move ρ self)) pos) := steady_raise (noGetter_move name self) pos
    have getter := isGetter_move (ρ := ρ) self name
    have found : plainBuiltin? name (move ρ self) [] = move ρ (plainBuiltin? name self []) :=
      plainBuiltin?_move undoes self []
    obtain ⟨hmap', hrecord'⟩ := plain_move hmap hrecord
    generalize move ρ self = moved at missing getter found hmap' hrecord' ⊢
    cases moved with
    | map m => exact (hmap' m rfl).elim
    | record r => exact (hrecord' r rfl).elim
    | _ =>
      dsimp only
      rw [getter, found]
      split
      · cases plainBuiltin? name self [] with
        | some r => exact .bind (steady_locating (steady_ofComputed rfl) pos) fun _ => .pure rfl
        | none => exact missing
      · exact missing

omit sound in
theorem steady_setProperty (c : Change) (name : String) (pos opPos : Position) :
    Steady ρ (setProperty env c name pos opPos) (setProperty env' (move ρ c) name pos opPos) := by
  have htick := fun pos => RunOn.steady_lift (steady_tick akin pos)
  refine .bind RunOn.steady_self fun self => ?_
  split
  · exact steady_setIndexed akin c (.string name) pos opPos
  · next r =>
    refine .bind (RunOn.steady_lift ?_) fun new => ?_
    · have changed := steady_change akin c (Record.get r name)
      rw [Record.move_get] at changed
      obtain ⟨op, value, place⟩ := c
      cases op with
      | none => exact .pure rfl
      | some op =>
        refine .bind_fixed (steady_tick akin pos) fun _ => ?_
        exact .bind_fixed (steady_tick akin opPos) fun _ => changed
    · refine .bind_fixed (htick pos) fun _ => .bind_fixed (htick opPos) fun _ => ?_
      refine RunOn.steady_setSelf ?_
      rw [Record.set, Datum.toValue_move]
      rfl
  · next hmap hrecord =>
    have refused : Steady ρ
        (RunOn.raise (if c.op.isSome then noGetter name self else noSetter name self c.value) pos :
          RunOn Unit)
        (RunOn.raise (if (move ρ c).op.isSome then noGetter name (move ρ self)
          else noSetter name (move ρ self) (move ρ c).value) pos) := by
      refine RunOn.steady_raise ?_ pos
      obtain ⟨op, value, place⟩ := c
      cases op with
      | none => exact noSetter_move name self value
      | some op => exact noGetter_move name self
    obtain ⟨hmap', hrecord'⟩ := plain_move hmap hrecord
    generalize move ρ self = moved at refused hmap' hrecord' ⊢
    cases moved with
    | map m => exact (hmap' m rfl).elim
    | record r => exact (hrecord' r rfl).elim
    | _ => exact .bind_fixed (htick pos) fun _ => refused

theorem steady_callValue (f : Datum) (args : List Datum) (pos : Position) :
    Steady ρ (callValue env f args pos) (callValue env' (move ρ f) (move ρ args) pos) := by
  cases f with
  | function name bound =>
    simp only [callValue, move_function, length_move, akin.functions, ← move_append]
    cases env.script.function? name (bound.length + args.length) with
    | some g => exact RunOn.steady_lift (steady_callFree akin g _ pos)
    | none =>
      refine .bind (RunOn.steady_lift (steady_withBound bound args)) fun values => ?_
      cases values with
      | nil => exact RunOn.steady_raise rfl pos
      | cons self rest =>
        exact RunOn.steady_lift (steady_onValue (steady_callBuiltin sound akin name rest pos) self)
  | _ => exact RunOn.steady_raise rfl pos

theorem steady_callScriptOn (f : Datum) (args : List Datum) (pos : Position) :
    Steady ρ (callScriptOn env f args pos) (callScriptOn env' (move ρ f) (move ρ args) pos) := by
  cases f with
  | function name bound =>
    simp only [callScriptOn, move_function, length_move, akin.functions, ← move_append]
    cases env.script.function? name (bound.length + args.length) with
    | some g => exact steady_callOn akin g _ pos
    | none =>
      refine .bind (RunOn.steady_lift (steady_withBound bound args)) fun values => ?_
      exact steady_callBuiltin sound akin name values pos
  | _ => exact RunOn.steady_raise rfl pos

theorem steady_callOwnMethod (name : String) (self : Datum) (args : List Datum) (pos : Position) :
    Steady ρ (callOwnMethod env name self args pos)
      (callOwnMethod env' name (move ρ self) (move ρ args) pos) := by
  simp only [callOwnMethod, ownFunction?_move, length_move, akin.functions]
  cases ownFunction? self name with
  | some f => exact .bind (steady_callScriptOn akin sound f args pos) fun _ => .pure rfl
  | none =>
    cases env.script.function? name args.length with
    | some g => exact .bind (steady_callOn akin g args pos) fun _ => .pure rfl
    | none => exact .bind (steady_callBuiltin sound akin name args pos) fun _ => .pure rfl

theorem steady_callMethod (name : String) (args : List Datum) (pos : Position) :
    Steady ρ (callMethod env name args pos) (callMethod env' name (move ρ args) pos) := by
  refine .bind RunOn.steady_self fun self => ?_
  split
  · exact .bind (steady_callValue akin sound (.function _ _) _ pos) fun _ => .pure rfl
  · next f bound args hself =>
    have called := steady_callScriptOn akin sound (.function f bound) args pos
    cases self with
    | function name own => exact (hself name own rfl).elim
    | _ => exact .bind called fun _ => .pure rfl
  · exact .pure (congrArg (fun bound => (Datum.function _ bound, false)) (move_append _ _).symm)
  · exact .pure (congrArg (fun kind => (Datum.string kind, false)) (Datum.kindName_move self))
  · exact .pure rfl
  · next hcall hcurry hcallOf htype hshared =>
    have ordinary := steady_callOwnMethod akin sound name self args pos
    split
    · next hself =>
      obtain ⟨own, hself, -⟩ := move_eq_function.mp hself
      exact (hcall _ own rfl hself).elim
    · next hargs _ =>
      obtain ⟨d, rest, hargs, hd, -⟩ := move_eq_cons.mp hargs
      obtain ⟨own, rfl, -⟩ := move_eq_function.mp hd
      exact (hcallOf _ own rest rfl hargs).elim
    · next hself =>
      obtain ⟨own, hself, -⟩ := move_eq_function.mp hself
      exact (hcurry _ own rfl hself).elim
    · next hargs => exact (htype rfl (move_eq_nil.mp hargs)).elim
    · next hargs => exact (hshared rfl (move_eq_nil.mp hargs)).elim
    · exact ordinary

omit sound in
theorem steady_putBack (value : Datum) {whole whole' : Datum} (hwhole : whole' = move ρ whole)
    (changed : Bool) (pos : Position) :
    Steady ρ (if changed then do
        RunOn.lift (tick env pos)
        RunOn.setSelf whole
        return (value, changed)
      else return (value, changed) : RunOn (Datum × Bool))
      (if changed then do
        RunOn.lift (tick env' pos)
        RunOn.setSelf whole'
        return (move ρ value, changed)
      else return (move ρ value, changed)) := by
  split
  · refine .bind_fixed (RunOn.steady_lift (steady_tick akin pos)) fun _ => ?_
    exact .bind_fixed (RunOn.steady_setSelf hwhole) fun _ => .pure rfl
  · exact .pure rfl

omit akin sound in
theorem move_put (m : ObjectMap) (k : String) (d : Datum) :
    (if (move ρ m).any (·.1 == k) then .map (Entries.insertSorted (move ρ m) k (move ρ d))
      else .map (move ρ m) : Datum) =
      move ρ (if m.any (·.1 == k) then .map (Entries.insertSorted m k d) else .map m) := by
  rw [any_move, ← move_insertSorted]
  split <;> rfl

omit akin sound in
theorem move_recordSet (r : ValueMap) (k : String) (d : Datum) :
    Datum.record (Record.set r k (move ρ d)) = move ρ (.record (Record.set r k d)) := by
  rw [Record.set, Datum.toValue_move]
  rfl

omit akin sound in
/-- The rest of a chain on a copy, of which nothing is kept. -/
theorem steady_dropped {rest rest' : RunOn (Datum × Bool)} (hrest : Steady ρ rest rest')
    (part : Datum) : Steady ρ (do
      let (result, _) ← RunOn.onCopy part rest
      return result) (do
      let (result, _) ← RunOn.onCopy (move ρ part) rest'
      return result) :=
  .bind (RunOn.steady_onCopy hrest part) fun _ => .pure rfl

omit sound in
theorem steady_intoIndexed {rest rest' : RunOn (Datum × Bool)} (hrest : Steady ρ rest rest')
    (arg : Datum) (argPos opPos : Position) : Steady ρ (intoIndexed env arg argPos opPos rest)
      (intoIndexed env' (move ρ arg) argPos opPos rest') := by
  refine .bind RunOn.steady_self fun self => ?_
  refine .bind (RunOn.steady_lift (steady_getIndexed akin self arg argPos opPos)) fun part => ?_
  have dropped := steady_dropped hrest part
  cases self with
  | map m =>
    cases arg with
    | string k => exact RunOn.steady_onPart hrest part (move_put m k)
    | _ => exact dropped
  | array xs =>
    cases arg with
    | int i =>
      refine RunOn.steady_onPart hrest part fun d => ?_
      simp only [movedItems_eq, length_move]
      exact congrArg Datum.array (move_set xs _ d).symm
    | _ => exact dropped
  | record r =>
    cases arg with
    | string k =>
      refine .bind (RunOn.steady_onCopy hrest part) ?_
      rintro ⟨⟨value, changed⟩, part⟩
      exact steady_putBack akin value (move_recordSet r k part) changed opPos
    | _ => exact dropped
  | _ => exact dropped

theorem steady_intoProperty {rest rest' : RunOn (Datum × Bool)} (hrest : Steady ρ rest rest')
    (name : String) (pos opPos : Position) : Steady ρ (intoProperty env name pos opPos rest)
      (intoProperty env' name pos opPos rest') := by
  refine .bind RunOn.steady_self fun self => ?_
  refine .bind (RunOn.steady_lift (steady_getProperty akin sound self name pos opPos)) fun part => ?_
  cases self with
  | map m => exact RunOn.steady_onPart hrest part (move_put m name)
  | record r =>
    refine .bind (RunOn.steady_onCopy hrest part) ?_
    rintro ⟨⟨value, changed⟩, part⟩
    exact steady_putBack akin value (move_recordSet r name part) changed opPos
  | _ => exact steady_dropped hrest part

theorem steady_walk (change : Option Change) (steps : List Step) :
    Steady ρ (walk env change steps) (walk env' (move ρ change) (move ρ steps)) := by
  -- what the rest of the chain changes is put back into what this step took it from
  induction steps generalizing change with
  | nil => exact .bind RunOn.steady_self fun _ => .pure rfl
  | cons step rest ih =>
    have htail := ih change
    rw [show move ρ (step :: rest) = move ρ step :: move ρ rest from rfl, walk, walk]
    refine .bind RunOn.steady_self fun self => ?_
    generalize hx : RunOn.locating step.opPos _ = x
    generalize hy : RunOn.locating (move ρ step).opPos _ = y
    have taken : Steady ρ x y := by
      subst hx hy
      cases step with
      | index arg safe argPos opPos =>
        refine RunOn.steady_locating ?_ opPos
        cases rest with
        | cons next rest => exact steady_intoIndexed akin htail arg argPos opPos
        | nil =>
          cases change with
          | none =>
            have got := RunOn.steady_lift (steady_getIndexed akin self arg argPos opPos)
            exact .bind got fun _ => .pure rfl
          | some c => exact .bind_fixed (steady_setIndexed akin c arg argPos opPos) fun _ => .pure rfl
      | property name safe pos opPos =>
        refine RunOn.steady_locating ?_ opPos
        cases rest with
        | cons next rest => exact steady_intoProperty akin sound htail name pos opPos
        | nil =>
          cases change with
          | none =>
            have got := RunOn.steady_lift (steady_getProperty akin sound self name pos opPos)
            exact .bind got fun _ => .pure rfl
          | some c => exact .bind_fixed (steady_setProperty akin c name pos opPos) fun _ => .pure rfl
      | method name args safe pos opPos =>
        have called := steady_callMethod akin sound name args pos
        refine RunOn.steady_locating ?_ opPos
        cases rest with
        | cons next rest =>
          refine .bind called ?_
          rintro ⟨value, -⟩
          exact steady_dropped htail value
        | nil => exact called
    have safe : (move ρ step).safe = step.safe := by cases step <;> rfl
    rw [safe]
    cases step.safe with
    | false => exact taken
    | true =>
      cases self with
      | unit => exact .pure rfl
      | _ => exact taken

theorem steady_walkShared (change : Option Change) (steps : List Step) :
    Steady ρ (walkShared env change steps) (walkShared env' (move ρ change) (move ρ steps)) := by
  cases steps with
  | nil => exact steady_walk akin sound change []
  | cons step rest =>
    have asks : (move ρ step).asksShared = step.asksShared := by
      cases step with
      | method name args safe pos opPos =>
        exact congrArg (name == "is_shared" && ·) (isEmpty_move args)
      | _ => rfl
    have safe : (move ρ step).safe = step.safe := by cases step <;> rfl
    rw [show move ρ (step :: rest) = move ρ step :: move ρ rest from rfl, walkShared, walkShared, asks,
      safe]
    split
    · refine .bind RunOn.steady_self fun self => ?_
      have taken := steady_dropped (steady_walk akin sound change rest) (.bool true)
      cases step.safe with
      | false => exact taken
      | true =>
        cases self with
        | unit => exact .pure rfl
        | _ => exact taken
    · exact steady_walk akin sound change (step :: rest)

theorem steady_walkHeld (held : Option Datum) (change : Option Change) (steps : List Step) :
    Steady ρ (walkHeld env held change steps)
      (walkHeld env' (move ρ held) (move ρ change) (move ρ steps)) := by
  have shared : (move ρ held).any Datum.isCell = held.any Datum.isCell := by
    cases held with
    | none => rfl
    | some d => exact Datum.isCell_move d
  unfold walkHeld
  rw [shared]
  split
  · exact steady_walkShared akin sound change steps
  · exact steady_walk akin sound change steps

end chains

/-! ### Loops and recovery -/

section loops

open Run

theorem steady_round {round round' : Run (Option Datum)} {more more' : Run Datum}
    (hround : Steady ρ round round') (hmore : Steady ρ more more') :
    Steady ρ (fun m => match round m with
      | (.ok (some v), m) => (.ok v, m)
      | (.ok none, m) => more m
      | (.error s, m) => (.error s, m)
      | (.aborted, m) => (.aborted, m)) (fun m => match round' m with
      | (.ok (some v), m) => (.ok v, m)
      | (.ok none, m) => more' m
      | (.error s, m) => (.error s, m)
      | (.aborted, m) => (.aborted, m)) := by
  intro m
  simp only [hround m]
  rcases round m with ⟨o, next⟩
  cases o with
  | ok v =>
    cases v with
    | some v => rfl
    | none => exact hmore next
  | error s => rfl
  | aborted => rfl

theorem steady_repeatRun {round round' : Run (Option Datum)} (hround : Steady ρ round round')
    (n : Nat) : Steady ρ (repeatRun n round) (repeatRun n round') := by
  induction n with
  | zero => exact .aborted
  | succ n ih => exact steady_round hround ih

theorem steady_eachRun {round round' : Nat → Datum → Run (Option Datum)}
    (hround : ∀ i d, Steady ρ (round i d) (round' i (move ρ d))) (i : Nat) (items : List Datum) :
    Steady ρ (eachRun round i items) (eachRun round' i (move ρ items)) := by
  induction items generalizing i with
  | nil => exact .pure rfl
  | cons x xs ih => exact steady_round (hround i x) (ih _)

theorem steady_countRun {round round' : Nat → Datum → Run (Option Datum)}
    (hround : ∀ i d, Steady ρ (round i d) (round' i (move ρ d))) (count i : Nat) (n : Int) :
    Steady ρ (countRun round count i n) (countRun round' count i n) := by
  induction count generalizing i n with
  | zero => exact .pure rfl
  | succ count ih => exact steady_round (hround i (.int _)) (ih _ _)

theorem steady_loopBody {body body' : Run Datum} (hbody : Steady ρ body body') :
    Steady ρ (loopBody body) (loopBody body') := by
  intro m
  simp only [loopBody, hbody m]
  rcases body m with ⟨o, next⟩
  cases o with
  | error s => cases s <;> rfl
  | _ => rfl

theorem steady_whileRound {test test' : Run Bool} {body body' : Run Datum}
    (htest : Steady ρ test test') (hbody : Steady ρ body body') :
    Steady ρ (whileRound test body) (whileRound test' body') := by
  refine .bind_fixed htest fun goOn => ?_
  split
  · exact steady_loopBody hbody
  · exact .pure rfl

theorem steady_untilRound {test test' : Run Bool} {body body' : Run Datum}
    (htest : Steady ρ test test') (hbody : Steady ρ body body') :
    Steady ρ (untilRound body test) (untilRound body' test') := by
  refine .bind (steady_loopBody hbody) fun v => ?_
  cases v with
  | some v => exact .pure rfl
  | none =>
    refine .bind_fixed htest fun goOn => ?_
    split
    · exact .pure rfl
    · exact .pure rfl

theorem steady_loopOver (items : Datum) (pos : Position)
    {round round' : Nat → Datum → Run (Option Datum)}
    (hround : ∀ i d, Steady ρ (round i d) (round' i (move ρ d))) :
    Steady ρ (loopOver items pos round) (loopOver (move ρ items) pos round') := by
  cases items with
  | array xs => exact steady_eachRun hround 0 xs
  | record r =>
    have pairs := steady_eachRun hround 0 (Record.pairs r)
    rw [Record.move_pairs] at pairs
    exact pairs
  | range first last closed => exact steady_countRun hround _ 0 _
  | _ => exact steady_raise rfl pos

theorem steady_asTest (d : Datum) (pos : Position) :
    Steady ρ (asTest d pos) (asTest (move ρ d) pos) := by
  cases d with
  | bool b => exact .pure rfl
  | _ => exact steady_raise rfl pos

theorem isCase_move (subject : Datum) : isCase (move ρ subject) = isCase subject := by
  funext literal
  cases literal with
  | lit l pos =>
    have equal := equals_move (ρ := ρ) subject l.datum
    have kind := Datum.sameKind_move (ρ := ρ) subject l.datum
    rw [Literal.move_datum] at equal kind
    simp only [isCase, Datum.isForeign_move, equal, kind]
    cases subject.equals l.datum <;> rfl
  | _ => rfl

theorem isInCase_move (subject : Datum) : isInCase (move ρ subject) = isInCase subject := by
  cases subject <;> rfl

theorem steady_recover {x x' : Run Datum} {handler handler' : Datum → Run Datum}
    (hx : Steady ρ x x') (hhandler : ∀ d, Steady ρ (handler d) (handler' (move ρ d))) :
    Steady ρ (recover x handler) (recover x' handler') := by
  intro m
  simp only [recover, hx m]
  rcases x m with ⟨o, next⟩
  cases o with
  | error s =>
    cases s with
    | fault f =>
      have handled := hhandler f.caught next
      rw [Fault.move_caught] at handled
      have outer : move ρ (Outcome.error (Signal.fault f) : Outcome Signal Datum) =
          .error (.fault (move ρ f)) := rfl
      simp only [move_pair, outer, handled, Fault.cause_move, isCatchable_move]
      split
      · rcases handler f.caught next with ⟨o, last⟩
        cases o with
        | error s =>
          cases s with
          | fault g =>
            obtain ⟨cause, pos, calls⟩ := g
            cases cause with
            | thrown d => cases d <;> cases calls <;> rfl
            | _ => rfl
          | _ => rfl
        | _ => rfl
      · rfl
    | _ => rfl
  | _ => rfl

variable {env env' : Env} (akin : env.Akin ρ env')
include akin

theorem steady_itemRound (name : String) (counter : Option String) (pos : Position)
    {body body' : Run Datum} (hbody : Steady ρ body body') (i : Nat) (item : Datum) :
    Steady ρ (itemRound env name counter pos body i item)
      (itemRound env' name counter pos body' i (move ρ item)) := by
  refine .bind_fixed (steady_forM (fun c => steady_assignVariable c (.int _)) _) fun _ => ?_
  refine .bind_fixed (steady_assignVariable name item) fun _ => ?_
  exact .bind_fixed (steady_tick akin pos) fun _ => steady_loopBody hbody

end loops

/-! ### Names and calls -/

section names

open Run

theorem steady_functionNamed (name : Datum) (pos : Position) :
    Steady ρ (functionNamed name pos) (functionNamed (move ρ name) pos) := by
  cases name with
  | string s =>
    simp only [functionNamed, move_string]
    split
    · exact .pure rfl
    · exact steady_raise rfl pos
  | _ => exact steady_raise rfl pos

theorem steady_checkConstant (sound : ρ.Sound) (v : Option Variable) (name : String)
    (pos : Position) (steps : List Step) (change : Option Change) :
    Steady ρ (checkConstant v name pos steps change)
      (checkConstant (move ρ v) name pos (move ρ steps) (move ρ change)) := by
  obtain ⟨back, undoes⟩ := sound.undone
  rcases v with _ | ⟨vname, d, isConst⟩
  · exact .pure rfl
  cases isConst with
  | false => exact .pure rfl
  | true =>
    cases change with
    | some c => exact steady_raise rfl pos
    | none =>
      rcases steps with _ | ⟨step, rest⟩
      · exact .pure rfl
      cases step with
      | method f args safe place opPos =>
        have found : (plainBuiltin? f (move ρ d) []).isNone = (plainBuiltin? f d []).isNone := by
          rw [show plainBuiltin? f (move ρ d) [] = move ρ (plainBuiltin? f d []) from
            plainBuiltin?_move undoes d []]
          cases plainBuiltin? f d [] <;> rfl
        have checked (refused : Bool) : Steady ρ
            (if refused then raise (.constantChanged f) place else pure () : Run Unit)
            (if refused then raise (.constantChanged f) place else pure ()) := by
          split
          · exact steady_raise rfl place
          · exact .pure rfl
        have agree := checked (changesSelf.contains f && (plainBuiltin? f d []).isNone)
        have whole : checkConstant (move ρ (some ⟨vname, d, true⟩)) name pos
            (move ρ (.method f args safe place opPos :: rest)) (move ρ (none : Option Change)) =
            if changesSelf.contains f && (plainBuiltin? f (move ρ d) []).isNone then
              raise (.constantChanged f) place
            else pure () := rfl
        rw [whole, found]
        exact agree
      | _ => exact .pure rfl

variable {env env' : Env} (akin : env.Akin ρ env')
include akin

theorem steady_counted {α : Type} [Movable α] {x y : Run α} (hx : Steady ρ x y) (pos : Position) :
    Steady ρ (counted env pos x) (counted env' pos y) :=
  .bind_fixed (steady_tick akin pos) fun _ => hx

theorem steady_assignName (name : String) (pos : Position) (c : Change) :
    Steady ρ (assignName env name pos c) (assignName env' name pos (move ρ c)) := by
  refine .bind_fixed (steady_tick akin pos) fun _ => .bind (steady_lookup name pos) fun old => ?_
  have assigned : Steady ρ (do Run.assignVariable name (← c.apply env old) : Run Unit)
      (do Run.assignVariable name (← (move ρ c).apply env' (move ρ old))) :=
    .bind (steady_change akin c old) fun new => steady_assignVariable name new
  refine .bind (steady_find? name) fun v => ?_
  rcases v with _ | ⟨vname, d, isConst⟩
  · exact assigned
  · cases isConst with
    | true => exact steady_raise rfl pos
    | false => exact assigned

theorem steady_assignReceiver (pos : Position) (c : Change) :
    Steady ρ (assignReceiver env pos c) (assignReceiver env' pos (move ρ c)) := by
  refine .bind_fixed (steady_tick akin pos) fun _ => .bind (steady_receiver pos) fun old => ?_
  exact .bind (steady_change akin c old) fun new => .update fun m => keepReceiver_move new m

theorem steady_applyUnary (op : UnaryOp) (d : Datum) (pos : Position) :
    Steady ρ (applyUnary env op d pos) (applyUnary env' op (move ρ d) pos) := by
  have computed := unary?_move (ρ := ρ) op d
  have signature : Datum.signature op.sign [move ρ d] = Datum.signature op.sign [d] :=
    Datum.signature_move op.sign [d]
  unfold applyUnary
  split
  · exact .pure rfl
  · next hnot =>
    have hnot' : ∀ b, op = .not → move ρ d = .bool b → False := by
      intro b hop hd
      cases d <;> cases hd
      exact hnot b hop rfl
    generalize move ρ d = moved at computed signature hnot' ⊢
    generalize unary? op d = r? at computed ⊢
    have hcounted := steady_tick akin pos
    cases r? with
    | some r =>
      dsimp only
      split
      · exact (hnot' _ rfl rfl).elim
      · rw [computed]
        exact .bind_fixed hcounted fun _ => steady_locating (steady_ofComputed rfl) pos
    | none =>
      dsimp only
      split
      · exact (hnot' _ rfl rfl).elim
      · rw [computed, signature]
        exact .bind_fixed hcounted fun _ => steady_raise rfl pos

theorem steady_addPiece (acc : String) (d : Datum) (pos : Position) :
    Steady ρ (addPiece env acc d pos) (addPiece env' acc (move ρ d) pos) := by
  have sized (acc : String) : Steady ρ (do checkSize env (.string acc) pos; return acc : Run String)
      (do checkSize env' (.string acc) pos; return acc) :=
    .bind_fixed (steady_checkSize akin (.string acc) pos) fun _ => .pure rfl
  have printed : acc ++ (move ρ d).printText = move ρ (acc ++ d.printText) := by
    rw [Datum.printText_move]
    rfl
  cases d with
  | string s => exact .bind_fixed (.pure rfl) sized
  | _ => exact .bind_fixed (steady_tick akin pos) fun _ => .bind_fixed (.pure printed) sized

theorem steady_countRound (body : List Stmt) (pos : Position) :
    Steady ρ (countRound env body pos) (countRound env' body pos) := by
  unfold countRound
  dsimp only
  split
  · exact .bind_fixed (steady_tick akin pos) fun _ => .pure rfl
  · exact .pure rfl

variable (sound : ρ.Sound)
include sound

omit akin sound in
theorem languageCall?_found {ρ : Relocation} {env : Env} (env' : Env) {name : String}
    {args : List Datum} {pos : Position} {x : Run Datum}
    (h : languageCall? env name args pos = some x) :
    ∃ y, languageCall? env' name (move ρ args) pos = some y ∧
      (ρ.Sound → env.Akin ρ env' → Steady ρ x y) := by
  unfold languageCall? at h
  split at h <;> cases h
  · exact ⟨_, rfl, fun _ _ => steady_functionNamed _ pos⟩
  · refine ⟨_, rfl, fun sound akin => ?_⟩
    exact steady_onValue (steady_callValue akin sound _ _ pos) _
  · refine ⟨_, rfl, fun _ _ => .pure ?_⟩
    exact congrArg (Datum.function _) (move_append _ _).symm
  · refine ⟨_, rfl, fun _ _ => .pure ?_⟩
    exact congrArg Datum.string (Datum.kindName_move _)
  · exact ⟨_, rfl, fun _ _ => .pure rfl⟩
  · refine ⟨_, rfl, fun _ akin => .pure ?_⟩
    rw [akin.functions]
    rfl
  · refine ⟨_, rfl, fun _ _ => .bind (steady_find? _) fun v => .pure ?_⟩
    cases v <;> rfl
  · exact ⟨_, rfl, fun _ _ => .bind_fixed (steady_printLine _) fun _ => .pure rfl⟩
  · exact ⟨_, rfl, fun _ _ => .bind_fixed (steady_debugLine _ pos) fun _ => .pure rfl⟩

theorem matched_languageCall? (name : String) (args : List Datum) (pos : Position) :
    Matched ρ (languageCall? env name args pos) (languageCall? env' name (move ρ args) pos) := by
  refine .of_found (fun x h => ?_) fun y h => ?_
  · obtain ⟨y, hy, steady⟩ := languageCall?_found env' h
    exact ⟨y, hy, steady sound akin⟩
  · obtain ⟨back, undoes⟩ := sound.undone
    obtain ⟨x, hx, -⟩ := languageCall?_found (ρ := back) env h
    rw [movedItems_back undoes] at hx
    exact ⟨x, hx⟩

theorem steady_callNamed (name : String) (args : List Datum) (pos : Position) :
    Steady ρ (callNamed env name args pos) (callNamed env' name (move ρ args) pos) := by
  have matched := matched_languageCall? akin sound name args pos
  simp only [callNamed, length_move, akin.functions]
  generalize languageCall? env name args pos = x?,
    languageCall? env' name (move ρ args) pos = y? at matched
  cases matched with
  | both h => exact h
  | neither =>
    cases env.script.function? name args.length with
    | some f => exact steady_callFree akin f args pos
    | none =>
      cases args with
      | nil => exact .bind_fixed (steady_tick akin pos) fun _ => steady_raise rfl pos
      | cons self rest => exact steady_onValue (steady_callBuiltin sound akin name rest pos) self

theorem steady_callOnVariable (name first : String) (firstPos : Position) (rest : List Datum)
    (pos : Position) : Steady ρ (callOnVariable env name first firstPos rest pos)
      (callOnVariable env' name first firstPos (move ρ rest) pos) := by
  refine .bind_fixed (steady_tick akin firstPos) fun _ => ?_
  refine .bind (steady_lookup first firstPos) fun self => ?_
  refine .bind (steady_find? first) fun v => ?_
  have free : (languageCall? env' name (move ρ self :: move ρ rest) pos).isNone =
      (languageCall? env name (self :: rest) pos).isNone :=
    (matched_languageCall? akin sound name (self :: rest) pos).isNone_eq
  have shared : (move ρ v).any (·.value.isCell) = v.any (·.value.isCell) := by
    cases v with
    | none => rfl
    | some v => exact Datum.isCell_move v.value
  have own : (move ρ v).any (!·.isConst) = v.any (!·.isConst) := by cases v <;> rfl
  simp only [shared, own, free, length_move, isEmpty_move, akin.functions]
  split
  · exact .pure rfl
  · split
    · exact steady_onVariable (steady_callBuiltin sound akin name rest pos) first self
    · exact steady_callNamed akin sound name (self :: rest) pos

theorem steady_walkVariable (name : String) (pos : Position) (steps : List Step)
    (change : Option Change) : Steady ρ (walkVariable env name pos steps change)
      (walkVariable env' name pos (move ρ steps) (move ρ change)) := by
  refine .bind_fixed (steady_tick akin pos) fun _ => .bind (steady_lookup name pos) fun d => ?_
  refine .bind (steady_find? name) fun v => ?_
  refine .bind_fixed (steady_checkConstant sound v name pos steps change) fun _ => ?_
  have held : (move ρ v).map (·.value) = move ρ (v.map (·.value)) := by cases v <;> rfl
  rw [held]
  exact .bind (steady_onVariable (steady_walkHeld akin sound _ change steps) name d) fun _ => .pure rfl

theorem steady_walkReceiver (pos : Position) (steps : List Step) (change : Option Change) :
    Steady ρ (walkReceiver env pos steps change)
      (walkReceiver env' pos (move ρ steps) (move ρ change)) := by
  refine .bind_fixed (steady_tick akin pos) fun _ => .bind (steady_receiver pos) fun d => ?_
  refine .bind steady_held fun held => ?_
  exact .bind (steady_onReceiver (steady_walkHeld akin sound held change steps) d) fun _ => .pure rfl

theorem steady_walkValue (d : Datum) (steps : List Step) :
    Steady ρ (walkValue env d steps) (walkValue env' (move ρ d) (move ρ steps)) :=
  .bind (steady_onValue (steady_walk akin sound none steps) d) fun _ => .pure rfl

end names

/-! ### Expressions and statements -/

section programs

open Run

variable {env env' : Env} (akin : env.Akin ρ env') (sound : ρ.Sound)
include akin sound

set_option linter.unusedSectionVars false in
mutual

theorem steady_eval : ∀ e : Expr, Steady ρ (eval env e) (eval env' e)
  | .lit l _ => by
    rw [eval, eval]
    exact .pure (Literal.move_datum l).symm
  | .interp parts _ => by
    rw [eval, eval]
    exact .bind_fixed (steady_evalPieces "" parts) fun _ => .pure rfl
  | .array items pos => by
    rw [eval, eval]
    refine .bind (steady_evalAll items) fun values => ?_
    exact .bind_fixed (steady_checkSize akin (.array values) pos) fun _ => .pure rfl
  | .map entries pos => by
    rw [eval, eval]
    refine .bind (steady_evalEntries entries) fun m => ?_
    exact .bind_fixed (steady_checkSize akin (.map m) pos) fun _ => .pure rfl
  | .var name pos => by
    rw [eval, eval]
    exact steady_lookup name pos
  | .receiver pos => by
    rw [eval, eval]
    exact steady_receiver pos
  | .block body _ => by
    rw [eval, eval]
    exact steady_inBlock (steady_runAll body)
  | .call name args pos => by
    have hargs := steady_evalAll args
    have hrest := steady_evalTail args
    by_cases h : ∃ first firstPos rest, args = .var first firstPos :: rest
    · obtain ⟨first, firstPos, rest, rfl⟩ := h
      rw [eval, eval]
      exact .bind hrest fun rest => steady_callOnVariable akin sound name first firstPos rest pos
    · have hplain : ∀ first firstPos rest, args = .var first firstPos :: rest → False :=
        fun first firstPos rest heq => h ⟨first, firstPos, rest, heq⟩
      rw [eval, eval]
      · refine .bind hargs fun values => ?_
        have named := steady_callNamed akin sound name values pos
        split
        · exact steady_functionNamed _ _
        · refine .bind steady_held fun held => .pure (congrArg Datum.bool ?_)
          cases held with
          | none => rfl
          | some d => exact Datum.isCell_move d
        · next hshared hfn =>
          split
          · next hvalues =>
            obtain ⟨value, rest, rfl, -, hrest⟩ := move_eq_cons.mp hvalues
            exact (hfn _ value rfl rfl (by rw [move_eq_nil.mp hrest])).elim
          · exact (hshared _ rfl rfl).elim
          · exact named
      · exact hplain
      · exact hplain
  | .unary op arg pos => by
    rw [eval, eval]
    exact .bind (steady_counted akin (steady_eval arg) arg.pos) fun d => steady_applyUnary akin op d pos
  | .binary op left right pos => by
    rw [eval, eval]
    refine .bind (steady_counted akin (steady_eval left) left.pos) fun a => ?_
    refine .bind (steady_counted akin (steady_eval right) right.pos) fun b => ?_
    exact steady_applyBinary akin op a b pos
  | .and left right _ => by
    have hright := steady_counted akin (steady_eval right) right.pos
    rw [eval, eval]
    refine .bind (steady_counted akin (steady_eval left) left.pos) fun d => ?_
    refine .bind_fixed (steady_asTest d left.pos) fun b => ?_
    split
    · exact .bind hright fun d => .bind_fixed (steady_asTest d right.pos) fun _ => .pure rfl
    · exact .pure rfl
  | .or left right _ => by
    have hright := steady_counted akin (steady_eval right) right.pos
    rw [eval, eval]
    refine .bind (steady_counted akin (steady_eval left) left.pos) fun d => ?_
    refine .bind_fixed (steady_asTest d left.pos) fun b => ?_
    split
    · exact .pure rfl
    · exact .bind hright fun d => .bind_fixed (steady_asTest d right.pos) fun _ => .pure rfl
  | .coalesce left right _ => by
    have hright := steady_counted akin (steady_eval right) right.pos
    rw [eval, eval]
    refine .bind (steady_counted akin (steady_eval left) left.pos) fun d => ?_
    cases d with
    | unit => exact hright
    | _ => exact .pure rfl
  | .chain base links => by
    have hbase := steady_counted akin (steady_eval base) base.pos
    have hlinks := steady_evalLinks (isDirect links) links
    cases base with
    | var name pos =>
      rw [eval, eval]
      exact .bind hlinks fun steps => steady_walkVariable akin sound name pos steps none
    | receiver pos =>
      rw [eval, eval]
      exact .bind hlinks fun steps => steady_walkReceiver akin sound pos steps none
    | _ =>
      simp only [eval] at hbase ⊢
      exact .bind hlinks fun steps => .bind hbase fun d => steady_walkValue akin sound d steps
  | .closure name captures pos => by
    have captured := steady_mapM (f := (Run.share · pos)) (g := (Run.share · pos)) (t := id)
      (fun c => steady_share (ρ := ρ) c pos) captures
    rw [List.map_id] at captured
    rw [eval, eval]
    exact .bind captured fun _ => .pure rfl

theorem steady_evalAll : ∀ es : List Expr, Steady ρ (evalAll env es) (evalAll env' es)
  | [] => by
    rw [evalAll, evalAll]
    exact .pure rfl
  | e :: rest => by
    rw [evalAll, evalAll]
    refine .bind (steady_counted akin (steady_eval e) e.pos) fun _ => ?_
    exact .bind (steady_evalAll rest) fun _ => .pure rfl

theorem steady_evalTail : ∀ es : List Expr, Steady ρ (evalAll env es.tail) (evalAll env' es.tail)
  | [] => by
    rw [List.tail_nil, evalAll, evalAll]
    exact .pure rfl
  | _ :: rest => steady_evalAll rest

theorem steady_evalEntries :
    ∀ es : List (String × Expr), Steady ρ (evalEntries env es) (evalEntries env' es)
  | [] => by
    rw [evalEntries, evalEntries]
    exact .pure rfl
  | (k, e) :: rest => by
    rw [evalEntries, evalEntries]
    refine .bind (steady_counted akin (steady_eval e) e.pos) fun d => ?_
    exact .bind (steady_evalEntries rest) fun m => .pure (move_insertSorted m k d).symm

theorem steady_evalPieces (acc : String) :
    ∀ es : List Expr, Steady ρ (evalPieces env acc es) (evalPieces env' acc es)
  | [] => by
    rw [evalPieces, evalPieces]
    exact .pure rfl
  | e :: rest => by
    rw [evalPieces, evalPieces]
    refine .bind (steady_counted akin (steady_eval e) e.pos) fun d => ?_
    exact .bind_fixed (steady_addPiece akin acc d e.pos) fun acc => steady_evalPieces acc rest

theorem steady_evalLinks (direct : Bool) :
    ∀ links : List Link, Steady ρ (evalLinks env direct links) (evalLinks env' direct links)
  | [] => by
    rw [evalLinks, evalLinks]
    exact .pure rfl
  | link :: rest => by
    have more : Steady ρ (do
        let step ← evalLink env direct link
        return step :: (← evalLinks env direct rest) : Run (List Step)) (do
        let step ← evalLink env' direct link
        return step :: (← evalLinks env' direct rest)) :=
      .bind (steady_evalLink direct link) fun _ => .bind (steady_evalLinks direct rest) fun _ =>
        .pure rfl
    rw [evalLinks, evalLinks]
    dsimp only
    split
    · exact .bind_fixed (steady_tick akin _) fun _ => more
    · exact more

theorem steady_linksOf (direct : Bool) :
    ∀ e : Expr, Steady ρ (evalLinks env direct e.links) (evalLinks env' direct e.links)
  | .chain _ links => steady_evalLinks direct links
  | .lit _ _ | .interp _ _ | .array _ _ | .map _ _ | .var _ _ | .receiver _ | .block _ _
  | .call _ _ _ | .unary _ _ _ | .binary _ _ _ _ | .and _ _ _ | .or _ _ _ | .coalesce _ _ _
  | .closure _ _ _ => by
    rw [Expr.links, evalLinks, evalLinks]
    · exact .pure rfl
    · simp

theorem steady_evalLink (direct : Bool) :
    ∀ link : Link, Steady ρ (evalLink env direct link) (evalLink env' direct link)
  | .index arg safe opPos => by
    have harg := steady_eval arg
    rw [evalLink, evalLink]
    dsimp only
    split
    · exact .bind harg fun _ => .pure rfl
    · exact .bind (steady_counted akin harg _) fun _ => .pure rfl
  | .property name safe pos opPos => by
    rw [evalLink, evalLink]
    exact .pure rfl
  | .method name args safe pos opPos => by
    rw [evalLink, evalLink]
    exact .bind (steady_evalAll args) fun _ => .pure rfl

theorem steady_runAll : ∀ body : List Stmt, Steady ρ (runAll env body) (runAll env' body)
  | [] => by
    rw [runAll, runAll]
    exact .pure rfl
  | [s] => by
    rw [runAll, runAll]
    exact steady_counted akin (steady_run s) s.pos
  | s :: t :: rest => by
    have unfolded (env : Env) : runAll env (s :: t :: rest) = (do
        let _ ← counted env s.pos (run env s)
        runAll env (t :: rest)) := by
      rw [runAll]
      simp
    rw [unfolded env, unfolded env']
    exact .bind (steady_counted akin (steady_run s) s.pos) fun _ => steady_runAll (t :: rest)

theorem steady_run : ∀ s : Stmt, Steady ρ (run env s) (run env' s)
  | .expr e => by
    have he := steady_eval e
    rw [run, run]
    split
    · exact he
    · exact steady_counted akin he e.pos
  | .declare name init isConst _ => by
    rw [run, run]
    refine .bind (steady_evalIf init) fun d => ?_
    exact .bind_fixed (steady_declare name d isConst) fun _ => .pure rfl
  | .assign op target value pos => by
    have hlinks := fun direct => steady_linksOf direct target
    rw [run, run]
    refine .bind (steady_counted akin (steady_eval value) value.pos) fun d => ?_
    have named := fun name p => steady_assignName akin name p ⟨op, d, pos⟩
    have received := fun p => steady_assignReceiver akin p ⟨op, d, pos⟩
    dsimp only
    split
    · exact .bind_fixed (named _ _) fun _ => .pure rfl
    · exact .bind_fixed (received _) fun _ => .pure rfl
    · refine .bind (hlinks _) fun steps => ?_
      have walked := fun name p => steady_walkVariable akin sound name p steps (some ⟨op, d, pos⟩)
      exact .bind (walked _ _) fun _ => .pure rfl
    · refine .bind (hlinks _) fun steps => ?_
      have walked := fun p => steady_walkReceiver akin sound p steps (some ⟨op, d, pos⟩)
      exact .bind (walked _) fun _ => .pure rfl
    · exact .bind_fixed (steady_raise rfl _) fun _ => .pure rfl
  | .cond test yes no _ => by
    have hyes := steady_inBlock (steady_runAll yes)
    have hno := steady_inBlock (steady_runAll no)
    rw [run, run]
    refine .bind (steady_counted akin (steady_eval test) test.pos) fun d => ?_
    refine .bind_fixed (steady_asTest d test.pos) fun b => ?_
    split
    · exact hyes
    · exact hno
  | .choose subject cases otherwise _ => by
    have hcases := fun accepts => steady_runCases accepts cases
    have hotherwise := steady_inBlock (steady_runAll otherwise)
    rw [run, run]
    refine .bind (steady_counted akin (steady_eval subject) subject.pos) fun d => ?_
    rw [isCase_move, isInCase_move]
    refine .bind (hcases _) fun v => ?_
    cases v with
    | some v => exact .pure rfl
    | none =>
      refine .bind (hcases _) fun v => ?_
      cases v with
      | some v => exact .pure rfl
      | none => exact hotherwise
  | .loop none body pos => by
    rw [run, run]
    refine steady_repeatRun (steady_whileRound (steady_countRound akin body pos) ?_) _
    exact steady_inBlock (steady_runAll body)
  | .loop (some test) body pos => by
    have htest := steady_counted akin (steady_eval test) test.pos
    rw [run, run]
    refine steady_repeatRun (steady_whileRound ?_ (steady_inBlock (steady_runAll body))) _
    refine .bind_fixed (steady_countRound akin body pos) fun _ => .bind htest fun d => ?_
    exact steady_asTest d test.pos
  | .repeat body goOn test _ => by
    have htest := steady_counted akin (steady_eval test) test.pos
    rw [run, run]
    refine steady_repeatRun (steady_untilRound ?_ (steady_inBlock (steady_runAll body))) _
    exact .bind htest fun d => .bind_fixed (steady_asTest d test.pos) fun _ => .pure rfl
  | .each name counter items body pos => by
    have hbody := steady_inBlock (steady_runAll body)
    rw [run, run]
    refine .bind (steady_counted akin (steady_eval items) items.pos) fun d => steady_inBlock ?_
    refine .bind_fixed (steady_forM (fun c => steady_declare c .unit false) _) fun _ => ?_
    refine .bind_fixed (steady_declare name .unit false) fun _ => ?_
    exact steady_loopOver d _ (steady_itemRound akin name counter pos hbody)
  | .block body _ => by
    rw [run, run]
    exact steady_inBlock (steady_runAll body)
  | .leave value _ => by
    rw [run, run]
    exact .bind (steady_evalIf value) fun _ => .fail rfl
  | .next _ => by
    rw [run, run]
    exact .fail rfl
  | .give value _ => by
    rw [run, run]
    exact .bind (steady_evalIf value) fun _ => .fail rfl
  | .throw value pos => by
    rw [run, run]
    exact .bind (steady_evalIf value) fun _ => steady_raise rfl pos
  | .attempt body name handler _ => by
    have hhandler := steady_runAll handler
    rw [run, run]
    refine steady_recover (steady_inBlock (steady_runAll body)) fun caught => steady_inBlock ?_
    exact .bind_fixed (steady_forM (fun v => steady_declare v caught false) _) fun _ => hhandler

theorem steady_evalIf : ∀ e : Option Expr, Steady ρ (evalIf env e) (evalIf env' e)
  | none => by
    rw [evalIf, evalIf]
    exact .pure rfl
  | some e => by
    rw [evalIf, evalIf]
    exact steady_counted akin (steady_eval e) e.pos

theorem steady_runCases (accepts : Expr → Bool) :
    ∀ cases : List (List Expr × Option Expr × List Stmt),
      Steady ρ (runCases env accepts cases) (runCases env' accepts cases)
  | [] => by
    rw [runCases, runCases]
    exact .pure rfl
  | (literals, guard, body) :: rest => by
    have hguard := steady_evalGuard guard
    have hbody := steady_inBlock (steady_runAll body)
    have hrest := steady_runCases accepts rest
    rw [runCases, runCases]
    split
    · refine .bind_fixed hguard fun b => ?_
      split
      · exact .bind hbody fun _ => .pure rfl
      · exact hrest
    · exact hrest

theorem steady_evalGuard : ∀ e : Option Expr, Steady ρ (evalGuard env e) (evalGuard env' e)
  | none => by
    rw [evalGuard, evalGuard]
    exact .pure rfl
  | some e => by
    rw [evalGuard, evalGuard]
    exact .bind (steady_counted akin (steady_eval e) e.pos) fun d => steady_asTest d e.pos

end

end programs

/-! ### Functions -/

section functions

theorem parameters_move (params : List String) (args : List Datum) :
    ((params.zip (move ρ args)).map fun (name, value) => { name, value : Variable }).reverse =
      move ρ ((params.zip args).map fun (name, value) => { name, value : Variable }).reverse := by
  show _ = List.map (move ρ) _
  rw [move_items, List.zip_map_right, List.map_map, List.map_reverse, List.map_map]
  rfl

variable {env env' : Env} (akin : env.Akin ρ env')
include akin

theorem steady_runFunction (sound : ρ.Sound) (f : Function) (args : List Datum) :
    Steady ρ (runFunction env f args) (runFunction env' f (move ρ args)) := by
  rintro ⟨m, self⟩
  let entered : Machine := { m with
    scope := ((f.params.zip args).map fun (name, value) => { name, value : Variable }).reverse
    receiver := self }
  have body : runAll env' f.body (move ρ entered) = move ρ (runAll env f.body entered) :=
    steady_runAll akin sound f.body entered
  have entering : (⟨((f.params.zip (move ρ args)).map fun (name, value) =>
      { name, value : Variable }).reverse, move ρ self, (move ρ m).cells, (move ρ m).operations,
      (move ρ m).collectors, (move ρ m).log⟩ : Machine) = move ρ entered := by
    rw [parameters_move]
    rfl
  simp only [runFunction, move_pair, entering, body]
  rcases runAll env f.body entered with ⟨o, after⟩
  cases o with
  | error s => cases s <;> rfl
  | _ => rfl

theorem steady_callFunction (sound : ρ.Sound) (f : Function) (args : List Datum) (pos : Position) :
    Steady ρ (callFunction env f args pos) (callFunction env' f (move ρ args) pos) := by
  rintro ⟨m, self⟩
  have hcounted := Run.steady_tick akin pos m
  simp only [callFunction, move_pair, hcounted]
  rcases Run.tick env pos m with ⟨o, next⟩
  cases o with
  | ok _ =>
    have called := steady_runFunction akin sound f args (next, self)
    simp only [move_pair] at called
    simp only [move_pair, move_ok, called]
    rcases runFunction env f args (next, self) with ⟨o, after⟩
    cases o with
    | error s =>
      cases s with
      | fault e =>
        exact congrArg (fun e => (Outcome.error (Signal.fault e), move ρ after))
          (Fault.move_leaving e f.name pos).symm
      | _ => rfl
    | _ => rfl
  | _ => rfl

theorem steady_refuseCall (pos : Position) :
    Steady ρ (refuseCall env pos) (refuseCall env' pos) := by
  rintro ⟨m, self⟩
  have refused : Steady ρ (do Run.tick env pos; Run.raise .stackOverflow pos : Run Datum)
      (do Run.tick env' pos; Run.raise .stackOverflow pos) :=
    .bind_fixed (Run.steady_tick akin pos) fun _ => Run.steady_raise rfl pos
  have whole := refused m
  simp only [refuseCall, move_pair, whole]
  rfl

end functions

/-- However deep calls may nest, they do not see the numbers of handles. -/
theorem Env.akin_atDepth (sound : ρ.Sound) {base base' : Env} (akin : base.Akin ρ base')
    (depth : Nat) : (base.atDepth depth).Akin ρ (base'.atDepth depth) := by
  induction depth with
  | zero =>
    exact ⟨akin.functions, akin.maxOperations, akin.timedOperations, akin.maxText,
      fun _ _ pos => steady_refuseCall akin pos⟩
  | succ depth ih =>
    exact ⟨akin.functions, akin.maxOperations, akin.timedOperations, akin.maxText,
      steady_callFunction ih sound⟩

end RowScript.Script
