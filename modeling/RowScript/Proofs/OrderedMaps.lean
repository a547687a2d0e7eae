import RowScript.Proofs.Ascending
import RowScript.Proofs.Emission

/-!
# Records as ordered maps

A record that a script holds is one `OrderedMap`: distinct names in an order, each with a value.

* What the map says of itself agrees (`OrderedMap.agrees`): names, values, pairs, lookups, counts
  and text are those of one list.
* Each thing a script can ask of a record is what the map answers (`answer_of`), each place reads
  what the map has there, and setting a place sets the map (`OrderedMap.set_of`), which
  `OrderedMap.IsSet` describes. Each of these costs a few operations. If one of them is not granted,
  or a text gets too long, a limit stops the script and the record stays as it was (`Pays`, `Yields`).
* So each operation ends on the record as on the map (`ends_perform`), and so does any number of
  them (`runs_performEach`), whatever the script does in between.
-/

namespace RowScript.Script

open Attempt

/-! ### What a script can do with a record -/

namespace Record

/-- A method of records that changes nothing. -/
inductive Query
  | get (k : String)
  | contains (k : String)
  | keys
  | values
  | len
  | isEmpty
  | toMap
  | toText
  | toDebug

namespace Query

def name : Query → String
  | get _ => "get"
  | contains _ => "contains"
  | keys => "keys"
  | values => "values"
  | len => "len"
  | isEmpty => "is_empty"
  | toMap => "to_map"
  | toText => "to_string"
  | toDebug => "to_debug"

def args : Query → List Datum
  | get k | contains k => [.string k]
  | _ => []

end Query

/-- How a place of a record is named: `r[k]` or `r.k`. -/
inductive Spot
  | index (argPos opPos : Position)
  | property (pos opPos : Position)

/-- The last step of a chain that ends in a place. -/
def Spot.step (k : String) (safe : Bool) : Spot → Step
  | index argPos opPos => .index (.string k) safe argPos opPos
  | property pos opPos => .property k safe pos opPos

/-- What a script does with a record. -/
inductive Op
  | ask (q : Query) (safe : Bool) (pos opPos : Position)
  | read (k : String) (safe : Bool) (spot : Spot)
  | assign (k : String) (d : Datum) (safe : Bool) (spot : Spot) (pos : Position)
  /-- A loop over the record. -/
  | each (round : Nat → Datum → Run (Option Datum)) (pos : Position)

namespace Op

/-- Do it to the value at hand. -/
def perform (env : Env) : Op → RunOn Datum
  | ask q safe pos opPos => do return (← walk env none [.method q.name q.args safe pos opPos]).1
  | read k safe spot => do return (← walk env none [spot.step k safe]).1
  | assign k d safe spot pos => do return (← walk env (some ⟨none, d, pos⟩) [spot.step k safe]).1
  | each round pos => do .lift (loopOver (← RunOn.self) pos round)

end Op

end Record

/-! ### Ordered maps -/

/-- Distinct names in an order, each with a value. -/
structure OrderedMap where
  pairs : Entries Datum
  distinct : pairs.Distinct

namespace OrderedMap

/-- What a script finds in a record. -/
def of (r : ValueMap) (h : r.Distinct) : OrderedMap where
  pairs := r.map fun p => (p.1, .ofValue p.2)
  distinct := by
    rw [Entries.Distinct, Entries.keys, List.map_map]
    exact h

variable (M : OrderedMap)

def keys : List String := Entries.keys M.pairs

def values : List Datum := Entries.values M.pairs

/-- The value under a name, unit if there is none. -/
def get (k : String) : Datum := (Entries.get? M.pairs k).getD .unit

/-- The pairs as a loop meets them. -/
def items : List Datum := M.pairs.map fun p => .array [.string p.1, p.2]

/-- The pairs as they are printed. -/
def text : String :=
  "\x7b" ++ ", ".intercalate (M.pairs.map fun p => p.1 ++ "=" ++ p.2.toValue.text) ++ "\x7d"

def set (k : String) (d : Datum) : OrderedMap := ⟨Entries.insert M.pairs k d, M.distinct.insert k d⟩

/-- What setting a name does, and all that it does. -/
structure IsSet (k : String) (d : Datum) (M' : OrderedMap) : Prop where
  /-- A name that is there keeps its place. -/
  known : k ∈ M.keys → M'.keys = M.keys
  /-- A new one comes last. -/
  fresh : k ∉ M.keys → M'.pairs = M.pairs ++ [(k, d)]
  self : M'.get k = d
  others : ∀ other, other ≠ k → M'.get other = M.get other

theorem isSet_set (k : String) (d : Datum) : M.IsSet k d (M.set k d) where
  known h := by
    have hmem : k ∈ Entries.keys M.pairs := h
    rw [keys, set, Entries.keys_insert, if_pos hmem, keys]
  fresh h := Entries.insert_of_not_mem h d
  self := by rw [get, set, Entries.get?_insert_self, Option.getD_some]
  others other h := by rw [get, set, Entries.get?_insert_of_ne h, get]

theorem set_of {r : ValueMap} (h : r.Distinct) (k : String) (v : Value) :
    (of r h).set k (.ofValue v) = of (r.insert k v) (h.insert k v) := by
  have hpairs := Entries.insert_map Datum.ofValue r k v
  simp only [set, of, hpairs]

/-! ### Answers -/

def answer : Record.Query → Datum
  | .get k => M.get k
  | .contains k => .bool (Entries.contains M.pairs k)
  | .keys => .array (M.keys.map .string)
  | .values => .array M.values
  | .len => .int (Int64.ofNat M.pairs.length)
  | .isEmpty => .bool M.pairs.isEmpty
  | .toMap => .map (Entries.setAll M.pairs)
  | .toText | .toDebug => .string M.text

/-- The answers agree with one list of names and one of values. -/
structure Agrees : Prop where
  distinct : M.keys.Nodup
  keys : M.answer .keys = .array (M.keys.map .string)
  values : M.answer .values = .array M.values
  lengths : M.values.length = M.keys.length
  /-- Any record that fits into memory has fewer pairs than that. -/
  len : ∃ n, M.answer .len = .int n ∧ (M.keys.length < 2 ^ 63 → n.toInt = M.keys.length)
  items : M.items = List.zipWith (fun k d => .array [.string k, d]) M.keys M.values
  contains : ∀ k, M.answer (.contains k) = .bool (decide (k ∈ M.keys))
  get : List.Forall₂ (fun k d => M.answer (.get k) = d) M.keys M.values
  absent : ∀ k, k ∉ M.keys → M.answer (.get k) = .unit
  isEmpty : M.answer .isEmpty = .bool (decide (M.keys.length = 0))
  toMap : ∃ entries, M.answer .toMap = .map entries ∧ Entries.Ascending entries ∧
    ∀ k, Entries.get? entries k = Entries.get? M.pairs k
  toText : M.answer .toText = .string M.text
  toDebug : M.answer .toDebug = .string M.text

theorem length_keys : M.keys.length = M.pairs.length := List.length_map _

theorem length_values : M.values.length = M.pairs.length := List.length_map _

theorem agrees : M.Agrees where
  distinct := M.distinct
  keys := rfl
  values := rfl
  lengths := M.length_values.trans M.length_keys.symm
  len := by
    refine ⟨_, rfl, fun h => ?_⟩
    rw [length_keys] at h ⊢
    exact Int64.toInt_ofNat_of_lt h
  items := by
    rw [OrderedMap.items, OrderedMap.keys, OrderedMap.values, Entries.keys, Entries.values,
      List.zipWith_map, List.zipWith_self]
  contains k := by
    rw [answer, Datum.bool.injEq, Bool.eq_iff_iff, Entries.contains, List.any_eq_true,
      decide_eq_true_iff, OrderedMap.keys, Entries.keys, List.mem_map]
    simp only [beq_iff_eq]
  get := by
    rw [OrderedMap.keys, OrderedMap.values, Entries.keys, Entries.values, List.forall₂_map_left_iff,
      List.forall₂_map_right_iff, List.forall₂_same]
    intro p hp
    have hsome : Entries.get? M.pairs p.1 = some p.2 := M.distinct.get?_eq_some_iff.mpr hp
    rw [answer, OrderedMap.get, hsome, Option.getD_some]
  absent k h := by
    have hnone : Entries.get? M.pairs k = none := by
      rw [← Option.not_isSome_iff_eq_none, Entries.isSome_get?]
      exact h
    rw [answer, OrderedMap.get, hnone, Option.getD_none]
  isEmpty := by
    rw [answer, length_keys]
    cases M.pairs <;> rfl
  toMap := by
    refine ⟨_, rfl, Entries.ascending_setAll _, fun k => ?_⟩
    rw [Entries.get?_setAll, Entries.last?]
    exact (M.distinct.get?_perm M.pairs.reverse_perm.symm k).symm
  toText := rfl
  toDebug := rfl

end OrderedMap

/-! ### What is given unless a limit stops it -/

theorem Fault.cause_locate (f : Fault) (pos : Position) : (f.locate pos).cause = f.cause := by
  unfold Fault.locate
  split <;> rfl

/-- `x` gives `a` and costs nothing but operations, unless a limit stops it. -/
def Pays {α : Type} (env : Env) (x : Run α) (a : α) : Prop :=
  ∀ m : Machine, ∃ n, x m = (.ok a, m.spent n) ∨
    ¬ env.Unlimited ∧ ∃ s, s.IsLimit ∧ x m = (.error s, m.spent n)

/-- `x` gives `a` on the value `d` and leaves `d'` in its place, and costs nothing but operations,
unless a limit stops it, in which case `d` stays. -/
def Yields {α : Type} (env : Env) (x : RunOn α) (d : Datum) (a : α) (d' : Datum) : Prop :=
  ∀ m : Machine, ∃ n, x (m, d) = (.ok a, m.spent n, d') ∨
    ¬ env.Unlimited ∧ ∃ s, s.IsLimit ∧ x (m, d) = (.error s, m.spent n, d)

section Rules

variable {α β : Type} {env : Env}

theorem pays_tick (env : Env) (pos : Position) : Pays env (Run.tick env pos) () := by
  intro m
  refine ⟨1, ?_⟩
  by_cases free : env.Unlimited
  · exact .inl (tick_unlimited free pos m)
  · exact (tick_cases env pos m).imp_right fun hrefused => ⟨free, hrefused⟩

theorem pays_checkSize (env : Env) (d : Datum) (pos : Position) :
    Pays env (Run.checkSize env d pos) () := by
  intro m
  refine ⟨0, ?_⟩
  by_cases free : env.Unlimited
  · exact .inl (checkSize_unlimited free d pos m)
  · unfold Run.checkSize
    cases env.maxText with
    | none => exact .inl rfl
    | some max =>
      by_cases hlong : d.textSize > max
      · exact .inr ⟨free, _, ⟨_, rfl, rfl⟩, congrFun (if_pos hlong) m⟩
      · exact .inl (congrFun (if_neg hlong) m)

namespace Pays

variable {x : Run α} {a : α}

theorem pure (a : α) : Pays env (Pure.pure a) a := fun _ => ⟨0, .inl rfl⟩

theorem bind {f : α → Run β} {b : β} (hx : Pays env x a) (hf : Pays env (f a) b) :
    Pays env (x >>= f) b := by
  intro m
  obtain ⟨n, h | ⟨limited, s, hs, h⟩⟩ := hx m
  · obtain ⟨k, hk⟩ := hf (m.spent n)
    rw [Machine.spent_spent] at hk
    exact ⟨n + k, by rw [bind_apply_of_ok h]; exact hk⟩
  · exact ⟨n, .inr ⟨limited, s, hs, bind_apply_of_error h⟩⟩

theorem locating (hx : Pays env x a) (pos : Position) : Pays env (Run.locating pos x) a := by
  intro m
  obtain ⟨n, h | ⟨limited, s, ⟨f, rfl, hf⟩, h⟩⟩ := hx m
  · exact ⟨n, .inl (mapError_apply_of _ h)⟩
  · exact ⟨n, .inr ⟨limited, .fault (f.locate pos), ⟨_, rfl, by rw [f.cause_locate, hf]⟩,
      mapError_apply_of _ h⟩⟩

end Pays

namespace Yields

variable {x : RunOn α} {a : α} {d d' : Datum}

theorem lift {x : Run α} (hx : Pays env x a) (d : Datum) : Yields env (RunOn.lift x) d a d := by
  intro m
  obtain ⟨n, h | ⟨limited, s, hs, h⟩⟩ := hx m
  · exact ⟨n, .inl (lift_apply_of d h)⟩
  · exact ⟨n, .inr ⟨limited, s, hs, lift_apply_of d h⟩⟩

theorem self (d : Datum) : Yields env RunOn.self d d d := fun _ => ⟨0, .inl rfl⟩

theorem setSelf (d d' : Datum) : Yields env (RunOn.setSelf d') d () d' := fun _ => ⟨0, .inl rfl⟩

theorem pure (a : α) (d : Datum) : Yields env (Pure.pure a) d a d := fun _ => ⟨0, .inl rfl⟩

/-- What comes first must not change the value: it would have to be taken back at a later limit. -/
theorem bind {f : α → RunOn β} {b : β} (hx : Yields env x d a d) (hf : Yields env (f a) d b d') :
    Yields env (x >>= f) d b d' := by
  intro m
  obtain ⟨n, h | ⟨limited, s, hs, h⟩⟩ := hx m
  · obtain ⟨k, hk⟩ := hf (m.spent n)
    rw [Machine.spent_spent] at hk
    exact ⟨n + k, by rw [bind_apply_of_ok h]; exact hk⟩
  · exact ⟨n, .inr ⟨limited, s, hs, bind_apply_of_error h⟩⟩

theorem map (hx : Yields env x d a d') (g : α → β) :
    Yields env (x >>= fun a => Pure.pure (g a)) d (g a) d' := by
  intro m
  obtain ⟨n, h | ⟨limited, s, hs, h⟩⟩ := hx m
  · exact ⟨n, .inl (bind_apply_of_ok h)⟩
  · exact ⟨n, .inr ⟨limited, s, hs, bind_apply_of_error h⟩⟩

theorem locating (hx : Yields env x d a d') (pos : Position) :
    Yields env (RunOn.locating pos x) d a d' := by
  intro m
  obtain ⟨n, h | ⟨limited, s, ⟨f, rfl, hf⟩, h⟩⟩ := hx m
  · exact ⟨n, .inl (mapError_apply_of _ h)⟩
  · exact ⟨n, .inr ⟨limited, .fault (f.locate pos), ⟨_, rfl, by rw [f.cause_locate, hf]⟩,
      mapError_apply_of _ h⟩⟩

end Yields

end Rules

/-! ### One operation -/

/-- No function of the script has the name of a query and takes its arguments: it would be called
in the place of the query. -/
def Env.KeepsQueries (env : Env) : Prop :=
  ∀ q : Record.Query, env.script.function? q.name q.args.length = none

section Queries

variable {r : ValueMap} (h : r.Distinct)

theorem keys_of : (OrderedMap.of r h).keys = Entries.keys r := by
  rw [OrderedMap.keys, OrderedMap.of, Entries.keys, List.map_map]
  rfl

theorem values_of : (OrderedMap.of r h).values = Datum.ofValues (Entries.values r) := by
  rw [OrderedMap.values, OrderedMap.of, Datum.ofValues_eq_map, Entries.values, Entries.values,
    List.map_map, List.map_map]
  rfl

theorem get_of (k : String) : (OrderedMap.of r h).get k = Record.get r k := by
  rw [OrderedMap.get, OrderedMap.of, Entries.get?_map, Record.get]

theorem items_of : (OrderedMap.of r h).items = Record.pairs r := by
  rw [OrderedMap.items, OrderedMap.of, List.map_map]
  rfl

theorem text_of : (OrderedMap.of r h).text = (Value.object r).text := by
  have hpairs : (OrderedMap.of r h).pairs.map (fun p => p.1 ++ "=" ++ p.2.toValue.text) =
      r.map fun p => p.1 ++ "=" ++ p.2.text := by
    rw [OrderedMap.of, List.map_map]
    refine List.map_congr_left fun p _ => ?_
    simp only [Function.comp_apply, Datum.toValue_ofValue]
  rw [OrderedMap.text, hpairs, Value.text, entryTexts_eq_map]

theorem setAll_of : Entries.setAll (OrderedMap.of r h).pairs = Record.toMap r := by
  rw [OrderedMap.of, Entries.setAll, List.foldl_map, Record.toMap]

theorem answer_of (env : Env) (q : Record.Query) (pos : Position) :
    builtin? env q.name pos (.record r) q.args =
      some (Run.ofComputed (.ok ⟨(OrderedMap.of r h).answer q, .record r⟩)) := by
  cases q with
  | get k =>
    rw [OrderedMap.answer, get_of]
    rfl
  | contains k =>
    rw [OrderedMap.answer, Entries.contains, OrderedMap.of, List.any_map]
    rfl
  | keys =>
    rw [OrderedMap.answer, keys_of]
    rfl
  | values =>
    rw [OrderedMap.answer, values_of]
    rfl
  | len =>
    rw [OrderedMap.answer, OrderedMap.of, List.length_map]
    rfl
  | isEmpty =>
    rw [OrderedMap.answer, OrderedMap.of, List.isEmpty_map]
    rfl
  | toMap =>
    rw [OrderedMap.answer, setAll_of]
    rfl
  | toText | toDebug =>
    rw [OrderedMap.answer, text_of]
    rfl

theorem yields_query (env : Env) (hkeep : env.KeepsQueries) (q : Record.Query) (pos : Position) :
    Yields env (callMethod env q.name q.args pos) (.record r)
      ((OrderedMap.of r h).answer q, true) (.record r) := by
  have hname : q.name ∉ languageMethods := by cases q <;> simp [Record.Query.name, languageMethods]
  have hcall : Yields env (callBuiltin env q.name q.args pos) (.record r)
      ((OrderedMap.of r h).answer q) (.record r) := by
    refine (Yields.lift (pays_tick env pos) _).bind ((Yields.self _).bind ?_)
    rw [answer_of h]
    refine (Yields.lift ((Pays.pure _).locating pos) _).bind ?_
    exact (Yields.setSelf _ _).bind ((Yields.lift (pays_checkSize env _ pos) _).bind (.pure _ _))
  intro m
  rw [callMethod_builtin hname rfl (hkeep q)]
  exact hcall.map (fun d => (d, true)) m

theorem yields_ask (env : Env) (hkeep : env.KeepsQueries) (q : Record.Query) (safe : Bool)
    (pos opPos : Position) :
    Yields env (Record.Op.perform env (.ask q safe pos opPos)) (.record r)
      ((OrderedMap.of r h).answer q) (.record r) := by
  have hwalk : Yields env (walk env none [.method q.name q.args safe pos opPos]) (.record r)
      ((OrderedMap.of r h).answer q, true) (.record r) := by
    rw [walk]
    refine (Yields.self _).bind ?_
    cases safe <;> exact (yields_query h env hkeep q pos).locating opPos
  exact hwalk.map Prod.fst

end Queries

section Places

variable (env : Env) (r : ValueMap)

theorem pays_getIndexed (k : String) (argPos opPos : Position) :
    Pays env (getIndexed env (.record r) (.string k) argPos opPos) (Record.get r k) :=
  (pays_tick env opPos).bind ((pays_tick env opPos).bind (.pure _))

theorem pays_getProperty (k : String) (pos opPos : Position) :
    Pays env (getProperty env (.record r) k pos opPos) (Record.get r k) :=
  (pays_tick env pos).bind ((pays_tick env opPos).bind (.pure _))

theorem yields_setIndexed (k : String) (d : Datum) (cPos argPos opPos : Position) :
    Yields env (setIndexed env ⟨none, d, cPos⟩ (.string k) argPos opPos) (.record r) ()
      (.record (Record.set r k d)) :=
  (Yields.lift (pays_tick env opPos) _).bind <| (Yields.self _).bind <|
    (Yields.lift (.pure d) _).bind <| (Yields.lift (pays_tick env opPos) _).bind <|
    Yields.setSelf _ _

theorem yields_setProperty (k : String) (d : Datum) (cPos pos opPos : Position) :
    Yields env (setProperty env ⟨none, d, cPos⟩ k pos opPos) (.record r) ()
      (.record (Record.set r k d)) :=
  (Yields.self _).bind <| (Yields.lift (.pure d) _).bind <|
    (Yields.lift (pays_tick env pos) _).bind <| (Yields.lift (pays_tick env opPos) _).bind <|
    Yields.setSelf _ _

theorem yields_read (k : String) (safe : Bool) (spot : Record.Spot) :
    Yields env (Record.Op.perform env (.read k safe spot)) (.record r) (Record.get r k)
      (.record r) := by
  have hwalk : Yields env (walk env none [spot.step k safe]) (.record r) (Record.get r k, false)
      (.record r) := by
    rw [walk]
    refine (Yields.self _).bind ?_
    cases spot with
    | index argPos opPos =>
      have hget := (Yields.lift (pays_getIndexed env r k argPos opPos) (.record r)).map (·, false)
      cases safe <;> exact hget.locating opPos
    | property pos opPos =>
      have hget := (Yields.lift (pays_getProperty env r k pos opPos) (.record r)).map (·, false)
      cases safe <;> exact hget.locating opPos
  exact hwalk.map Prod.fst

theorem yields_assign (k : String) (d : Datum) (safe : Bool) (spot : Record.Spot)
    (pos : Position) :
    Yields env (Record.Op.perform env (.assign k d safe spot pos)) (.record r) .unit
      (.record (Record.set r k d)) := by
  have hwalk : Yields env (walk env (some ⟨none, d, pos⟩) [spot.step k safe]) (.record r)
      (.unit, true) (.record (Record.set r k d)) := by
    rw [walk]
    refine (Yields.self _).bind ?_
    cases spot with
    | index argPos opPos =>
      have hset := (yields_setIndexed env r k d pos argPos opPos).map fun _ => (Datum.unit, true)
      cases safe <;> exact hset.locating opPos
    | property p opPos =>
      have hset := (yields_setProperty env r k d pos p opPos).map fun _ => (Datum.unit, true)
      cases safe <;> exact hset.locating opPos
  exact hwalk.map Prod.fst

end Places

/-! ### Any number of operations -/

/-- A loop makes a round for each item, and counts them, until a round leaves it or fails. -/
inductive Loops (round : Nat → Datum → Run (Option Datum)) :
    Nat → List Datum → Machine → Outcome Signal Datum → Machine → Prop
  | done {i m} : Loops round i [] m (.ok .unit) m
  | next {i item items m m' o m''} : round i item m = (.ok none, m') →
      Loops round (i + 1) items m' o m'' → Loops round i (item :: items) m o m''
  | left {i item items m v m'} : round i item m = (.ok (some v), m') →
      Loops round i (item :: items) m (.ok v) m'
  | failed {i item items m s m'} : round i item m = (.error s, m') →
      Loops round i (item :: items) m (.error s) m'
  | aborted {i item items m m'} : round i item m = (.aborted, m') →
      Loops round i (item :: items) m .aborted m'

theorem loops_eachRun {round : Nat → Datum → Run (Option Datum)} {i : Nat} {items : List Datum}
    {m m' : Machine} {o : Outcome Signal Datum} (h : eachRun round i items m = (o, m')) :
    Loops round i items m o m' := by
  induction items generalizing i m with
  | nil =>
    cases h
    exact .done
  | cons item items ih =>
    simp only [eachRun] at h
    split at h
    case h_1 v m₁ hround =>
      cases h
      exact .left hround
    case h_2 m₁ hround => exact .next hround (ih h)
    case h_3 s m₁ hround =>
      cases h
      exact .failed hround
    case h_4 m₁ hround =>
      cases h
      exact .aborted hround

/-- How an operation on the map `M` ends: with what comes out of it, the machine, and the map that is
there then. -/
inductive Ends (env : Env) (M : OrderedMap) (m : Machine) :
    Record.Op → Outcome Signal Datum → Machine → OrderedMap → Prop
  | asked {q safe pos opPos n} : Ends env M m (.ask q safe pos opPos) (.ok (M.answer q)) (m.spent n) M
  | read {k safe spot n} : Ends env M m (.read k safe spot) (.ok (M.get k)) (m.spent n) M
  | assigned {k d safe spot pos n M'} : M.IsSet k (.ofValue d.toValue) M' →
      Ends env M m (.assign k d safe spot pos) (.ok .unit) (m.spent n) M'
  | looped {round pos o m'} : Loops round 0 M.items m o m' → Ends env M m (.each round pos) o m' M
  /-- A limit stopped it, and nothing was changed. -/
  | stopped {op s n} : ¬ env.Unlimited → s.IsLimit → (∀ round pos, op ≠ .each round pos) →
      Ends env M m op (.error s) (m.spent n) M

namespace Ends

variable {env : Env} {M M' : OrderedMap} {m m' : Machine} {o : Outcome Signal Datum}

theorem of_ask {q : Record.Query} {safe : Bool} {pos opPos : Position} (free : env.Unlimited)
    (h : Ends env M m (.ask q safe pos opPos) o m' M') : o = .ok (M.answer q) ∧ M' = M := by
  cases h with
  | asked => exact ⟨rfl, rfl⟩
  | stopped limited => exact absurd free limited

theorem of_read {k : String} {safe : Bool} {spot : Record.Spot} (free : env.Unlimited)
    (h : Ends env M m (.read k safe spot) o m' M') : o = .ok (M.get k) ∧ M' = M := by
  cases h with
  | read => exact ⟨rfl, rfl⟩
  | stopped limited => exact absurd free limited

theorem of_assign {k : String} {d : Datum} {safe : Bool} {spot : Record.Spot} {pos : Position}
    (free : env.Unlimited) (h : Ends env M m (.assign k d safe spot pos) o m' M') :
    o = .ok .unit ∧ M.IsSet k (.ofValue d.toValue) M' := by
  cases h with
  | assigned hset => exact ⟨rfl, hset⟩
  | stopped limited => exact absurd free limited

end Ends

/-- What is found at a record that is the map `M` when operations are done to it one after the other,
each on a machine of its own. -/
inductive Runs (env : Env) : OrderedMap → List (Record.Op × Machine) →
    List (Outcome Signal Datum × Machine) → OrderedMap → Prop
  | nil {M} : M.Agrees → Runs env M [] [] M
  | cons {M op m o m' M' ops results last} : M.Agrees → Ends env M m op o m' M' →
      Runs env M' ops results last → Runs env M ((op, m) :: ops) ((o, m') :: results) last

/-- Do operations to a value one after the other. Between two of them the script can do anything else,
so each one meets a machine of its own. -/
def performEach (env : Env) : List (Record.Op × Machine) → Datum →
    List (Outcome Signal Datum × Machine) × Datum
  | [], d => ([], d)
  | (op, m) :: ops, d =>
    let (o, m', d') := op.perform env (m, d)
    let (results, last) := performEach env ops d'
    ((o, m') :: results, last)

/-- One operation leaves a record, and ends on it as on a map. -/
theorem ends_perform {env : Env} (hkeep : env.KeepsQueries) {r : ValueMap} (h : r.Distinct)
    (op : Record.Op) (m : Machine) :
    ∃ (o : Outcome Signal Datum) (m' : Machine) (r' : ValueMap) (h' : r'.Distinct),
      op.perform env (m, .record r) = (o, m', .record r') ∧
        Ends env (.of r h) m op o m' (.of r' h') := by
  cases op with
  | ask q safe pos opPos =>
    obtain ⟨n, hx | ⟨limited, s, hs, hx⟩⟩ := yields_ask h env hkeep q safe pos opPos m
    · exact ⟨_, _, r, h, hx, .asked⟩
    · exact ⟨_, _, r, h, hx, .stopped limited hs nofun⟩
  | read k safe spot =>
    obtain ⟨n, hx | ⟨limited, s, hs, hx⟩⟩ := yields_read env r k safe spot m
    · rw [← get_of h] at hx
      exact ⟨_, _, r, h, hx, .read⟩
    · exact ⟨_, _, r, h, hx, .stopped limited hs nofun⟩
  | assign k d safe spot pos =>
    obtain ⟨n, hx | ⟨limited, s, hs, hx⟩⟩ := yields_assign env r k d safe spot pos m
    · have hset := (OrderedMap.of r h).isSet_set k (.ofValue d.toValue)
      rw [OrderedMap.set_of] at hset
      exact ⟨_, _, _, _, hx, .assigned hset⟩
    · exact ⟨_, _, r, h, hx, .stopped limited hs nofun⟩
  | each round pos =>
    obtain ⟨o, m', hloop⟩ : ∃ o m', eachRun round 0 (Record.pairs r) m = (o, m') := ⟨_, _, rfl⟩
    have hloops := loops_eachRun hloop
    rw [← items_of h] at hloops
    exact ⟨o, m', r, h, lift_apply_of _ hloop, .looped hloops⟩

/-- Under any operations a record is one ordered map. -/
theorem runs_performEach {env : Env} (hkeep : env.KeepsQueries) {r : ValueMap} (h : r.Distinct)
    (ops : List (Record.Op × Machine)) :
    ∃ (r' : ValueMap) (h' : r'.Distinct), (performEach env ops (.record r)).2 = .record r' ∧
      Runs env (.of r h) ops (performEach env ops (.record r)).1 (.of r' h') := by
  induction ops generalizing r with
  | nil => exact ⟨r, h, rfl, .nil (OrderedMap.agrees _)⟩
  | cons first ops ih =>
    obtain ⟨op, m⟩ := first
    obtain ⟨o, m', r', h', hop, hends⟩ := ends_perform hkeep h op m
    obtain ⟨last, hlast, hrecord, hruns⟩ := ih h'
    refine ⟨last, hlast, ?_, ?_⟩
    · rw [performEach, hop]
      exact hrecord
    · rw [performEach, hop]
      exact .cons (OrderedMap.agrees _) hends hruns

/-- A new name comes last, and a name that is set again keeps its place. -/
theorem runs_performEach_two :
    let env := (ScriptUnit.mk ⟨[], []⟩ {}).env
    let r : ValueMap := [("b", .int 2), ("a", .int 1)]
    let spot : Record.Spot := .property .unknown .unknown
    let ops : List Record.Op := [.assign "c" (.int 3) false spot .unknown,
      .assign "b" (.int 5) false spot .unknown, .ask .keys false .unknown .unknown,
      .read "b" false spot, .ask (.get "a") false .unknown .unknown]
    (performEach env (ops.map (·, {})) (.record r)).1.map Prod.fst =
      [.ok .unit, .ok .unit, .ok (.array [.string "b", .string "a", .string "c"]), .ok (.int 5),
        .ok (.int 1)] := by
  intro env r spot ops
  have free : env.Unlimited := unlimited_env _
  have hkeep : env.KeepsQueries := fun _ => rfl
  have hdistinct : r.Distinct := by decide
  obtain ⟨r', h', -, hruns⟩ := runs_performEach hkeep hdistinct (ops.map (·, {}))
  generalize (performEach env (ops.map (·, {})) (.record r)).1 = results at hruns ⊢
  generalize OrderedMap.of r' h' = last at hruns
  obtain _ | ⟨-, hends, _ | ⟨-, hends', _ | ⟨-, hends'', hruns⟩⟩⟩ := hruns
  obtain _ | ⟨-, hread, _ | ⟨-, hask, hruns⟩⟩ := hruns
  cases hruns
  obtain ⟨rfl, hc⟩ := hends.of_assign free
  obtain ⟨rfl, hb⟩ := hends'.of_assign free
  obtain ⟨rfl, rfl⟩ := hends''.of_ask free
  obtain ⟨rfl, rfl⟩ := hread.of_read free
  obtain ⟨rfl, rfl⟩ := hask.of_ask free
  have hkeys : (OrderedMap.of r hdistinct).keys = ["b", "a"] := rfl
  have hfresh := congrArg Entries.keys (hc.fresh (by rw [hkeys]; decide))
  have hthree : last.keys = ["b", "a", "c"] := by
    refine (hb.known ?_).trans hfresh
    rw [OrderedMap.keys, hfresh]
    exact List.mem_cons_self
  have ha := (hb.others "a" (by decide)).trans (hc.others "a" (by decide))
  simp only [List.map_cons, List.map_nil, OrderedMap.answer, hthree, hb.self, ha]
  rfl

end RowScript.Script
