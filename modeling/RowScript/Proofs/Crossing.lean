import RowScript.Proofs.Unlimited

/-!
# What crosses the border of a script

A value that goes into a script and comes out again is the value itself, with the same kinds and the
same order at every depth (`Datum.toValue_ofValue`). The border is crossed at more places than a call
and its result: a script reads a record, walks through it, puts a value into it, and emits rows of what
it read. Each place uses the same two functions, so each gives back what went in (`lossless`).

Seen from the host it is the argument of a call that comes back, by a function that gives its
argument (`given_argument`) or one of its columns (`given_column`).
-/

namespace RowScript.Script

open Attempt

theorem Datum.itemValues_eq_map (ds : List Datum) : itemValues ds = ds.map toValue := by
  induction ds with
  | nil => rfl
  | cons d rest ih => rw [itemValues, ih, List.map_cons]

theorem Datum.ofValues_eq_map (vs : List Value) : ofValues vs = vs.map ofValue := by
  induction vs with
  | nil => rfl
  | cons v rest ih => rw [ofValues, ih, List.map_cons]

theorem entryTexts_eq_map (m : ValueMap) :
    Value.entryTexts m = m.map fun p => p.1 ++ "=" ++ p.2.text := by
  induction m with
  | nil => rfl
  | cons p rest ih => rw [Value.entryTexts, ih, List.map_cons]

/-! ### Records inside a script -/

namespace Record

theorem toValue_get (r : ValueMap) (name : String) :
    (Record.get r name).toValue = (r.get? name).getD .null := by
  unfold Record.get
  cases r.get? name with
  | none => rfl
  | some v => exact Datum.toValue_ofValue v

theorem set_ofValue (r : ValueMap) (name : String) (v : Value) :
    Record.set r name (.ofValue v) = r.insert name v := by
  rw [Record.set, Datum.toValue_ofValue]

theorem itemValues_keys (r : ValueMap) :
    Datum.itemValues (Record.keys r) = (Entries.keys r).map .string := by
  rw [Record.keys, Datum.itemValues_eq_map, List.map_map]
  exact List.map_congr_left fun _ _ => rfl

theorem itemValues_values (r : ValueMap) :
    Datum.itemValues (Record.values r) = Entries.values r :=
  Datum.itemValues_ofValues (Entries.values r)

/-- A walk through a record meets its names and values in their order. -/
theorem itemValues_pairs (r : ValueMap) :
    Datum.itemValues (Record.pairs r) = r.map fun p => .array [.string p.1, p.2] := by
  rw [Record.pairs, Datum.itemValues_eq_map, List.map_map]
  refine List.map_congr_left fun p _ => ?_
  simp [Datum.toValue, Datum.itemValues]

end Record

/-! ### Calls that give back what they get -/

/-- A script of one function, which gives the value of an expression. -/
def Program.giving (name : String) (params : List String) (e : Expr) : Program :=
  ⟨[⟨name, params, [.expr e]⟩], []⟩

/-- `parameter["column"]` -/
def Expr.column (parameter column : String) (pos argPos opPos : Position) : Expr :=
  .chain (.var parameter pos) [.index (.lit (.string column) argPos) false opPos]

section Expressions

variable {env : Env} {parameter : String} {m : ValueMap} {start : Machine}
  (h : start.scope = [⟨parameter, .record m, false⟩])
include h

theorem find?_parameter :
    start.scope.find? (·.name == parameter) = some ⟨parameter, .record m, false⟩ := by
  simp [h]

theorem eval_parameter (pos : Position) :
    eval env (.var parameter pos) start = (.ok (.record m), start) := by
  rw [eval]
  exact lookup_apply (find?_parameter h) (by simp) pos

theorem eval_columnOf (free : env.Unlimited) (column : String) (pos argPos opPos : Position) :
    ∃ last, eval env (.column parameter column pos argPos opPos) start =
      (.ok (Record.get m column), last) := by
  have hlinks : evalLinks env true [.index (.lit (.string column) argPos) false opPos] start =
      (.ok [.index (.string column) false argPos opPos], start) := by
    rw [evalLinks, evalLinks, evalLink, if_pos rfl, eval]
    rfl
  have hindex := walk_index (getIndexed_record free m column argPos opPos (start.spent 1))
  rw [Expr.column, eval_chain hlinks]
  exact ⟨_, walkVariable_apply free (find?_parameter h) (by simp) hindex rfl pos⟩

end Expressions

section Calls

variable {σ : Type} (access : Access) (name parameter : String) (receiver : Datum)
  (cells : Array Datum) (m : ValueMap) (s : Scene σ)

theorem runEntry_giving {e : Expr} {d : Datum} (plain : isCall e = false)
    (h : ∀ start : Machine, start.scope = [⟨parameter, .record m, false⟩] →
      ∃ last, eval (ScriptUnit.mk (.giving name [parameter] e) {}).env e start = (.ok d, last)) :
    (runEntry access ⟨name, 1⟩ [.values m] ⟨⟨.giving name [parameter] e, {}⟩, receiver, cells⟩ s).1 =
      .ok d.toValue := by
  let i : ScriptInstance := ⟨⟨.giving name [parameter] e, {}⟩, receiver, cells⟩
  let f : Function := ⟨name, [parameter], [.expr e]⟩
  have free : i.compiled.env.Unlimited := unlimited_env _
  have found : i.compiled.script.function? name [Arg.values m].length = some f := by
    simp [i, f, Program.giving, Program.function?, Function.arity]
  let start : Machine := .entering s f [.values m] i
  obtain ⟨last, hvalue⟩ := h ((start.spent 1).spent 1) rfl
  have hrun : runAll i.compiled.env f.body start = (.ok d, last) :=
    (runAll_expr free plain _).trans hvalue
  exact congrArg Prod.fst (runEntry_gives access found hrun (.inl rfl))

theorem given_argument (pos : Position) :
    (runEntry access ⟨name, 1⟩ [.values m]
      ⟨⟨.giving name [parameter] (.var parameter pos), {}⟩, receiver, cells⟩ s).1 =
      .ok (.object m) :=
  runEntry_giving access name parameter receiver cells m s (d := .record m) rfl fun start h =>
    ⟨start, eval_parameter h pos⟩

theorem given_column (column : String) (pos argPos opPos : Position) :
    (runEntry access ⟨name, 1⟩ [.values m]
      ⟨⟨.giving name [parameter] (.column parameter column pos argPos opPos), {}⟩, receiver, cells⟩
      s).1 = .ok ((m.get? column).getD .null) := by
  rw [← Record.toValue_get]
  exact runEntry_giving access name parameter receiver cells m s rfl fun start h =>
    eval_columnOf h (unlimited_env _) column pos argPos opPos

end Calls

/-- **Crossing the border of a script loses nothing.** A value of any depth that goes in comes out as
it was; so does a list of values, the map that a call is made with, and each of its columns. What a
script reads of a record, puts into it and meets in it are the record's own names and values, in their
order. -/
theorem lossless :
    (∀ v : Value, (Datum.ofValue v).toValue = v) ∧
    (∀ vs : List Value, Datum.itemValues (Datum.ofValues vs) = vs) ∧
    (∀ r : ValueMap, (argDatum (.values r)).toValue = .object r ∧
      (∀ name, (Record.get r name).toValue = (r.get? name).getD .null) ∧
      (∀ name v, Record.set r name (.ofValue v) = r.insert name v) ∧
      Datum.itemValues (Record.keys r) = (Entries.keys r).map .string ∧
      Datum.itemValues (Record.values r) = Entries.values r ∧
      Datum.itemValues (Record.pairs r) = r.map fun p => .array [.string p.1, p.2]) ∧
    ∀ {σ : Type} (access : Access) (name parameter : String) (receiver : Datum)
      (cells : Array Datum) (m : ValueMap) (s : Scene σ) (pos argPos opPos : Position),
      (runEntry access ⟨name, 1⟩ [.values m]
        ⟨⟨.giving name [parameter] (.var parameter pos), {}⟩, receiver, cells⟩ s).1 =
        .ok (.object m) ∧
      ∀ column, (runEntry access ⟨name, 1⟩ [.values m]
        ⟨⟨.giving name [parameter] (.column parameter column pos argPos opPos), {}⟩, receiver, cells⟩
        s).1 = .ok ((m.get? column).getD .null) := by
  refine ⟨Datum.toValue_ofValue, Datum.itemValues_ofValues, fun r => ?_, ?_⟩
  · exact ⟨rfl, Record.toValue_get r, Record.set_ofValue r, Record.itemValues_keys r,
      Record.itemValues_values r, Record.itemValues_pairs r⟩
  · intro σ access name parameter receiver cells m s pos argPos opPos
    exact ⟨given_argument access name parameter receiver cells m s pos, fun column =>
      given_column access name parameter receiver cells m s column pos argPos opPos⟩

end RowScript.Script
