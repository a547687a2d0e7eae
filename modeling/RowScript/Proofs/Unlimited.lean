import RowScript.Proofs.Interpreting

/-!
# Running without limits

Under limits that limit nothing an operation only counts (`tick_unlimited`), so a run is what it
computes and a count of operations, by which `Machine.spent` is told apart. This module has one lemma
for each construct that small scripts are made of: variables, chains of methods and indices
(`walk_method`, `walk_index`), built-ins (`callBuiltin_plain`), and loops over items (`run_each`,
`itemRound_apply`). Each says what the construct does if its parts do what the hypotheses say.
-/

namespace RowScript.Script

open Attempt

/-! ### Runs without limits -/

/-- Nothing is limited but how deep calls may nest. -/
structure Env.Unlimited (env : Env) : Prop where
  operations : env.maxOperations = none
  time : env.timedOperations = none
  text : env.maxText = none

/-- Some operations later. -/
def Machine.spent (m : Machine) (n : Nat) : Machine := { m with operations := m.operations + n }

namespace Machine

@[simp] theorem scope_spent (m : Machine) (n : Nat) : (m.spent n).scope = m.scope := rfl

@[simp] theorem cells_spent (m : Machine) (n : Nat) : (m.spent n).cells = m.cells := rfl

@[simp] theorem receiver_spent (m : Machine) (n : Nat) : (m.spent n).receiver = m.receiver := rfl

@[simp] theorem collectors_spent (m : Machine) (n : Nat) : (m.spent n).collectors = m.collectors := rfl

@[simp] theorem spent_spent (m : Machine) (n k : Nat) : (m.spent n).spent k = m.spent (n + k) := by
  simp [spent, Nat.add_assoc]

end Machine

section Unlimited

variable {env : Env} (free : env.Unlimited)
include free

theorem tick_unlimited (pos : Position) (m : Machine) : Run.tick env pos m = (.ok (), m.spent 1) := by
  simp [Run.tick, free.operations, free.time, Machine.spent]

theorem checkSize_unlimited (d : Datum) (pos : Position) (m : Machine) :
    Run.checkSize env d pos m = (.ok (), m) := by
  simp [Run.checkSize, free.text]

theorem counted_unlimited {α : Type} (pos : Position) (x : Run α) (m : Machine) :
    counted env pos x m = x (m.spent 1) :=
  bind_apply_of_ok (tick_unlimited free pos m)

theorem runAll_one (s : Stmt) (m : Machine) : runAll env [s] m = run env s (m.spent 1) := by
  rw [runAll]
  exact counted_unlimited free s.pos (run env s) m

theorem runAll_expr {e : Expr} (plain : isCall e = false) (m : Machine) :
    runAll env [.expr e] m = eval env e ((m.spent 1).spent 1) := by
  rw [runAll_one free, run, plain]
  exact counted_unlimited free _ _ _

end Unlimited

theorem lookup_apply {name : String} {d : Datum} {isConst : Bool} {m : Machine}
    (h : m.scope.find? (·.name == name) = some ⟨name, d, isConst⟩) (plain : ∀ i, d ≠ .cell i)
    (pos : Position) : Run.lookup name pos m = (.ok d, m) := by
  have hfind : Run.find? name m = (.ok (some ⟨name, d, isConst⟩), m) := by
    rw [Run.find?, bind_apply_of_ok read_apply, h]
    rfl
  have hload : d.loadFrom m.cells = d := by
    cases d with
    | cell i => exact absurd rfl (plain i)
    | _ => rfl
  rw [Run.lookup, bind_apply_of_ok hfind]
  simp only
  rw [Run.load, bind_apply_of_ok read_apply, hload]
  rfl

theorem replaceIn_self {name : String} {d : Datum} {isConst : Bool} {scope : List Variable}
    (h : scope.find? (·.name == name) = some ⟨name, d, isConst⟩) :
    Run.replaceIn name d scope = scope := by
  induction scope with
  | nil => rfl
  | cons v rest ih =>
    rw [Run.replaceIn]
    by_cases hname : v.name == name
    · simp only [List.find?_cons, hname] at h
      cases h
      rw [if_pos hname]
    · simp only [List.find?_cons, hname] at h
      rw [if_neg hname, ih h]

theorem assignVariable_apply {name : String} {old : Datum} {isConst : Bool} {m : Machine}
    (h : m.scope.find? (·.name == name) = some ⟨name, old, isConst⟩) (plain : ∀ i, old ≠ .cell i)
    (d : Datum) :
    Run.assignVariable name d m = (.ok (), { m with scope := Run.replaceIn name d m.scope }) := by
  have hfind : Run.find? name m = (.ok (some ⟨name, old, isConst⟩), m) := by
    rw [Run.find?, bind_apply_of_ok read_apply, h]
    rfl
  rw [Run.assignVariable, bind_apply_of_ok hfind]
  cases old with
  | cell i => exact absurd rfl (plain i)
  | _ => rfl

/-- Methods that are part of the language and mean the same for all values. -/
def languageMethods : List String := ["call", "curry", "type_of", "is_shared"]

theorem walkHeld_of_plain {env : Env} {d : Datum} (plain : ∀ i, d ≠ .cell i) (change : Option Change)
    (steps : List Step) : walkHeld env (some d) change steps = walk env change steps := by
  cases d with
  | cell i => exact absurd rfl (plain i)
  | _ => rfl

/-- A chain from a variable that leaves the value of the variable as it is. -/
theorem walkVariable_apply {env : Env} (free : env.Unlimited) {name : String} {d v : Datum}
    {changed : Bool} {m m' : Machine} {steps : List Step}
    (h : m.scope.find? (·.name == name) = some ⟨name, d, false⟩) (plain : ∀ i, d ≠ .cell i)
    (hwalk : walk env none steps (m.spent 1, d) = (.ok (v, changed), m', d))
    (hscope : m'.scope = m.scope) (pos : Position) :
    walkVariable env name pos steps none m = (.ok v, m') := by
  have hlookup := lookup_apply (m := m.spent 1) h plain pos
  have hfind : Run.find? name (m.spent 1) = (.ok (some ⟨name, d, false⟩), m.spent 1) := by
    rw [Run.find?, bind_apply_of_ok read_apply, Machine.scope_spent, h]
    rfl
  have hassign : Run.assignVariable name d m' = (.ok (), m') := by
    rw [← hscope] at h
    rw [assignVariable_apply h plain, replaceIn_self h]
  have hon : Run.onVariable name d (walk env none steps) (m.spent 1) = (.ok (v, changed), m') := by
    rw [Run.onVariable, hwalk]
    simp only [hassign]
  rw [walkVariable, bind_apply_of_ok (tick_unlimited free pos m), bind_apply_of_ok hlookup,
    bind_apply_of_ok hfind]
  show Attempt.bind (Run.onVariable name d (walkHeld env (some d) none steps)) _ (m.spent 1) = _
  rw [walkHeld_of_plain plain]
  exact bind_apply_of_ok hon

theorem lift_apply_of {α : Type} {x : Run α} {m m' : Machine} {o : Outcome Signal α} (d : Datum)
    (h : x m = (o, m')) : RunOn.lift x (m, d) = (o, m', d) := by
  rw [RunOn.lift, h]

theorem callBuiltin_replies {env : Env} {name : String} {self : Datum} {args : List Datum}
    {pos : Position} {run : Run Reply} {reply : Reply} {m m' m'' : Machine}
    (htick : Run.tick env pos m = (.ok (), m')) (h : builtin? env name pos self args = some run)
    (hrun : run m' = (.ok reply, m''))
    (hsize : Run.checkSize env reply.value pos m'' = (.ok (), m'')) :
    callBuiltin env name args pos (m, self) = (.ok reply.value, m'', reply.self) := by
  have hself : RunOn.self (m', self) = (.ok self, m', self) := rfl
  have hreply : RunOn.lift (Run.locating pos run) (m', self) = (.ok reply, m'', self) :=
    lift_apply_of self (mapError_apply_of _ hrun)
  have hset : RunOn.setSelf reply.self (m'', self) = (.ok (), m'', reply.self) := rfl
  rw [callBuiltin, bind_apply_of_ok (lift_apply_of self htick), bind_apply_of_ok hself, h]
  simp only
  rw [bind_apply_of_ok hreply, bind_apply_of_ok hset,
    bind_apply_of_ok (lift_apply_of reply.self hsize)]
  rfl

section Methods

variable {env : Env} (free : env.Unlimited)
include free

theorem callBuiltin_of_run {name : String} {self : Datum} {args : List Datum} {pos : Position}
    {run : Run Reply} {reply : Reply} {m m' : Machine}
    (h : builtin? env name pos self args = some run) (hrun : run (m.spent 1) = (.ok reply, m')) :
    callBuiltin env name args pos (m, self) = (.ok reply.value, m', reply.self) :=
  callBuiltin_replies (tick_unlimited free pos m) h hrun (checkSize_unlimited free _ _ _)

theorem callBuiltin_plain {name : String} {self self' v : Datum} {args : List Datum}
    (h : plainBuiltin? name self args = some (.ok ⟨v, self'⟩)) (pos : Position) (m : Machine) :
    callBuiltin env name args pos (m, self) = (.ok v, m.spent 1, self') := by
  have hbuiltin : builtin? env name pos self args = some (Run.ofComputed (.ok ⟨v, self'⟩)) := by
    simp [builtin?, basicBuiltin?, h]
  exact callBuiltin_of_run free hbuiltin rfl

theorem callBuiltin_put (h : CollectorHandle) (a b : Datum) (pos : Position) (m : Machine) :
    callBuiltin env "put_values" [a, b] pos (m, .collector h) =
      (.ok .unit, { m.spent 1 with collectors := m.collectors.put h [a.toValue, b.toValue] },
        .collector h) := by
  have hbuiltin : builtin? env "put_values" pos (.collector h) [a, b] =
      some (emit h [a, b] >>= fun _ => pure ⟨.unit, .collector h⟩) := rfl
  have hemit : emit h [a, b] (m.spent 1) =
      (.ok (), { m.spent 1 with collectors := m.collectors.put h [a.toValue, b.toValue] }) := rfl
  exact callBuiltin_of_run free hbuiltin (bind_apply_of_ok hemit)

end Methods

theorem callMethod_builtin {env : Env} {name : String} {self : Datum} {args : List Datum}
    (hname : name ∉ languageMethods) (hown : ownFunction? self name = none)
    (hscript : env.script.function? name args.length = none) (pos : Position) (m : Machine) :
    callMethod env name args pos (m, self) =
      (callBuiltin env name args pos >>= fun d => pure (d, true)) (m, self) := by
  simp only [languageMethods, List.mem_cons, List.not_mem_nil, or_false, not_or] at hname
  obtain ⟨hcall, hcurry, htype, hshared⟩ := hname
  have hself : RunOn.self (m, self) = (.ok self, m, self) := rfl
  rw [callMethod, bind_apply_of_ok hself]
  split
  · exact absurd rfl hcall
  · exact absurd rfl hcall
  · exact absurd rfl hcurry
  · exact absurd rfl htype
  · exact absurd rfl hshared
  · simp only [callOwnMethod, hown, hscript]

theorem callMethod_apply {env : Env} {name : String} {self : Datum} {args : List Datum}
    (hname : name ∉ languageMethods) (hown : ownFunction? self name = none)
    (hscript : env.script.function? name args.length = none) {v self' : Datum} {m m' : Machine}
    {pos : Position} (h : callBuiltin env name args pos (m, self) = (.ok v, m', self')) :
    callMethod env name args pos (m, self) = (.ok (v, true), m', self') := by
  rw [callMethod_builtin hname hown hscript, bind_apply_of_ok h]
  rfl

theorem walk_method {env : Env} {name : String} {self self' v : Datum} {args : List Datum}
    {changed : Bool} {m m' : Machine} {pos opPos : Position}
    (h : callMethod env name args pos (m, self) = (.ok (v, changed), m', self')) :
    walk env none [.method name args false pos opPos] (m, self) = (.ok (v, changed), m', self') := by
  have hself : RunOn.self (m, self) = (.ok self, m, self) := rfl
  rw [walk, bind_apply_of_ok hself]
  exact mapError_apply_of _ h

theorem walk_method_more {env : Env} {name : String} {self self' v d : Datum} {args : List Datum}
    {changed changed' : Bool} {m m' m'' : Machine} {pos opPos : Position} {steps : List Step}
    (h : callMethod env name args pos (m, self) = (.ok (v, changed), m', self'))
    (hne : steps ≠ []) {part : Datum}
    (hmore : walk env none steps (m', v) = (.ok (d, changed'), m'', part)) :
    walk env none (.method name args false pos opPos :: steps) (m, self) =
      (.ok (d, changed'), m'', self') := by
  have hself : RunOn.self (m, self) = (.ok self, m, self) := rfl
  have hcopy : RunOn.onCopy v (walk env none steps) (m', self') =
      (.ok ((d, changed'), part), m'', self') := by
    rw [RunOn.onCopy, hmore]
    rfl
  rw [walk, bind_apply_of_ok hself]
  cases steps with
  | nil => exact absurd rfl hne
  | cons step rest =>
    refine mapError_apply_of _ (o := .ok (d, changed')) ?_
    simp only
    rw [bind_apply_of_ok h]
    simp only
    rw [bind_apply_of_ok hcopy]
    rfl

theorem walk_index {env : Env} {self arg v : Datum} {m m' : Machine} {argPos opPos : Position}
    (h : getIndexed env self arg argPos opPos m = (.ok v, m')) :
    walk env none [.index arg false argPos opPos] (m, self) = (.ok (v, false), m', self) := by
  have hself : RunOn.self (m, self) = (.ok self, m, self) := rfl
  rw [walk, bind_apply_of_ok hself]
  refine mapError_apply_of _ (o := .ok (v, false)) ?_
  simp only
  rw [bind_apply_of_ok (lift_apply_of self h)]
  rfl

theorem getIndexed_record {env : Env} (free : env.Unlimited) (r : ValueMap) (name : String)
    (argPos opPos : Position) (m : Machine) :
    getIndexed env (.record r) (.string name) argPos opPos m =
      (.ok (Record.get r name), m.spent 2) := by
  rw [getIndexed, bind_apply_of_ok (tick_unlimited free opPos m)]
  rw [bind_apply_of_ok (tick_unlimited free opPos _), Machine.spent_spent]
  rfl

theorem evalAll_cons {env : Env} {e : Expr} {rest : List Expr} {d : Datum} {ds : List Datum}
    {m m' m'' : Machine} (h : counted env e.pos (eval env e) m = (.ok d, m'))
    (hrest : evalAll env rest m' = (.ok ds, m'')) :
    evalAll env (e :: rest) m = (.ok (d :: ds), m'') := by
  rw [evalAll, bind_apply_of_ok h]
  exact bind_apply_of_ok hrest

section Links

variable {env : Env} (free : env.Unlimited)
include free

theorem evalLinks_method {n : String} {args : List Expr} {ds : List Datum} {rest : List Link}
    {steps : List Step} {p q : Position} {m m' m'' : Machine}
    (h : evalAll env args (m.spent 1) = (.ok ds, m'))
    (hrest : evalLinks env false rest m' = (.ok steps, m'')) :
    evalLinks env false (.method n args false p q :: rest) m =
      (.ok (.method n ds false p q :: steps), m'') := by
  have hlink : evalLink env false (.method n args false p q) (m.spent 1) =
      (.ok (.method n ds false p q), m') := by
    rw [evalLink, bind_apply_of_ok h]
    rfl
  rw [evalLinks]
  show Attempt.bind (Run.tick env q) _ m = _
  rw [Attempt.bind, tick_unlimited free]
  exact (bind_apply_of_ok hlink).trans (bind_apply_of_ok hrest)

theorem evalLinks_index {arg : Expr} {d : Datum} {rest : List Link} {steps : List Step}
    {q : Position} {m m' m'' : Machine}
    (h : counted env arg.pos (eval env arg) (m.spent 1) = (.ok d, m'))
    (hrest : evalLinks env false rest m' = (.ok steps, m'')) :
    evalLinks env false (.index arg false q :: rest) m =
      (.ok (.index d false arg.startPos q :: steps), m'') := by
  have hlink : evalLink env false (.index arg false q) (m.spent 1) =
      (.ok (.index d false arg.startPos q), m') := by
    rw [evalLink]
    exact bind_apply_of_ok h
  rw [evalLinks]
  show Attempt.bind (Run.tick env q) _ m = _
  rw [Attempt.bind, tick_unlimited free]
  exact (bind_apply_of_ok hlink).trans (bind_apply_of_ok hrest)

theorem addPiece_unlimited (acc : String) (d : Datum) (pos : Position) (m : Machine) :
    ∃ n, addPiece env acc d pos m = (.ok (acc ++ d.printText), m.spent n) := by
  have hsize (n : Nat) : (Run.checkSize env (.string (acc ++ d.printText)) pos >>= fun _ =>
      pure (acc ++ d.printText)) (m.spent n) = (.ok (acc ++ d.printText), m.spent n) :=
    bind_apply_of_ok (checkSize_unlimited free _ _ _)
  unfold addPiece
  split
  · exact ⟨0, hsize 0⟩
  · exact ⟨1, (bind_apply_of_ok (tick_unlimited free pos m)).trans (hsize 1)⟩

theorem evalPieces_unlimited {es : List Expr} {ds : List Datum} {m : Machine}
    (h : List.Forall₂ (fun e d => ∀ n, ∃ k, counted env e.pos (eval env e) (m.spent n) =
      (.ok d, m.spent k)) es ds) (acc : String) (n : Nat) :
    ∃ k, evalPieces env acc es (m.spent n) =
      (.ok (ds.foldl (fun acc d => acc ++ d.printText) acc), m.spent k) := by
  induction h generalizing acc n with
  | nil => exact ⟨n, rfl⟩
  | @cons e d es ds hfirst _ ih =>
    obtain ⟨i, hvalue⟩ := hfirst n
    obtain ⟨j, hpiece⟩ := addPiece_unlimited free acc d e.pos (m.spent i)
    rw [Machine.spent_spent] at hpiece
    obtain ⟨k, hrest⟩ := ih (acc ++ d.printText) (i + j)
    refine ⟨k, ?_⟩
    rw [evalPieces, bind_apply_of_ok hvalue, bind_apply_of_ok hpiece, hrest, List.foldl_cons]

end Links

theorem eval_chain {env : Env} {name : String} {pos : Position} {links : List Link}
    {steps : List Step} {m m' : Machine}
    (h : evalLinks env (isDirect links) links m = (.ok steps, m')) :
    eval env (.chain (.var name pos) links) m = walkVariable env name pos steps none m' := by
  rw [eval]
  exact bind_apply_of_ok h

theorem inBlock_apply {x : Run Datum} {o : Outcome Signal Datum} {m m' : Machine} (h : x m = (o, m')) :
    Run.inBlock x m = (o, Run.dropTo m.scope.length m') := by
  rw [Run.inBlock, h]

@[simp] theorem dropTo_spent (m : Machine) (n : Nat) :
    Run.dropTo m.scope.length (m.spent n) = m.spent n := by
  rw [Run.dropTo, Machine.scope_spent, Nat.sub_self]
  rfl

theorem eachRun_next {round : Nat → Datum → Run (Option Datum)} {i : Nat} {x : Datum} {m m' : Machine}
    (h : round i x m = (.ok none, m')) (xs : List Datum) :
    eachRun round i (x :: xs) m = eachRun round (i + 1) xs m' := by
  simp only [eachRun, h]

theorem eachRun_error {round : Nat → Datum → Run (Option Datum)} {i : Nat} {x : Datum}
    {m m' : Machine} {s : Signal} (h : round i x m = (.error s, m')) (xs : List Datum) :
    eachRun round i (x :: xs) m = (.error s, m') := by
  simp only [eachRun, h]

theorem run_cond {env : Env} {test : Expr} {b : Bool} {m m' : Machine}
    (h : counted env test.pos (eval env test) m = (.ok (.bool b), m')) (yes no : List Stmt)
    (pos : Position) :
    run env (.cond test yes no pos) m = Run.inBlock (runAll env (if b then yes else no)) m' := by
  have htest : asTest (.bool b) test.pos m' = (.ok b, m') := rfl
  rw [run, bind_apply_of_ok h, bind_apply_of_ok htest]
  cases b <;> rfl

theorem run_give {env : Env} {e : Expr} {d : Datum} {m m' : Machine}
    (h : counted env e.pos (eval env e) m = (.ok d, m')) (pos : Position) :
    run env (.give (some e) pos) m = (.error (.give d), m') := by
  have hvalue : evalIf env (some e) m = (.ok d, m') := by rw [evalIf, h]
  rw [run, bind_apply_of_ok hvalue]
  rfl

/-- A loop over the items of an array. -/
theorem run_each {env : Env} {items : Expr} {xs : List Datum} {m m' : Machine}
    (h : counted env items.pos (eval env items) m = (.ok (.array xs), m')) (name : String)
    (body : List Stmt) (pos : Position) :
    run env (.each name none items body pos) m =
      Run.inBlock (fun m => eachRun (itemRound env name none pos (Run.inBlock (runAll env body))) 0 xs
        { m with scope := ⟨name, .unit, false⟩ :: m.scope }) m' := by
  rw [run]
  exact bind_apply_of_ok h

theorem itemRound_apply {env : Env} (free : env.Unlimited) {name : String} {old : Datum}
    {scope : List Variable} {m : Machine} (h : m.scope = ⟨name, old, false⟩ :: scope)
    (plain : ∀ i, old ≠ .cell i) (pos : Position) (body : Run Datum) (i : Nat) (item : Datum) :
    itemRound env name none pos body i item m =
      loopBody body ({ m with scope := ⟨name, item, false⟩ :: scope }.spent 1) := by
  have hfind : m.scope.find? (·.name == name) = some ⟨name, old, false⟩ := by simp [h]
  have hassign : Run.assignVariable name item m =
      (.ok (), { m with scope := ⟨name, item, false⟩ :: scope }) := by
    rw [assignVariable_apply hfind plain, h]
    simp [Run.replaceIn]
  rw [itemRound]
  show Attempt.bind (Run.assignVariable name item) _ m = _
  rw [Attempt.bind, hassign]
  exact bind_apply_of_ok (tick_unlimited free pos _)

/-! ### Calls by a host -/

theorem script_env (u : ScriptUnit) : u.env.script = u.script := by
  unfold CompiledScript.env Program.env
  cases u.limits.maxCallLevels.toNat <;> rfl

theorem unlimited_env (script : Program) : (ScriptUnit.mk script {}).env.Unlimited := by
  unfold CompiledScript.env Program.env
  cases (ScriptUnit.mk script {}).limits.maxCallLevels.toNat <;> exact ⟨rfl, rfl, rfl⟩

theorem runFunction_gives {env : Env} {f : Function} {args : List Datum} {m after : Machine}
    {receiver : Option Datum} {o : Outcome Signal Datum} {d : Datum}
    (hrun : runAll env f.body { m with
      scope := ((f.params.zip args).map fun (name, value) => { name, value : Variable }).reverse
      receiver } = (o, after)) (hgives : o = .ok d ∨ o = .error (.give d)) :
    runFunction env f args (m, receiver) =
      (.ok d, { after with scope := m.scope, receiver := m.receiver }, after.receiver) := by
  simp only [runFunction, hrun]
  rcases hgives with rfl | rfl <;> rfl

variable {σ : Type}

/-- A call whose function gives a value. -/
theorem runEntry_gives (access : Access) {entry : EntryPoint} {args : List Arg}
    {i : ScriptInstance} {f : Function} {s : Scene σ} {o : Outcome Signal Datum} {d : Datum}
    {m : Machine} (found : i.compiled.script.function? entry.name args.length = some f)
    (hrun : runAll i.compiled.env f.body (.entering s f args i) = (o, m))
    (hgives : o = .ok d ∨ o = .error (.give d)) :
    runEntry access entry args i s =
      (.ok d.toValue, i.behind access (m.receiver.getD i.receiver) m.cells, m.store s) := by
  have ran : runFunction i.compiled.env f (args.map argDatum)
      (.calling s i.cells, some i.receiver) = _ :=
    runFunction_gives (m := .calling s i.cells) hrun hgives
  rw [runEntry_eq access found, ran]
  rfl

end RowScript.Script
