import Mathlib
import RowScript.Proofs.Columns
import RowScript.Proofs.Provenance
import RowScript.Proofs.Unlimited
import RowScript.Run.Script

/-!
# What the example scripts do

The examples are read once and for all: `lex_simple` and its like give the tokens of a source, and
`ofSource?_example` the program of each kind. What a program computes follows its statements. One round
of a loop over the columns is run first (`round_emitColumn`, `round_greetByName`), the loop by induction
over the names (`each_emitColumn`, `each_greetByName`), and then the whole function for a record of any
width (`run_simple`, `run_standard`, `run_advanced`). Instances of the examples are called with that
(`simple_gives`, `standard_gives`, `advanced_gives`).
-/

namespace RowScript.Script

open Attempt

/-! ### Reading the examples -/

theorem lex_ofList (limit : Option Nat) (cs : List Char) :
    lex limit (String.ofList cs) =
      Lexer.tokens limit (2 * (Located.ofChars 1 1 cs).length + 2) [] (Located.ofChars 1 1 cs) [] := by
  unfold lex Located.ofString
  rw [String.toList_ofList]

def simpleTokens : List (Token × Position) :=
  [(.keyword "fn", ⟨2, 1⟩), (.name "transform", ⟨2, 4⟩), (.symbol "(", ⟨2, 13⟩),
    (.name "map", ⟨2, 14⟩), (.symbol ")", ⟨2, 17⟩), (.symbol "\x7b", ⟨2, 19⟩),
    (.keyword "for", ⟨3, 5⟩), (.name "key", ⟨3, 9⟩), (.keyword "in", ⟨3, 13⟩),
    (.name "map", ⟨3, 16⟩), (.symbol ".", ⟨3, 19⟩), (.name "keys", ⟨3, 20⟩), (.symbol "(", ⟨3, 24⟩),
    (.symbol ")", ⟨3, 25⟩), (.symbol "\x7b", ⟨3, 27⟩), (.keyword "if", ⟨4, 9⟩),
    (.name "key", ⟨4, 12⟩), (.symbol ".", ⟨4, 15⟩), (.name "to_upper", ⟨4, 16⟩),
    (.symbol "(", ⟨4, 24⟩), (.symbol ")", ⟨4, 25⟩), (.symbol ".", ⟨4, 26⟩),
    (.name "contains", ⟨4, 27⟩), (.symbol "(", ⟨4, 35⟩), (.string "NAME", ⟨4, 36⟩),
    (.symbol ")", ⟨4, 42⟩), (.symbol "\x7b", ⟨4, 44⟩), (.keyword "return", ⟨5, 13⟩),
    (.piece "Hello ", ⟨5, 20⟩), (.symbol "\x7b", ⟨5, 28⟩), (.name "map", ⟨5, 29⟩),
    (.symbol "[", ⟨5, 32⟩), (.name "key", ⟨5, 33⟩), (.symbol "]", ⟨5, 36⟩),
    (.symbol "\x7d", ⟨5, 37⟩), (.string "", ⟨5, 38⟩), (.symbol ";", ⟨5, 39⟩),
    (.symbol "\x7d", ⟨6, 9⟩), (.symbol "\x7d", ⟨7, 5⟩), (.string "Hello", ⟨8, 5⟩),
    (.symbol "\x7d", ⟨9, 1⟩)]

def standardTokens : List (Token × Position) :=
  [(.keyword "fn", ⟨2, 1⟩), (.name "initialize", ⟨2, 4⟩), (.symbol "(", ⟨2, 14⟩),
    (.symbol ")", ⟨2, 15⟩), (.symbol "\x7b", ⟨2, 17⟩), (.keyword "this", ⟨3, 5⟩),
    (.symbol ".", ⟨3, 9⟩), (.name "records", ⟨3, 10⟩), (.symbol "=", ⟨3, 18⟩), (.int 0, ⟨3, 20⟩),
    (.symbol ";", ⟨3, 21⟩), (.symbol "\x7d", ⟨4, 1⟩), (.keyword "fn", ⟨7, 1⟩),
    (.name "transform", ⟨7, 4⟩), (.symbol "(", ⟨7, 13⟩), (.name "map", ⟨7, 14⟩),
    (.symbol ")", ⟨7, 17⟩), (.symbol "\x7b", ⟨7, 19⟩), (.name "map", ⟨8, 5⟩), (.symbol ".", ⟨8, 8⟩),
    (.name "to_string", ⟨8, 9⟩), (.symbol "(", ⟨8, 18⟩), (.symbol ")", ⟨8, 19⟩),
    (.symbol "\x7d", ⟨9, 1⟩), (.keyword "fn", ⟨12, 1⟩), (.name "close", ⟨12, 4⟩),
    (.symbol "(", ⟨12, 9⟩), (.symbol ")", ⟨12, 10⟩), (.symbol "\x7b", ⟨12, 12⟩),
    (.symbol "\x7d", ⟨13, 1⟩)]

def advancedTokens : List (Token × Position) :=
  [(.keyword "fn", ⟨1, 1⟩), (.name "initialize", ⟨1, 4⟩), (.symbol "(", ⟨1, 14⟩),
    (.symbol ")", ⟨1, 15⟩), (.symbol "\x7b", ⟨1, 17⟩), (.symbol "\x7d", ⟨2, 1⟩),
    (.keyword "fn", ⟨5, 1⟩), (.name "transform", ⟨5, 4⟩), (.symbol "(", ⟨5, 13⟩),
    (.name "map", ⟨5, 14⟩), (.symbol ",", ⟨5, 17⟩), (.name "output", ⟨5, 19⟩),
    (.symbol ")", ⟨5, 25⟩), (.symbol "\x7b", ⟨5, 27⟩), (.keyword "for", ⟨6, 5⟩),
    (.name "key", ⟨6, 9⟩), (.keyword "in", ⟨6, 13⟩), (.name "map", ⟨6, 16⟩), (.symbol ".", ⟨6, 19⟩),
    (.name "keys", ⟨6, 20⟩), (.symbol "(", ⟨6, 24⟩), (.symbol ")", ⟨6, 25⟩),
    (.symbol "\x7b", ⟨6, 27⟩), (.name "output", ⟨7, 9⟩), (.symbol ".", ⟨7, 15⟩),
    (.name "put_values", ⟨7, 16⟩), (.symbol "(", ⟨7, 26⟩), (.name "key", ⟨7, 27⟩),
    (.symbol ",", ⟨7, 30⟩), (.name "map", ⟨7, 32⟩), (.symbol "[", ⟨7, 35⟩), (.name "key", ⟨7, 36⟩),
    (.symbol "]", ⟨7, 39⟩), (.symbol ")", ⟨7, 40⟩), (.symbol ";", ⟨7, 41⟩),
    (.symbol "\x7d", ⟨8, 5⟩), (.symbol "\x7d", ⟨9, 1⟩), (.keyword "fn", ⟨11, 1⟩),
    (.name "close", ⟨11, 4⟩), (.symbol "(", ⟨11, 9⟩), (.symbol ")", ⟨11, 10⟩),
    (.symbol "\x7b", ⟨11, 12⟩), (.symbol "\x7d", ⟨12, 1⟩)]

set_option maxRecDepth 4000 in
theorem lex_simple : lex none simpleExample = .ok simpleTokens := by
  rw [simpleExample, lex_ofList]
  rfl

set_option maxRecDepth 4000 in
theorem lex_standard : lex none standardExample = .ok standardTokens := by
  rw [standardExample, lex_ofList]
  rfl

set_option maxRecDepth 4000 in
theorem lex_advanced : lex none advancedExample = .ok advancedTokens := by
  rw [advancedExample, lex_ofList]
  rfl

/-- `map.keys()` -/
def columnKeys (line : Nat) : Expr :=
  .chain (.var "map" ⟨line, 16⟩) [.method "keys" [] false ⟨line, 20⟩ ⟨line, 19⟩]

/-- The value of the column of this round, inside a text. -/
def columnValue : Expr :=
  .block [.expr (.chain (.var "map" ⟨5, 29⟩) [.index (.var "key" ⟨5, 33⟩) false ⟨5, 32⟩])] ⟨5, 28⟩

/-- The parts of the greeting. -/
def greetingParts : List Expr :=
  [.lit (.string "Hello ") ⟨5, 20⟩, columnValue, .lit (.string "") ⟨5, 38⟩]

/-- Greet by the column of this round if there is a name in its name. -/
def greetByName : Stmt :=
  .cond
    (.chain (.var "key" ⟨4, 12⟩) [.method "to_upper" [] false ⟨4, 16⟩ ⟨4, 15⟩,
      .method "contains" [.lit (.string "NAME") ⟨4, 36⟩] false ⟨4, 27⟩ ⟨4, 26⟩])
    [.give (some (.interp greetingParts ⟨5, 20⟩)) ⟨5, 13⟩]
    [] ⟨4, 9⟩

/-- Emit a row of name and value for the column of this round. -/
def emitColumn : Stmt :=
  .expr (.chain (.var "output" ⟨7, 9⟩) [.method "put_values" [.var "key" ⟨7, 27⟩,
    .chain (.var "map" ⟨7, 32⟩) [.index (.var "key" ⟨7, 36⟩) false ⟨7, 35⟩]]
    false ⟨7, 16⟩ ⟨7, 15⟩])

def simpleTransform : List Stmt :=
  [.each "key" none (columnKeys 3) [greetByName] ⟨3, 5⟩, .expr (.lit (.string "Hello") ⟨8, 5⟩)]

def standardTransform : List Stmt :=
  [.expr (.chain (.var "map" ⟨8, 5⟩) [.method "to_string" [] false ⟨8, 9⟩ ⟨8, 8⟩])]

def standardOpening : List Stmt :=
  [.assign none (.chain (.receiver ⟨3, 5⟩) [.property "records" false ⟨3, 10⟩ ⟨3, 9⟩])
    (.lit (.int 0) ⟨3, 20⟩) ⟨3, 18⟩]

def advancedTransform : List Stmt :=
  [.each "key" none (columnKeys 6) [emitColumn] ⟨6, 5⟩]

/-- What the example for a kind reads as. -/
def exampleProgram : Kind → Program
  | .simple => ⟨[⟨"transform", ["map"], simpleTransform⟩], []⟩
  | .standard =>
    ⟨[⟨"initialize", [], standardOpening⟩, ⟨"transform", ["map"], standardTransform⟩,
      ⟨"close", [], []⟩], []⟩
  | .advanced =>
    ⟨[⟨"initialize", [], []⟩, ⟨"transform", ["map", "output"], advancedTransform⟩,
      ⟨"close", [], []⟩], []⟩

set_option maxRecDepth 4000 in
theorem ofSource?_example (kind : Kind) :
    Program.ofSource? {} (exampleScript kind) = .ok (exampleProgram kind) := by
  unfold Program.ofSource?
  cases kind with
  | simple =>
    show (lex none simpleExample >>= _) = _
    rw [lex_simple]
    cbv
  | standard =>
    show (lex none standardExample >>= _) = _
    rw [lex_standard]
    rfl
  | advanced =>
    show (lex none advancedExample >>= _) = _
    rw [lex_advanced]
    rfl

/-! ### Looking for a name -/

theorem isSome_afterPrefix? (part cs : List Char) :
    (afterPrefix? part cs).isSome = decide (part <+: cs) := by
  fun_induction afterPrefix? part cs with
  | case1 cs => simp
  | case2 => simp
  | case3 s part c cs heq ih =>
    obtain rfl : s = c := by simpa using heq
    simp [List.cons_prefix_cons, ih]
  | case4 s part c cs hne =>
    have hne' : s ≠ c := by simpa using hne
    simp [List.cons_prefix_cons, hne']

theorem isSome_findFrom (part : List Char) (i : Nat) (cs : List Char) :
    (findFrom part i cs).isSome = decide (part <:+: cs) := by
  induction cs generalizing i with
  | nil => cases part <;> simp [findFrom]
  | cons c cs ih =>
    have hhere := isSome_afterPrefix? part (c :: cs)
    rw [findFrom]
    split
    · next hstarts =>
      rw [hstarts] at hhere
      simp [List.infix_cons_iff, of_decide_eq_true hhere.symm]
    · next hstarts =>
      rw [Bool.not_eq_true] at hstarts
      rw [hstarts] at hhere
      simp [ih, List.infix_cons_iff, of_decide_eq_false hhere.symm]

/-- There is a name in the name of a column. -/
def mentionsName (k : String) : Bool := "NAME".toList <:+: (toUpperCase k).toList

/-! ### What the examples compute -/

section Examples

variable {env : Env} (free : env.Unlimited)
include free

theorem eval_columnKeys (hscript : env.script.function? "keys" 0 = none) {r : ValueMap} {m : Machine}
    (h : m.scope.find? (·.name == "map") = some ⟨"map", .record r, false⟩) (line : Nat) :
    counted env (columnKeys line).pos (eval env (columnKeys line)) m =
      (.ok (.array ((Entries.keys r).map .string)), m.spent 3) := by
  have hbuiltin : callBuiltin env "keys" [] ⟨line, 20⟩ ((m.spent 1).spent 1, .record r) =
      (.ok (.array ((Entries.keys r).map .string)), ((m.spent 1).spent 1).spent 1, .record r) :=
    callBuiltin_plain free rfl _ _
  have hwalk : walk env none [.method "keys" [] false ⟨line, 20⟩ ⟨line, 19⟩]
      ((m.spent 1).spent 1, .record r) = _ :=
    walk_method (callMethod_apply (by decide) rfl hscript hbuiltin)
  have hlinks : evalLinks env true [.method "keys" [] false ⟨line, 20⟩ ⟨line, 19⟩] (m.spent 1) =
      (.ok [.method "keys" [] false ⟨line, 20⟩ ⟨line, 19⟩], m.spent 1) := rfl
  rw [counted_unlimited free, columnKeys, eval_chain hlinks,
    walkVariable_apply free (m := m.spent 1) h (by simp) hwalk rfl, Machine.spent_spent,
    Machine.spent_spent]

theorem eval_column {r : ValueMap} {k : String} {m : Machine}
    (hmap : m.scope.find? (·.name == "map") = some ⟨"map", .record r, false⟩)
    (hkey : m.scope.find? (·.name == "key") = some ⟨"key", .string k, false⟩)
    (p q s : Position) :
    eval env (.chain (.var "map" p) [.index (.var "key" q) false s]) m =
      (.ok (Record.get r k), m.spent 5) := by
  have hname : counted env q (eval env (.var "key" q)) (m.spent 1) = (.ok (.string k), m.spent 2) := by
    rw [counted_unlimited free, eval, Machine.spent_spent]
    exact lookup_apply (m := m.spent 2) hkey (by simp) q
  have hlinks : evalLinks env false [.index (.var "key" q) false s] m =
      (.ok [.index (.string k) false q s], m.spent 2) := evalLinks_index free hname rfl
  have hwalk : walk env none [.index (.string k) false q s] ((m.spent 2).spent 1, .record r) = _ :=
    walk_index (getIndexed_record free r k q s _)
  rw [eval_chain hlinks, walkVariable_apply free (m := m.spent 2) hmap (by simp) hwalk rfl,
    Machine.spent_spent, Machine.spent_spent]

theorem run_emitColumn (hscript : env.script.function? "put_values" 2 = none) {r : ValueMap}
    {k : String} {h : CollectorHandle} {m : Machine}
    (hscope : m.scope = [⟨"key", .string k, false⟩, ⟨"output", .collector h, false⟩,
      ⟨"map", .record r, false⟩]) :
    run env emitColumn m = (.ok .unit, { m.spent 11 with
      collectors := m.collectors.put h [.string k, (Record.get r k).toValue] }) := by
  have hkey : m.scope.find? (·.name == "key") = some ⟨"key", .string k, false⟩ := by simp [hscope]
  have hmap : m.scope.find? (·.name == "map") = some ⟨"map", .record r, false⟩ := by simp [hscope]
  have houtput : m.scope.find? (·.name == "output") = some ⟨"output", .collector h, false⟩ := by
    simp [hscope]
  have hargs : evalAll env [.var "key" ⟨7, 27⟩,
      .chain (.var "map" ⟨7, 32⟩) [.index (.var "key" ⟨7, 36⟩) false ⟨7, 35⟩]] (m.spent 2) =
        (.ok [.string k, Record.get r k], m.spent 9) := by
    refine evalAll_cons (?_ : _ = (_, m.spent 3)) (evalAll_cons (?_ : _ = (_, m.spent 9)) rfl)
    · rw [counted_unlimited free, eval, Machine.spent_spent]
      exact lookup_apply (m := m.spent 3) hkey (by simp) _
    · rw [counted_unlimited free, Machine.spent_spent, eval_column free (m := m.spent 4) hmap hkey,
        Machine.spent_spent]
  have hlinks : evalLinks env false [.method "put_values" [.var "key" ⟨7, 27⟩,
      .chain (.var "map" ⟨7, 32⟩) [.index (.var "key" ⟨7, 36⟩) false ⟨7, 35⟩]]
      false ⟨7, 16⟩ ⟨7, 15⟩] (m.spent 1) = _ := evalLinks_method free hargs rfl
  have hcall := callMethod_apply (by decide) rfl hscript
    (callBuiltin_put free h (.string k) (Record.get r k) ⟨7, 16⟩ ((m.spent 9).spent 1))
  have hwalk : walkVariable env "output" ⟨7, 9⟩
      [.method "put_values" [.string k, Record.get r k] false ⟨7, 16⟩ ⟨7, 15⟩] none (m.spent 9) = _ :=
    walkVariable_apply free (m := m.spent 9) houtput (by simp) (walk_method hcall) rfl ⟨7, 9⟩
  show counted env _ (eval env _) m = _
  rw [counted_unlimited free, eval_chain hlinks, hwalk]
  rfl

theorem round_emitColumn (hscript : env.script.function? "put_values" 2 = none) {r : ValueMap}
    {h : CollectorHandle} {m : Machine} {old : Datum} (plain : ∀ i, old ≠ .cell i)
    (hscope : m.scope = [⟨"key", old, false⟩, ⟨"output", .collector h, false⟩,
      ⟨"map", .record r, false⟩]) (pos : Position) (i : Nat) (k : String) :
    ∃ m', itemRound env "key" none pos (Run.inBlock (runAll env [emitColumn])) i (.string k) m =
        (.ok none, m') ∧
      m'.scope = [⟨"key", .string k, false⟩, ⟨"output", .collector h, false⟩,
        ⟨"map", .record r, false⟩] ∧
      m'.collectors = m.collectors.put h [.string k, (Record.get r k).toValue] := by
  rw [itemRound_apply free hscope plain, loopBody, Run.inBlock, runAll_one free,
    run_emitColumn free hscript rfl]
  exact ⟨_, rfl, rfl, rfl⟩

theorem each_emitColumn (hscript : env.script.function? "put_values" 2 = none) {r : ValueMap}
    {h : CollectorHandle} (p : Position) (names : List String) (i : Nat) (m : Machine) {old : Datum}
    (plain : ∀ i, old ≠ .cell i) (hscope : m.scope = [⟨"key", old, false⟩,
      ⟨"output", .collector h, false⟩, ⟨"map", .record r, false⟩]) :
    ∃ m', eachRun (itemRound env "key" none p (Run.inBlock (runAll env [emitColumn]))) i
        (names.map .string) m = (.ok .unit, m') ∧
      m'.collectors =
        m.collectors.putAll (names.map fun k => (h, [.string k, (Record.get r k).toValue])) := by
  induction names generalizing i m old with
  | nil => exact ⟨m, rfl, rfl⟩
  | cons k rest ih =>
    obtain ⟨m₁, hround, hscope₁, hput⟩ := round_emitColumn free hscript plain hscope p i k
    obtain ⟨m₂, hrest, hputs⟩ := ih (i + 1) m₁ (by simp) hscope₁
    refine ⟨m₂, ?_, ?_⟩
    · rw [List.map_cons, eachRun_next hround, hrest]
    · rw [hputs, hput]
      rfl

/-- The advanced example emits a row for each column, and gives nothing back. -/
theorem run_advanced (hkeys : env.script.function? "keys" 0 = none)
    (hput : env.script.function? "put_values" 2 = none) {r : ValueMap} {h : CollectorHandle}
    {m : Machine} (hscope : m.scope = [⟨"output", .collector h, false⟩, ⟨"map", .record r, false⟩]) :
    ∃ m', runAll env advancedTransform m = (.ok .unit, m') ∧
      m'.collectors = m.collectors.putAll
        ((Entries.keys r).map fun k => (h, [.string k, (Record.get r k).toValue])) := by
  have hmap : (m.spent 1).scope.find? (·.name == "map") = some ⟨"map", .record r, false⟩ := by
    simp [hscope]
  let start : Machine := { (m.spent 1).spent 3 with scope := ⟨"key", .unit, false⟩ :: m.scope }
  have hstart : start.scope = [⟨"key", .unit, false⟩, ⟨"output", .collector h, false⟩,
      ⟨"map", .record r, false⟩] := congrArg _ hscope
  obtain ⟨m', hrun, hputs⟩ :=
    each_emitColumn free hput ⟨6, 5⟩ (Entries.keys r) 0 start (by simp) hstart
  refine ⟨Run.dropTo m.scope.length m', ?_, hputs⟩
  rw [advancedTransform, runAll_one free, run_each (eval_columnKeys free hkeys hmap 6)]
  exact inBlock_apply hrun

theorem eval_mentionsName (hupper : env.script.function? "to_upper" 0 = none)
    (hcontains : env.script.function? "contains" 1 = none) {k : String} {m : Machine}
    (hkey : m.scope.find? (·.name == "key") = some ⟨"key", .string k, false⟩) :
    eval env (.chain (.var "key" ⟨4, 12⟩) [.method "to_upper" [] false ⟨4, 16⟩ ⟨4, 15⟩,
      .method "contains" [.lit (.string "NAME") ⟨4, 36⟩] false ⟨4, 27⟩ ⟨4, 26⟩]) m =
      (.ok (.bool (mentionsName k)), m.spent 6) := by
  have hpart : evalAll env [.lit (.string "NAME") ⟨4, 36⟩] (m.spent 2) =
      (.ok [.string "NAME"], m.spent 3) := by
    refine evalAll_cons ?_ rfl
    rw [counted_unlimited free]
    rfl
  have hlinks : evalLinks env false [.method "to_upper" [] false ⟨4, 16⟩ ⟨4, 15⟩,
      .method "contains" [.lit (.string "NAME") ⟨4, 36⟩] false ⟨4, 27⟩ ⟨4, 26⟩] m = _ :=
    evalLinks_method free (show _ = (_, m.spent 1) from rfl) (evalLinks_method free hpart rfl)
  have hbig : callBuiltin env "to_upper" [] ⟨4, 16⟩ ((m.spent 3).spent 1, .string k) =
      (.ok (.string (toUpperCase k)), ((m.spent 3).spent 1).spent 1, .string k) :=
    callBuiltin_plain free rfl _ _
  have hfound : callBuiltin env "contains" [.string "NAME"] ⟨4, 27⟩
      (((m.spent 3).spent 1).spent 1, .string (toUpperCase k)) =
      (.ok (.bool (mentionsName k)), (((m.spent 3).spent 1).spent 1).spent 1,
        .string (toUpperCase k)) := by
    rw [mentionsName, ← isSome_findFrom _ 0]
    exact callBuiltin_plain free rfl _ _
  have hwalk : walk env none [.method "to_upper" [] false ⟨4, 16⟩ ⟨4, 15⟩,
      .method "contains" [.string "NAME"] false ⟨4, 27⟩ ⟨4, 26⟩] ((m.spent 3).spent 1, .string k) = _ :=
    walk_method_more (callMethod_apply (by decide) rfl hupper hbig) (by simp)
      (walk_method (callMethod_apply (by decide) rfl hcontains hfound))
  rw [eval_chain hlinks, walkVariable_apply free (m := m.spent 3) hkey (by simp) hwalk rfl]
  rfl

/-- The greeting by the value of a column. -/
def greeting (r : ValueMap) (k : String) : String := "Hello " ++ (Record.get r k).printText

omit free in
theorem greeting_eq (r : ValueMap) (k : String) :
    [.string "Hello ", Record.get r k, .string ""].foldl (fun acc d => acc ++ Datum.printText d) "" =
      greeting r k := by
  simp [greeting, Datum.printText, Datum.outerText]

theorem evalPieces_greeting {r : ValueMap} {k : String} {m : Machine}
    (hmap : m.scope.find? (·.name == "map") = some ⟨"map", .record r, false⟩)
    (hkey : m.scope.find? (·.name == "key") = some ⟨"key", .string k, false⟩) :
    ∃ n, evalPieces env "" greetingParts m = (.ok (greeting r k), m.spent n) := by
  have hlit (s : String) (p : Position) (n : Nat) :
      ∃ k, counted env (Expr.lit (.string s) p).pos (eval env (.lit (.string s) p)) (m.spent n) =
        (.ok (.string s), m.spent k) := by
    refine ⟨n + 1, ?_⟩
    rw [counted_unlimited free, Machine.spent_spent, eval]
    rfl
  have hvalue (n : Nat) : ∃ k', counted env columnValue.pos (eval env columnValue) (m.spent n) =
      (.ok (Record.get r k), m.spent k') := by
    refine ⟨n + 8, ?_⟩
    have hrun : runAll env [.expr (.chain (.var "map" ⟨5, 29⟩)
        [.index (.var "key" ⟨5, 33⟩) false ⟨5, 32⟩])] (m.spent (n + 1)) =
          (.ok (Record.get r k), m.spent (n + 8)) := by
      rw [runAll_one free, run]
      show counted env _ (eval env _) _ = _
      rw [counted_unlimited free, Machine.spent_spent, Machine.spent_spent,
        eval_column free (m := m.spent (n + 3)) hmap hkey, Machine.spent_spent]
    rw [counted_unlimited free, Machine.spent_spent, columnValue, eval, inBlock_apply hrun,
      Machine.scope_spent, dropTo_spent]
  obtain ⟨n, htext⟩ := evalPieces_unlimited free (m := m)
    (.cons (hlit "Hello " ⟨5, 20⟩) (.cons hvalue (.cons (hlit "" ⟨5, 38⟩) .nil))) "" 0
  exact ⟨n, htext.trans (by rw [greeting_eq])⟩

theorem run_greetByName (hupper : env.script.function? "to_upper" 0 = none)
    (hcontains : env.script.function? "contains" 1 = none) {r : ValueMap} {k : String} {m : Machine}
    (hscope : m.scope = [⟨"key", .string k, false⟩, ⟨"map", .record r, false⟩]) :
    ∃ n, run env greetByName m =
      (if mentionsName k then .error (.give (.string (greeting r k))) else .ok .unit, m.spent n) := by
  have hkey : m.scope.find? (·.name == "key") = some ⟨"key", .string k, false⟩ := by simp [hscope]
  have hmap : m.scope.find? (·.name == "map") = some ⟨"map", .record r, false⟩ := by simp [hscope]
  have htest (e : Expr) (h : eval env e (m.spent 1) = (.ok (.bool (mentionsName k)), m.spent 7)) :
      counted env e.pos (eval env e) m = (.ok (.bool (mentionsName k)), m.spent 7) := by
    rw [counted_unlimited free, h]
  obtain ⟨n, hgive⟩ : ∃ n, runAll env [.give (some (.interp greetingParts ⟨5, 20⟩)) ⟨5, 13⟩]
      (m.spent 7) = (.error (.give (.string (greeting r k))), m.spent n) := by
    obtain ⟨n, hparts⟩ := evalPieces_greeting free (m := m.spent 9) hmap hkey
    refine ⟨9 + n, ?_⟩
    rw [runAll_one free]
    refine run_give ?_ _
    rw [counted_unlimited free, eval, ← Machine.spent_spent m 9 n]
    exact bind_apply_of_ok hparts
  rw [greetByName, run_cond (htest _ (eval_mentionsName free (m := m.spent 1) hupper hcontains hkey))]
  cases mentionsName k with
  | true => exact ⟨n, (inBlock_apply hgive).trans (by simp)⟩
  | false => exact ⟨7, (inBlock_apply (show _ = (_, m.spent 7) from rfl)).trans (by simp)⟩

theorem round_greetByName (hupper : env.script.function? "to_upper" 0 = none)
    (hcontains : env.script.function? "contains" 1 = none) {r : ValueMap} {m : Machine} {old : Datum}
    (plain : ∀ i, old ≠ .cell i)
    (hscope : m.scope = [⟨"key", old, false⟩, ⟨"map", .record r, false⟩]) (p : Position) (i : Nat)
    (k : String) :
    ∃ m', itemRound env "key" none p (Run.inBlock (runAll env [greetByName])) i (.string k) m =
        (if mentionsName k then .error (.give (.string (greeting r k))) else .ok none, m') ∧
      m'.scope = [⟨"key", .string k, false⟩, ⟨"map", .record r, false⟩] ∧
      m'.collectors = m.collectors := by
  let inRound : Machine :=
    { m with scope := [⟨"key", .string k, false⟩, ⟨"map", .record r, false⟩] }
  obtain ⟨n, hgreet⟩ :=
    run_greetByName free hupper hcontains (r := r) (k := k) (m := inRound.spent 2) rfl
  have hbody := inBlock_apply ((runAll_one free greetByName (inRound.spent 1)).trans hgreet)
  rw [Machine.spent_spent, Machine.scope_spent, dropTo_spent] at hbody
  rw [itemRound_apply free hscope plain, loopBody, hbody]
  cases mentionsName k with
  | true => exact ⟨_, rfl, rfl, rfl⟩
  | false => exact ⟨_, rfl, rfl, rfl⟩

/-- The loop ends the function with the greeting of the first column with a name in its name. -/
theorem each_greetByName (hupper : env.script.function? "to_upper" 0 = none)
    (hcontains : env.script.function? "contains" 1 = none) {r : ValueMap} (p : Position)
    (names : List String) (i : Nat) (m : Machine) {old : Datum} (plain : ∀ i, old ≠ .cell i)
    (hscope : m.scope = [⟨"key", old, false⟩, ⟨"map", .record r, false⟩]) :
    ∃ m', eachRun (itemRound env "key" none p (Run.inBlock (runAll env [greetByName]))) i
        (names.map .string) m = (match names.find? mentionsName with
          | some k => .error (.give (.string (greeting r k)))
          | none => .ok .unit, m') ∧
      m'.collectors = m.collectors := by
  induction names generalizing i m old with
  | nil => exact ⟨m, rfl, rfl⟩
  | cons k rest ih =>
    obtain ⟨m₁, hround, hscope₁, hkept₁⟩ :=
      round_greetByName free hupper hcontains plain hscope p i k
    cases hname : mentionsName k with
    | true =>
      rw [hname] at hround
      refine ⟨m₁, ?_, hkept₁⟩
      rw [List.map_cons, eachRun_error hround, List.find?_cons_of_pos hname]
    | false =>
      rw [hname] at hround
      obtain ⟨m₂, hrest, hkept₂⟩ := ih (i + 1) m₁ (by simp) hscope₁
      refine ⟨m₂, ?_, hkept₂.trans hkept₁⟩
      rw [List.map_cons, eachRun_next hround, hrest, List.find?_cons_of_neg (by simp [hname])]

/-- The simple example greets by the first column with a name in its name. -/
theorem run_simple (hkeys : env.script.function? "keys" 0 = none)
    (hupper : env.script.function? "to_upper" 0 = none)
    (hcontains : env.script.function? "contains" 1 = none) {r : ValueMap} {m : Machine}
    (hscope : m.scope = [⟨"map", .record r, false⟩]) :
    ∃ m', runAll env simpleTransform m = (match (Entries.keys r).find? mentionsName with
        | some k => .error (.give (.string (greeting r k)))
        | none => .ok (.string "Hello"), m') ∧
      m'.collectors = m.collectors := by
  have hmap : (m.spent 1).scope.find? (·.name == "map") = some ⟨"map", .record r, false⟩ := by
    simp [hscope]
  let start : Machine := { (m.spent 1).spent 3 with scope := ⟨"key", .unit, false⟩ :: m.scope }
  have hstart : start.scope = [⟨"key", .unit, false⟩, ⟨"map", .record r, false⟩] :=
    congrArg _ hscope
  obtain ⟨m', hrun, hkept⟩ :=
    each_greetByName free hupper hcontains ⟨3, 5⟩ (Entries.keys r) 0 start (by simp) hstart
  have hloop := (counted_unlimited free ⟨3, 5⟩
      (run env (.each "key" none (columnKeys 3) [greetByName] ⟨3, 5⟩)) m).trans
    ((run_each (eval_columnKeys free hkeys hmap 3) "key" [greetByName] ⟨3, 5⟩).trans
      (inBlock_apply hrun))
  rw [simpleTransform, runAll.eq_3 _ _ _ (by simp)]
  cases hfind : (Entries.keys r).find? mentionsName with
  | some k =>
    rw [hfind] at hloop
    exact ⟨_, bind_apply_of_error hloop, hkept⟩
  | none =>
    rw [hfind] at hloop
    refine ⟨(Run.dropTo m.scope.length m').spent 2, (bind_apply_of_ok hloop).trans ?_, hkept⟩
    rw [runAll_one free, run]
    show counted env _ (eval env _) _ = _
    rw [counted_unlimited free, eval]
    rfl

/-- The standard example gives the text of the record. -/
theorem run_standard (hstring : env.script.function? "to_string" 0 = none) {r : ValueMap}
    {m : Machine} (hscope : m.scope = [⟨"map", .record r, false⟩]) :
    ∃ m', runAll env standardTransform m = (.ok (.string r.text), m') ∧
      m'.collectors = m.collectors := by
  have hmap : m.scope.find? (·.name == "map") = some ⟨"map", .record r, false⟩ := by
    simp [hscope]
  have hbuiltin : callBuiltin env "to_string" [] ⟨8, 9⟩ ((m.spent 2).spent 1, .record r) =
      (.ok (.string r.text), ((m.spent 2).spent 1).spent 1, .record r) :=
    callBuiltin_plain free rfl _ _
  have hwalk : walk env none [.method "to_string" [] false ⟨8, 9⟩ ⟨8, 8⟩]
      ((m.spent 2).spent 1, .record r) = _ :=
    walk_method (callMethod_apply (by decide) rfl hstring hbuiltin)
  have hlinks : evalLinks env true [.method "to_string" [] false ⟨8, 9⟩ ⟨8, 8⟩] (m.spent 2) =
      (.ok [.method "to_string" [] false ⟨8, 9⟩ ⟨8, 8⟩], m.spent 2) := rfl
  have hvalue := walkVariable_apply free (m := m.spent 2) hmap (by simp) hwalk rfl ⟨8, 5⟩
  rw [standardTransform, runAll_one free, run]
  show ∃ m', counted env _ (eval env _) _ = _ ∧ _
  rw [counted_unlimited free, Machine.spent_spent, eval_chain hlinks, hvalue]
  exact ⟨_, rfl, rfl⟩

end Examples

/-! ### Calls of the examples -/

section Calls

variable {σ : Type} {i : ScriptInstance} (access : Access) (s : Scene σ)

theorem absent_example (kind : Kind) {name : String} {arity : Nat}
    (h : (exampleProgram kind).function? name arity = none) :
    (ScriptUnit.mk (exampleProgram kind) {}).env.script.function? name arity = none := by
  rw [script_env]
  exact h

theorem simple_gives (h : i.compiled = ⟨exampleProgram .simple, {}⟩) (r : ValueMap) :
    (runEntry access .transform [.values r] i s).1 =
      .ok (.string (((Entries.keys r).find? mentionsName).elim "Hello" (greeting r))) := by
  obtain ⟨compiled, receiver, cells⟩ := i
  cases h
  have found : (exampleProgram .simple).function? EntryPoint.transform.name [Arg.values r].length =
      some ⟨"transform", ["map"], simpleTransform⟩ := rfl
  obtain ⟨m, hrun, -⟩ := run_simple (unlimited_env _) (absent_example .simple (by decide))
    (absent_example .simple (by decide)) (absent_example .simple (by decide))
    (m := .entering s ⟨"transform", ["map"], simpleTransform⟩ [.values r]
      ⟨⟨exampleProgram .simple, {}⟩, receiver, cells⟩) rfl
  cases hfind : (Entries.keys r).find? mentionsName with
  | none =>
    rw [hfind] at hrun
    rw [runEntry_gives access found hrun (.inl rfl)]
    rfl
  | some k =>
    rw [hfind] at hrun
    rw [runEntry_gives access found hrun (.inr rfl)]
    rfl

theorem standard_gives (h : i.compiled = ⟨exampleProgram .standard, {}⟩) (r : ValueMap) :
    (runEntry access .transform [.values r] i s).1 = .ok (.string r.text) := by
  obtain ⟨compiled, receiver, cells⟩ := i
  cases h
  have found : (exampleProgram .standard).function? EntryPoint.transform.name
      [Arg.values r].length = some ⟨"transform", ["map"], standardTransform⟩ := rfl
  obtain ⟨m, hrun, -⟩ := run_standard (unlimited_env _) (absent_example .standard (by decide))
    (m := .entering s ⟨"transform", ["map"], standardTransform⟩ [.values r]
      ⟨⟨exampleProgram .standard, {}⟩, receiver, cells⟩) rfl
  rw [runEntry_gives access found hrun (.inl rfl)]
  rfl

theorem advanced_gives (h : i.compiled = ⟨exampleProgram .advanced, {}⟩) (r : ValueMap)
    (handle : CollectorHandle) :
    ∃ i' scene, runEntry access .transformCollecting [.values r, .collector handle] i s =
        (.ok .null, i', scene) ∧
      scene.collectors = s.collectors.putAll
        ((Entries.keys r).map fun k => (handle, [.string k, (Record.get r k).toValue])) := by
  obtain ⟨compiled, receiver, cells⟩ := i
  cases h
  have found : (exampleProgram .advanced).function? EntryPoint.transformCollecting.name
      [Arg.values r, .collector handle].length =
        some ⟨"transform", ["map", "output"], advancedTransform⟩ := rfl
  obtain ⟨m, hrun, hputs⟩ := run_advanced (unlimited_env _)
    (absent_example .advanced (by decide)) (absent_example .advanced (by decide))
    (m := .entering s ⟨"transform", ["map", "output"], advancedTransform⟩
      [.values r, .collector handle] ⟨⟨exampleProgram .advanced, {}⟩, receiver, cells⟩) rfl
  have hgives : runEntry access .transformCollecting [.values r, .collector handle]
      ⟨⟨exampleProgram .advanced, {}⟩, receiver, cells⟩ s = (.ok Datum.unit.toValue, _, m.store s) :=
    runEntry_gives access found hrun (.inl rfl)
  exact ⟨_, _, hgives, hputs⟩

theorem closing_gives {kind : Kind} (hkind : kind ≠ .simple)
    (h : i.compiled = ⟨exampleProgram kind, {}⟩) :
    (runEntry access .closing [] i s).1 = .ok .null := by
  obtain ⟨compiled, receiver, cells⟩ := i
  cases h
  have found : (exampleProgram kind).function? EntryPoint.closing.name ([] : List Arg).length =
      some ⟨"close", [], []⟩ := by
    cases kind with
    | simple => exact absurd rfl hkind
    | standard => rfl
    | advanced => rfl
  rw [runEntry_gives access found rfl (.inl rfl)]
  rfl

theorem opening_gives (kind : Kind) (hkind : kind ≠ .simple) :
    (runEntry access .opening [] { compiled := ⟨exampleProgram kind, {}⟩ } s).1 = .ok .null := by
  cases kind with
  | simple => exact absurd rfl hkind
  | standard => rfl
  | advanced => rfl

end Calls

end RowScript.Script
