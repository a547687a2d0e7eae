import RowScript.Engine.Basic

/-!
# An engine that follows a plan

The n-th call of an entry name behaves as the n-th act of a plan says, later calls as its last act.
Such an engine shows a host every way in which a script can behave, without a script.
-/

namespace RowScript

/-- How a planned call ends. -/
inductive Ending
  | returns (v : Value)
  | fails (detail : String)
  | timesOut (limit : Duration)
  | aborts
  deriving Inhabited

/-- How a planned call behaves: it gives back its arguments, or it emits rows and then ends. -/
inductive Act
  | echo
  | play (emit : List (List Value)) (ending : Ending)
  deriving Inhabited

namespace Act

/-- The value map among the arguments. -/
def values? (args : List Arg) : Option ValueMap :=
  args.findSome? fun
    | .values m => some m
    | .collector _ => none

/-- The collector among the arguments. -/
def collector? (args : List Arg) : Option CollectorHandle :=
  args.findSome? fun
    | .collector h => some h
    | .values _ => none

/-- Put rows into the collector, if there is one. -/
def emitRows (args : List Arg) (rows : List (List Value)) (cs : Collectors) : Collectors :=
  match collector? args with
  | some h => rows.foldl (fun cs row => cs.put h row) cs
  | none => cs

/-- Give back the value map: as rows of name and value through a collector, else as the result. -/
def echoed (args : List Arg) : List (List Value) × Value :=
  match values? args, collector? args with
  | some m, some _ => (m.map fun p => [.string p.1, p.2], .null)
  | some m, none => ([], .object m)
  | none, _ => ([], .null)

/-- Run an act. -/
def run (entry : EntryPoint) (args : List Arg) (cs : Collectors) :
    Act → Outcome ScriptError Value × Collectors
  | echo => (.ok (echoed args).2, emitRows args (echoed args).1 cs)
  | play emit ending =>
    (match ending with
      | .returns v => .ok v
      | .fails detail => .error (.invocation entry.name detail)
      | .timesOut limit => .error (.timeout entry.name limit)
      | .aborts => .aborted,
    emitRows args emit cs)

end Act

/-- The compile error of a source that starts with `!`, which is not accepted. -/
def refuseSource (source : String) : Outcome ScriptError Unit :=
  if source.startsWith "!" then .error (.compilation s!"unexpected token in '{source}'") else .ok ()

/-- The example that planned engines have for a kind. -/
def plannedExample? : Kind → Option String
  | .simple => none
  | .standard | .advanced => some "default"

/-- What an engine does in each step. -/
structure Plan where
  /-- The entry points that every unit defines. -/
  entries : List EntryPoint := [.transform]
  /-- Instances cannot be made, for this reason. -/
  refusal : Option String := none
  /-- The acts of the calls, by name of the entry. -/
  acts : Entries (List Act) := []
  /-- There are examples for the kinds that have hooks. -/
  examples : Bool := true
  deriving Inhabited

/-- The act of the call of `name` that comes after `before` others. -/
def Plan.act (p : Plan) (name : String) (before : Nat) : Act :=
  let acts := (p.acts.get? name).getD []
  (acts[before]?).getD ((acts.getLast?).getD .echo)

/-- How often each entry name was called so far. -/
abbrev CallCounts := Entries Nat

/-- The engine of a plan. An instance counts the calls that entered it alone. -/
def Plan.engine (p : Plan) : Engine CallCounts Unit Nat where
  example? kind := if p.examples then plannedExample? kind else none
  compileUnit source := .ofOutcome (refuseSource source)
  defines _ entry := .ok (p.entries.contains entry)
  makeInstance _ :=
    match p.refusal with
    | some detail => .fail (.instantiation detail)
    | none => .ofOutcome (.ok 0)
  runEntry access entry args alone w :=
    let before := (w.engine.get? entry.name).getD 0
    let (o, collectors) := (p.act entry.name before).run entry args w.collectors
    (o, if access = .exclusive then alone + 1 else alone,
      { w with collectors, engine := w.engine.insert entry.name (before + 1) })

end RowScript
