import RowScript.Engine.Scripted

/-!
# An engine that counts

An engine whose calls all behave alike by entry name, and which counts what is done with it:
compilations, instances, calls, and how many calls were inside it at once.
-/

namespace RowScript

/-- What has been done with an engine. -/
structure EngineStats where
  compiles : Nat := 0
  instantiations : Nat := 0
  /-- The calls, last first, by name of the entry. -/
  calls : List String := []
  active : Nat := 0
  maxActive : Nat := 0
  deriving Repr, DecidableEq, Inhabited

namespace EngineStats

/-- How often an entry name was called. -/
def callsTo (s : EngineStats) (name : String) : Nat := s.calls.count name

/-- A call begins. -/
def enter (name : String) (s : EngineStats) : EngineStats :=
  let active := s.active + 1
  { s with active, maxActive := max s.maxActive active, calls := name :: s.calls }

/-- A call is over. -/
def leave (s : EngineStats) : EngineStats := { s with active := s.active - 1 }

end EngineStats

/-- The behaviour of a counting engine. -/
structure Counting where
  entries : List EntryPoint := [.transform]
  refusal : Option String := none
  /-- What the calls of an entry name do. -/
  act : String → Act := fun _ => .echo

/-- The engine with that behaviour. An instance counts the calls that entered it alone. -/
def Counting.engine (c : Counting) : Engine EngineStats Unit Nat where
  example? := plannedExample?
  compileUnit source := fun w =>
    (refuseSource source, { w with engine.compiles := w.engine.compiles + 1 })
  defines _ entry := .ok (c.entries.contains entry)
  makeInstance _ := fun w =>
    (match c.refusal with
      | some detail => .error (.instantiation detail)
      | none => .ok 0,
    { w with engine.instantiations := w.engine.instantiations + 1 })
  runEntry access entry args alone w :=
    let stats := w.engine.enter entry.name
    let (o, collectors) := (c.act entry.name).run entry args w.collectors
    (o, if access = .exclusive then alone + 1 else alone, { w with collectors, engine := stats.leave })

end RowScript
