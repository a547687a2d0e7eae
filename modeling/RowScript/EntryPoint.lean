/-!
# Entry points

The functions of a script that a host calls, each by name and count of arguments.
-/

namespace RowScript

structure EntryPoint where
  name : String
  arity : Nat
  deriving Repr, DecidableEq, Inhabited

namespace EntryPoint

/-- Called once after a script is loaded, if defined. -/
def opening : EntryPoint := ⟨"initialize", 0⟩

/-- Called once before a script is released, if defined. -/
def closing : EntryPoint := ⟨"close", 0⟩

/-- Called per record with the value map; gives the single output value. -/
def transform : EntryPoint := ⟨"transform", 1⟩

/-- Called per record with the value map and a collector, through which it emits rows. -/
def transformCollecting : EntryPoint := ⟨"transform", 2⟩

end EntryPoint

end RowScript
