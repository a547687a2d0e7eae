import RowScript.Error
import RowScript.Log
import RowScript.Output

/-!
# Policies

How concurrent callers enter a script, and what becomes of a row whose width is not the declared one.
-/

namespace RowScript

/-- How callers enter a script: all at once, or one after the other. -/
inductive ExecutionPolicy
  | reentrant
  | exclusive
  deriving Repr, DecidableEq, Inhabited

namespace ExecutionPolicy

def id : ExecutionPolicy → String
  | reentrant => "reentrant"
  | exclusive => "exclusive"

/-- The policy that the flag `concurrent` asks for. -/
def ofConcurrent (concurrent : Bool) : ExecutionPolicy :=
  if concurrent then reentrant else exclusive

end ExecutionPolicy

/-- What becomes of an emitted row of another width than declared: it is kept, it fails the record,
or it is padded or cut. -/
inductive ShapePolicy
  | unchecked
  | reject
  | fit
  deriving Repr, DecidableEq, Inhabited

namespace ShapePolicy

def all : List ShapePolicy := [unchecked, reject, fit]

def id : ShapePolicy → String
  | unchecked => "unchecked"
  | reject => "reject"
  | fit => "fit"

def ofId? (s : String) : Option ShapePolicy := all.find? (·.id == s)

/-- Apply the policy to one row. -/
def apply (p : ShapePolicy) (width : Nat) (row : OutputRow) : Except HostError OutputRow :=
  if row.length == width then .ok row
  else
    match p with
    | unchecked => .ok row
    | reject => .error (.shapeMismatch width row.length)
    | fit => .ok (fitRow width row)

/-- What is logged when the policy is applied to one row. -/
def warnings (p : ShapePolicy) (width : Nat) (row : OutputRow) : List LogEvent :=
  if p == fit && row.length != width then
    [⟨.warn, "fitting output row to declared shape",
      [("expected", toString width), ("actual", toString row.length)]⟩]
  else []

/-- Apply the policy to rows in order, up to the first that fails. -/
def applyAll (p : ShapePolicy) (width : Nat) : List OutputRow → Except HostError (List OutputRow)
  | [] => .ok []
  | row :: rest =>
    match p.apply width row with
    | .error e => .error e
    | .ok row => (p.applyAll width rest).map (row :: ·)

/-- What the policy makes of a row that it lets pass. -/
def shaped (p : ShapePolicy) (width : Nat) (row : OutputRow) : OutputRow :=
  match p with
  | fit => fitRow width row
  | unchecked | reject => row

/-- The first of the rows that the policy does not let pass. -/
def refused? (p : ShapePolicy) (width : Nat) (rows : List OutputRow) : Option OutputRow :=
  match p with
  | reject => rows.find? (·.length != width)
  | unchecked | fit => none

theorem shaped_of_length {width : Nat} {row : OutputRow} (p : ShapePolicy)
    (h : row.length = width) : p.shaped width row = row := by
  cases p
  · rfl
  · rfl
  · exact fitRow_of_length h

theorem apply_of_length {width : Nat} {row : OutputRow} (p : ShapePolicy)
    (h : row.length = width) : p.apply width row = .ok row := by
  simp [apply, h]

/-- The policy fails at the first row that it does not let pass, and else shapes them all. -/
theorem applyAll_eq (p : ShapePolicy) (width : Nat) (rows : List OutputRow) :
    p.applyAll width rows =
      match p.refused? width rows with
      | some row => .error (.shapeMismatch width row.length)
      | none => .ok (rows.map (p.shaped width)) := by
  induction rows with
  | nil => cases p <;> rfl
  | cons row rest ih =>
    by_cases h : row.length = width
    · have hpass : p.refused? width (row :: rest) = p.refused? width rest := by
        cases p <;> simp [refused?, h]
      rw [applyAll, apply_of_length p h, hpass, List.map_cons, shaped_of_length p h]
      simp only [ih]
      cases p.refused? width rest <;> rfl
    · cases p with
      | reject => simp [applyAll, apply, refused?, h]
      | unchecked => simp [applyAll, apply, refused?, h, ih, shaped, Except.map]
      | fit => simp [applyAll, apply, refused?, h, ih, shaped, Except.map]

end ShapePolicy

end RowScript
