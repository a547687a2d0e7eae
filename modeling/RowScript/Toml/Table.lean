import RowScript.Toml.Value

/-!
# Tables of TOML under construction

A text in TOML may come back to a table that it has begun, but not to one that it has finished. So a
table remembers how it began: by a header, on the way to another table, or by a key with periods.
-/

namespace RowScript.Toml

/-- How a table began. -/
inductive Origin
  /-- With a header of its own. -/
  | explicit
  /-- On the way to the table of a header. -/
  | implicit
  /-- By a key with periods. -/
  | dotted
  deriving Repr, DecidableEq, Inhabited

inductive Item
  /-- A value that is complete, a table between braces among them. -/
  | value (d : Document)
  | table (origin : Origin) (members : List (String × Item))
  /-- Tables with one header each, the last one first. -/
  | tables (all : List (List (String × Item)))
  deriving Inhabited

abbrev Members := List (String × Item)

mutual

def Item.document : Item → Document
  | .value d => d
  | .table _ members => .table (membersOf members)
  | .tables all => .list (tablesOf all [])

def membersOf : List (String × Item) → List (Key × Document)
  | [] => []
  | (k, i) :: rest => (.name k, i.document) :: membersOf rest

/-- Tables in order, before those in `acc`. -/
def tablesOf : List (List (String × Item)) → List Document → List Document
  | [], acc => acc
  | t :: rest, acc => tablesOf rest (.table (membersOf t) :: acc)

end

namespace Members

def get? (m : Members) (name : String) : Option Item := m.lookup name

/-- Set a member: in place if it is there, else at the end. -/
def set (m : Members) (name : String) (i : Item) : Members := Entries.insert m name i

def remove (m : Members) (name : String) : Members := m.filter (·.1 != name)

/-- Add a member that is not there yet. -/
def add? (m : Members) (name : String) (i : Item) : Option Members :=
  if (m.get? name).isSome then none else some (m ++ [(name, i)])

/-- Add a value at the end of a path below a table. Every table on the path must have begun without a
header, and the last one by such a path. -/
def addDotted? : Members → List String → Item → Option Members
  | _, [], _ => none
  | m, [name], i => m.add? name i
  | m, name :: path, i =>
    let last := path.length == 1
    match m.get? name with
    | none => (addDotted? [] path i).map fun child => m.set name (.table .dotted child)
    | some (.table origin child) =>
      if origin == .explicit || (last && origin != .dotted) then none
      else (addDotted? child path i).map fun child => m.set name (.table origin child)
    | some (.tables (child :: others)) =>
      if last then none
      else (addDotted? child path i).map fun child => m.set name (.tables (child :: others))
    | some _ => none

/-- Change the table at the end of a path. Tables on the way that are not there begin, and of
tables with one header each the last one is meant. -/
def atPath? (f : Members → Option Members) : List String → Members → Option Members
  | [], m => f m
  | name :: path, m =>
    match m.get? name with
    | none => (atPath? f path []).map fun child => m.set name (.table .implicit child)
    | some (.table origin child) => (atPath? f path child).map fun child => m.set name (.table origin child)
    | some (.tables (child :: others)) =>
      (atPath? f path child).map fun child => m.set name (.tables (child :: others))
    | some _ => none

/-- What the table at the end of a path holds, as far as it has begun. -/
def below? : List String → Members → Option Members
  | [], m => some m
  | name :: path, m =>
    match m.get? name with
    | none => some []
    | some (.table _ child) => below? path child
    | some (.tables (child :: _)) => below? path child
    | some _ => none

end Members

end RowScript.Toml
