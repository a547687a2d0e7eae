import RowScript.Text.Utf8
import RowScript.Toml.Table

/-!
# Reading TOML

A text is a sequence of lines: a key with its value, or the header of the table that the next lines
belong to. `read?` puts the lines together.
-/

namespace RowScript.Toml

/-! ### Nested values -/

mutual

/-- A value at the front, with at most so many levels of brackets and braces. -/
def value? : Nat → Rest → Option (Document × Rest)
  | 0, cs => simple? cs
  | levels + 1, cs =>
    match cs with
    | '[' :: rest => (items? levels (rest.length + 1) rest).map fun (ds, rest) => (.list ds, rest)
    | '\x7b' :: rest =>
      match skipBlank rest with
      | '\x7d' :: rest => some (.table [], rest)
      | _ => (pairs? levels (rest.length + 1) [] rest).map fun (m, rest) =>
          (.table (membersOf m), rest)
    | cs => simple? cs
termination_by levels _ => (levels, 0)

/-- The items of a list up to its closing bracket, before which a comma can stand. -/
def items? (levels : Nat) : Nat → Rest → Option (List Document × Rest)
  | 0, _ => none
  | fuel + 1, cs =>
    match skipLines (cs.length + 1) cs with
    | ']' :: rest => some ([], rest)
    | cs => do
      let (d, rest) ← value? levels cs
      match skipLines (rest.length + 1) rest with
      | ',' :: rest =>
        let (ds, rest) ← items? levels fuel rest
        return (d :: ds, rest)
      | ']' :: rest => return ([d], rest)
      | _ => none
termination_by fuel _ => (levels, fuel + 1)

/-- The members of a table up to its closing brace. -/
def pairs? (levels : Nat) : Nat → Members → Rest → Option (Members × Rest)
  | 0, _, _ => none
  | fuel + 1, m, cs => do
    let (path, rest) ← key? cs
    match rest with
    | '=' :: rest =>
      let (d, rest) ← value? levels (skipBlank rest)
      let m ← m.addDotted? path (.value d)
      match skipBlank rest with
      | ',' :: rest => pairs? levels fuel m rest
      | '\x7d' :: rest => return (m, rest)
      | _ => none
    | _ => none
termination_by fuel _ _ => (levels, fuel + 1)

end

/-! ### Lines -/

/-- What has been read of a text. The table that lines are added to is put in its place when the next
one begins. -/
structure Reading where
  root : Members := []
  /-- Where the current table belongs. -/
  path : List String := []
  /-- It is one of several with the same header. -/
  repeated : Bool := false
  current : Members := []

namespace Reading

/-- Put the current table in its place. -/
def finish? (r : Reading) : Option Members :=
  match r.path.getLast? with
  | none => some r.current
  | some name =>
    let put (m : Members) : Option Members :=
      if r.repeated then
        match m.get? name with
        | some (.tables all) => some (m.set name (.tables (r.current :: all)))
        | none => some (m.set name (.tables [r.current]))
        | some _ => none
      else m.add? name (.table .explicit r.current)
    r.root.atPath? put r.path.dropLast

/-- Begin the table of a header. It may have begun on the way to another one, and goes on then. -/
def beginTable? (r : Reading) (path : List String) : Option Reading := do
  let root ← r.finish?
  let name ← path.getLast?
  let parent ← root.below? path.dropLast
  let current ← match parent.get? name with
    | none => some []
    | some (.table .implicit members) => some members
    | some _ => none
  let root ← root.atPath? (fun m => some (m.remove name)) path.dropLast
  return { root, path, current }

/-- Begin one more of the tables with a header. -/
def beginRepeated? (r : Reading) (path : List String) : Option Reading := do
  let root ← r.finish?
  let name ← path.getLast?
  let put (m : Members) : Option Members :=
    match m.get? name with
    | some (.tables _) => some m
    | none => some (m.set name (.tables []))
    | some _ => none
  let root ← root.atPath? put path.dropLast
  return { root, path, repeated := true }

def add? (r : Reading) (path : List String) (d : Document) : Option Reading :=
  (r.current.addDotted? path (.value d)).map fun current => { r with current }

end Reading

/-- The next line, after blanks and a comment at the end of this one. -/
def endOfLine? (cs : Rest) : Option Rest :=
  match skipComment (skipBlank cs) with
  | [] => some []
  | rest => newline? rest

/-- A header or a member at the front. -/
def nextLine? (r : Reading) : Rest → Option (Reading × Rest)
  | '[' :: '[' :: rest => do
    let (path, rest) ← key? rest
    match rest with
    | ']' :: ']' :: rest => return (← r.beginRepeated? path, ← endOfLine? rest)
    | _ => none
  | '[' :: rest => do
    let (path, rest) ← key? rest
    match rest with
    | ']' :: rest => return (← r.beginTable? path, ← endOfLine? rest)
    | _ => none
  | cs => do
    let (path, rest) ← key? cs
    match rest with
    | '=' :: rest =>
      let (d, rest) ← value? maxDepth (skipBlank rest)
      let rest ← endOfLine? rest
      return (← r.add? path d, rest)
    | _ => none

/-- All lines. -/
def read? : Nat → Reading → Rest → Option Document
  | 0, _, _ => none
  | fuel + 1, r, cs =>
    match skipLines (cs.length + 1) cs with
    | [] => r.finish?.map fun m => .table (membersOf m)
    | cs => do
      let (r, rest) ← nextLine? r cs
      read? fuel r rest

/-- A text as a document. A mark of the order of bytes can stand in front. -/
def ofGlyphs? (gs : List Glyph) : Option Document := do
  let cs ← wholeText? gs
  let cs := match cs with
    | '\ufeff' :: rest => rest
    | cs => cs
  read? (cs.length + 1) {} cs

end RowScript.Toml

namespace RowScript.Dialect

/-- At the outermost layer of a text in TOML. -/
def toml : Dialect where
  isUnit
    | .table [] | .list [] => true
    | _ => false
  ignoresExtraItems := true

end RowScript.Dialect
