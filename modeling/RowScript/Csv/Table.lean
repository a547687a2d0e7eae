import RowScript.Csv.Split

/-!
# CSV tables

A table is a header and records as wide as the header. `tableOf` reads one; it goes on behind a record
that is no part of a table, and it is the caller who stops there.
-/

namespace RowScript.Csv

/-- Why a record is no part of a table. Records are counted from the header, which has number zero. -/
inductive TableFault
  | width (number : Nat) (start : Place) (actual expected : Nat)
  | encoding (number : Nat) (start : Place) (field : Nat) (byte : Nat)
  deriving Repr, DecidableEq, Inhabited

def TableFault.message : TableFault → String
  | width number start actual expected =>
    s!"CSV error: record {number} (line: {start.line}, byte: {start.byte}): found record with " ++
      s!"{actual} fields, but the previous record has {expected} fields"
  | encoding number start field byte =>
    s!"CSV parse error: record {number} (line {start.line}, field: {field}, byte: {start.byte}): " ++
      s!"invalid utf-8: invalid UTF-8 in field {field} near byte index {byte}"

/-- The fields of a record from the one with number `i` on as texts. -/
def fieldTexts (number : Nat) (start : Place) (i : Nat) :
    List (List Glyph) → Except TableFault (List String)
  | [] => .ok []
  | field :: rest =>
    match wholeText? field with
    | some cs => (fieldTexts number start (i + 1) rest).map (String.ofList cs :: ·)
    | none => .error (.encoding number start i (bytesBeforeHole field))

/-- A record as texts. -/
def RawRecord.texts (r : RawRecord) (number : Nat) : Except TableFault (List String) :=
  fieldTexts number r.start 0 r.fields

/-- A record as texts, if it has the right width. -/
def RawRecord.cells (r : RawRecord) (width number : Nat) : Except TableFault (List String) :=
  if r.fields.length = width then r.texts number
  else .error (.width number r.start r.fields.length width)

/-- A header and what follows it. -/
structure Table where
  header : Except TableFault (List String)
  records : List (Except TableFault (List String))

/-- The records behind a header, numbered from one. -/
def cellsFrom (width : Nat) : Nat → List RawRecord → List (Except TableFault (List String))
  | _, [] => []
  | number, r :: rest => r.cells width number :: cellsFrom width (number + 1) rest

/-- The table in a text. A text without records has an empty header. -/
def tableOf (gs : List Glyph) : Table :=
  match records gs with
  | [] => ⟨.ok [], []⟩
  | header :: rest => ⟨header.texts 0, cellsFrom header.fields.length 1 rest⟩

end RowScript.Csv
