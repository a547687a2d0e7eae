import RowScript.Text.Utf8

/-!
# Splitting CSV into fields

`records` takes a text apart into records of fields.

* Fields end at a comma, records at a line feed or a carriage return; lines without anything are
  no records.
* A field that begins with a quote goes on to the next single quote, and two quotes in it stand for
  one. What follows the closing quote belongs to the field as it is.
* An open quote goes on to the end of the text.
* A mark of the byte order at the beginning is no part of the text.
-/

namespace RowScript.Csv

/-- A place in a text. -/
structure Place where
  /-- One more than the count of line feeds before it. -/
  line : Nat := 1
  /-- The count of bytes before it. -/
  byte : Nat := 0
  deriving Repr, DecidableEq, Inhabited

def Place.after (p : Place) (g : Glyph) : Place :=
  { line := if g == some '\n' then p.line + 1 else p.line, byte := p.byte + g.size }

/-- The fields of a record, and where the text of the record before ended. -/
structure RawRecord where
  start : Place
  fields : List (List Glyph)
  deriving Repr, DecidableEq, Inhabited

/-- Where a reader is. -/
inductive Mode
  /-- Before the first character of a record. -/
  | outside
  /-- After a comma. -/
  | fieldStart
  | plain
  | quoted
  /-- After a quote in a quoted field. -/
  | quoteSeen
  deriving Repr, DecidableEq, Inhabited

/-- A reader in the middle of a text. Fields and their characters are held last first. -/
structure Reader where
  mode : Mode := .outside
  field : List Glyph := []
  fields : List (List Glyph) := []
  /-- Where the record before ended. -/
  start : Place := {}
  here : Place := {}
  deriving Repr, DecidableEq, Inhabited

namespace Reader

def push (r : Reader) (g : Glyph) (mode : Mode) : Reader := { r with mode, field := g :: r.field }

def endField (r : Reader) : Reader :=
  { r with mode := .fieldStart, field := [], fields := r.field.reverse :: r.fields }

/-- The record that ends here. -/
def record (r : Reader) : RawRecord := ⟨r.start, r.endField.fields.reverse⟩

/-- Ready for the next record. -/
def endRecord (r : Reader) : Reader := { start := r.here, here := r.here }

def isNewline : Glyph → Bool
  | some '\n' | some '\r' => true
  | _ => false

/-- Read a character that no quote has made part of a field. -/
def stepPlain (r : Reader) (g : Glyph) : Reader × Option RawRecord :=
  if g == some ',' then (r.endField, none)
  else if isNewline g then (r.endRecord, some r.record)
  else (r.push g .plain, none)

/-- Read a character, which may end a record. -/
def step (r : Reader) (g : Glyph) : Reader × Option RawRecord :=
  let r := { r with here := r.here.after g }
  match r.mode with
  | .outside =>
    if isNewline g then (r, none)
    else if g == some '"' then ({ r with mode := .quoted }, none)
    else r.stepPlain g
  | .fieldStart =>
    if g == some '"' then ({ r with mode := .quoted }, none) else r.stepPlain g
  | .plain => r.stepPlain g
  | .quoted =>
    if g == some '"' then ({ r with mode := .quoteSeen }, none) else (r.push g .quoted, none)
  | .quoteSeen => if g == some '"' then (r.push g .quoted, none) else r.stepPlain g

/-- The records in the rest of a text. -/
def records (r : Reader) : List Glyph → List RawRecord
  | [] => if r.mode = .outside then [] else [r.record]
  | g :: rest =>
    match r.step g with
    | (r, none) => r.records rest
    | (r, some record) => record :: r.records rest

end Reader

/-- The mark of the byte order. -/
def byteOrderMark : Char := '\uFEFF'

/-- The records of a text. -/
def records (gs : List Glyph) : List RawRecord :=
  match gs with
  | some c :: rest =>
    if c = byteOrderMark then Reader.records { here := ({} : Place).after (some c) } rest
    else Reader.records {} gs
  | _ => Reader.records {} gs

end RowScript.Csv
