import RowScript.Decimal.Binary64
import RowScript.Decimal.Read
import RowScript.Document
import RowScript.Text.Utf8

/-!
# Reading JSON

`Tree.ofGlyphs?` reads a text by the grammar alone: numbers stay digits and strings stay pieces,
because a member that nobody asks for need not be a number that exists or a text that is well-formed.
`Tree.document?` then reads a tree whose nesting is limited.

* A number without places or exponent is an integer if 64 bits hold it.
* `NumberText.float?` is the quick reading of decimals: at most 64 bits of digits, scaled once by a
  power of ten. It can miss the nearest float by a little.
-/

namespace RowScript.Json

/-- A number as it is written. -/
structure NumberText where
  negative : Bool
  whole : List Char
  places : Option (List Char)
  /-- The sign and the digits of the exponent. -/
  exponent : Option (Bool × List Char)
  deriving Repr, DecidableEq

/-- A part of a string: a character, a code unit given by its number, or a byte of no character. -/
inductive Piece
  | char (c : Char)
  | unit (n : Nat)
  | hole
  deriving Repr, DecidableEq

inductive Tree
  | null
  | bool (b : Bool)
  | number (text : NumberText)
  | string (pieces : List Piece)
  | list (items : List Tree)
  | table (members : List (List Piece × Tree))

/-! ### Numbers -/

namespace NumberText

/-- Append digits as long as the result fits 64 bits; also says how many were appended. -/
def absorb : Nat → List Char → Nat × Nat
  | acc, [] => (acc, 0)
  | acc, c :: rest =>
    let next := acc * 10 + (digitValue? c).getD 0
    if next < Nat.pow 2 64 then
      let (total, count) := absorb next rest
      (total, count + 1)
    else (acc, 0)

/-- A power of ten, the nearest float to it. -/
def power (n : Nat) : Float := floatOfDecimal false 1 n

/-- Divide by ten so many times, in at most `fuel` steps. -/
def shrink : Nat → Float → Nat → Float
  | 0, x, _ => x
  | fuel + 1, x, n =>
    if n ≤ 308 then x / power n
    else if x == 0.0 then x
    else shrink fuel (x / power 308) (n - 308)

/-- `digits · 10 ^ exponent`, none if it is too large. -/
def scale? (digits : Nat) (exponent : Int) : Option Float :=
  let x := (UInt64.ofNat digits).toFloat
  if exponent < 0 then some (shrink 4 x exponent.natAbs)
  else if exponent ≤ 308 then
    let y := x * power exponent.natAbs
    if y.isInf then none else some y
  else if digits == 0 then some x
  else none

/-- The largest exponent that is read as a number. -/
def maxExponent : Nat := Nat.pow 2 31 - 1

/-- The float that a text stands for, none if it is out of range. -/
def float? (t : NumberText) : Option Float :=
  let (digits, used) := absorb 0 t.whole
  let beyond : Int := t.whole.length - used
  let (digits, scale) := match t.places with
    | none => (digits, beyond)
    | some places =>
      let (digits, used) := absorb digits places
      (digits, beyond - used)
  let magnitude? := match t.exponent with
    | none => scale? digits scale
    | some (negative, e) =>
      let n := Digits.value e
      if n > maxExponent then if digits == 0 || negative then some 0.0 else none
      else scale? digits (if negative then scale - n else scale + n)
  magnitude?.map fun x => if t.negative then -x else x

def document? (t : NumberText) : Option Document :=
  let n := Digits.value t.whole
  if t.places.isNone && t.exponent.isNone then
    if !t.negative && n < Nat.pow 2 64 then some (.int n)
    else if t.negative && 0 < n && n ≤ Nat.pow 2 63 then some (.int (-n))
    else t.float?.map .float
  else t.float?.map .float

end NumberText

/-! ### Strings -/

/-- Two halves of a character beyond the first plane. -/
def joinUnits (high low : Nat) : Char := Char.ofNat ((high - 0xD800) * 0x400 + (low - 0xDC00) + 0x10000)

/-- The text of a string, none if it is not well-formed. -/
def textOf? : List Piece → Option (List Char)
  | [] => some []
  | .char c :: rest => (textOf? rest).map (c :: ·)
  | .hole :: _ => none
  | .unit n :: rest =>
    if n < 0xD800 || 0xDFFF < n then (textOf? rest).map (Char.ofNat n :: ·)
    else if 0xDC00 ≤ n then none
    else match rest with
      | .unit low :: rest =>
        if 0xDC00 ≤ low ∧ low ≤ 0xDFFF then (textOf? rest).map (joinUnits n low :: ·) else none
      | _ => none

/-! ### Documents -/

namespace Tree

mutual

/-- The document that a tree stands for, with at most `levels` levels of lists and tables. -/
def document? (levels : Nat) : Tree → Option Document
  | null => some .null
  | bool b => some (.bool b)
  | number t => t.document?
  | string pieces => (textOf? pieces).map fun cs => .string (String.ofList cs)
  | list items =>
    if levels = 0 then none else (itemDocuments? (levels - 1) items).map .list
  | table members =>
    if levels = 0 then none else (memberDocuments? (levels - 1) members).map .table

def itemDocuments? (levels : Nat) : List Tree → Option (List Document)
  | [] => some []
  | t :: rest => do return (← t.document? levels) :: (← itemDocuments? levels rest)

def memberDocuments? (levels : Nat) : List (List Piece × Tree) → Option (List (Key × Document))
  | [] => some []
  | (pieces, t) :: rest => do
    let key := Key.name (String.ofList (← textOf? pieces))
    return (key, ← t.document? levels) :: (← memberDocuments? levels rest)

end

/-- The deepest nesting that is read. -/
def maxLevels : Nat := 127

/-- The outermost layer. All names must be well-formed. -/
def layer? : Tree → Option Layer
  | table members => do
    let read ← members.mapM fun (pieces, t) => do
      return (Key.name (String.ofList (← textOf? pieces)), t.document? (maxLevels - 1))
    return .table read
  | list items => some (.list (items.map (document? (maxLevels - 1))))
  | _ => some .simple

end Tree

/-! ### The grammar -/

def isBlank (g : Glyph) : Bool := g == some ' ' || g == some '\n' || g == some '\t' || g == some '\r'

def skipBlank (gs : List Glyph) : List Glyph := gs.dropWhile isBlank

def isDigit : Glyph → Bool
  | some c => (digitValue? c).isSome
  | none => false

/-- The digits at the front and the rest. -/
def digits (gs : List Glyph) : List Char × List Glyph :=
  ((gs.takeWhile isDigit).filterMap id, gs.dropWhile isDigit)

/-- At least one digit. -/
def someDigits? (gs : List Glyph) : Option (List Char × List Glyph) :=
  let (ds, rest) := digits gs
  if ds.isEmpty then none else some (ds, rest)

/-- Digits that begin with a zero only if that is all. -/
def whole? (gs : List Glyph) : Option (List Char × List Glyph) := do
  let (ds, rest) ← someDigits? gs
  if ds.length > 1 && ds.head? == some '0' then none else return (ds, rest)

def places? : List Glyph → Option (Option (List Char) × List Glyph)
  | some '.' :: rest => (someDigits? rest).map fun (ds, rest) => (some ds, rest)
  | rest => some (none, rest)

/-- Whether a minus sign is in front, and what follows it. -/
def minus : List Glyph → Bool × List Glyph
  | some '-' :: rest => (true, rest)
  | rest => (false, rest)

/-- As `minus`, where a plus sign can stand too. -/
def anySign : List Glyph → Bool × List Glyph
  | some '+' :: rest => (false, rest)
  | rest => minus rest

def exponent? : List Glyph → Option (Option (Bool × List Char) × List Glyph)
  | some 'e' :: rest | some 'E' :: rest =>
    let (negative, rest) := anySign rest
    (someDigits? rest).map fun (ds, rest) => (some (negative, ds), rest)
  | rest => some (none, rest)

def number? (gs : List Glyph) : Option (NumberText × List Glyph) := do
  let (negative, rest) := minus gs
  let (whole, rest) ← whole? rest
  let (places, rest) ← places? rest
  let (exponent, rest) ← exponent? rest
  return ({ negative, whole, places, exponent }, rest)

def hexValue? (c : Char) : Option Nat :=
  if '0' ≤ c ∧ c ≤ '9' then some (c.toNat - '0'.toNat)
  else if 'a' ≤ c ∧ c ≤ 'f' then some (c.toNat - 'a'.toNat + 10)
  else if 'A' ≤ c ∧ c ≤ 'F' then some (c.toNat - 'A'.toNat + 10)
  else none

/-- What a backslash and a character stand for. -/
def escape? : Char → Option Char
  | '"' => some '"'
  | '\\' => some '\\'
  | '/' => some '/'
  | 'b' => some '\x08'
  | 'f' => some '\x0c'
  | 'n' => some '\n'
  | 'r' => some '\r'
  | 't' => some '\t'
  | _ => none

/-- The pieces of a string after its opening quote, and what follows the closing one. -/
def pieces? : List Glyph → Option (List Piece × List Glyph)
  | [] => none
  | some '"' :: rest => some ([], rest)
  | some '\\' :: some 'u' :: some a :: some b :: some c :: some d :: rest => do
    let n := (((← hexValue? a) * 16 + (← hexValue? b)) * 16 + (← hexValue? c)) * 16 + (← hexValue? d)
    let (ps, rest) ← pieces? rest
    return (.unit n :: ps, rest)
  | some '\\' :: some e :: rest => do
    let c ← escape? e
    let (ps, rest) ← pieces? rest
    return (.char c :: ps, rest)
  | some '\\' :: _ => none
  | some c :: rest =>
    if c.toNat < 0x20 then none else (pieces? rest).map fun (ps, rest) => (.char c :: ps, rest)
  | none :: rest => (pieces? rest).map fun (ps, rest) => (.hole :: ps, rest)

mutual

/-- A value at the front, nested at most as deep as there is fuel, and the rest. -/
def value? : Nat → List Glyph → Option (Tree × List Glyph)
  | 0, _ => none
  | fuel + 1, gs =>
    match skipBlank gs with
    | some 'n' :: some 'u' :: some 'l' :: some 'l' :: rest => some (.null, rest)
    | some 't' :: some 'r' :: some 'u' :: some 'e' :: rest => some (.bool true, rest)
    | some 'f' :: some 'a' :: some 'l' :: some 's' :: some 'e' :: rest => some (.bool false, rest)
    | some '"' :: rest => (pieces? rest).map fun (ps, rest) => (.string ps, rest)
    | some '[' :: rest =>
      match skipBlank rest with
      | some ']' :: rest => some (.list [], rest)
      | rest => (items? fuel rest).map fun (ts, rest) => (.list ts, rest)
    | some '\x7b' :: rest =>
      match skipBlank rest with
      | some '\x7d' :: rest => some (.table [], rest)
      | rest => (members? fuel rest).map fun (ms, rest) => (.table ms, rest)
    | rest => (number? rest).map fun (t, rest) => (.number t, rest)

/-- The items of a list up to its closing bracket. -/
def items? : Nat → List Glyph → Option (List Tree × List Glyph)
  | 0, _ => none
  | fuel + 1, gs => do
    let (t, rest) ← value? fuel gs
    match skipBlank rest with
    | some ']' :: rest => return ([t], rest)
    | some ',' :: rest =>
      let (ts, rest) ← items? fuel rest
      return (t :: ts, rest)
    | _ => none

/-- The members of a table up to its closing brace. -/
def members? : Nat → List Glyph → Option (List (List Piece × Tree) × List Glyph)
  | 0, _ => none
  | fuel + 1, gs =>
    match skipBlank gs with
    | some '"' :: rest => do
      let (key, rest) ← pieces? rest
      match skipBlank rest with
      | some ':' :: rest =>
        let (t, rest) ← value? fuel rest
        match skipBlank rest with
        | some '\x7d' :: rest => return ([(key, t)], rest)
        | some ',' :: rest =>
          let (ms, rest) ← members? fuel rest
          return ((key, t) :: ms, rest)
        | _ => none
      | _ => none
    | _ => none

end

/-- A value that is the whole text. -/
def Tree.ofGlyphs? (gs : List Glyph) : Option Tree := do
  let (t, rest) ← value? (gs.length + 1) gs
  if (skipBlank rest).isEmpty then return t else none

end RowScript.Json

namespace RowScript.Dialect

/-- At the outermost layer of a JSON text. -/
def json : Dialect where
  isUnit
    | .null => true
    | _ => false
  ignoresExtraItems := false

end RowScript.Dialect
