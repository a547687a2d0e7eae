/-!
# A place in a YAML text

A cursor knows what is left of a text and where it stands: line, column and index. Indentation is
structure in YAML, so readers ask for the column; `takeBreak` is the only step to a new line.
-/

namespace RowScript.Yaml

/-- A line break. -/
def isBreak (c : Char) : Bool :=
  c == '\n' || c == '\r' || c == '\u0085' || c == '\u2028' || c == '\u2029'

/-- A space or a tab. -/
def isBlank (c : Char) : Bool := c == ' ' || c == '\t'

/-- A blank, a break, or the end of the text. -/
def isGap : Option Char → Bool
  | some c => isBlank c || isBreak c
  | none => true

/-- A character of a name. -/
def isWordChar (c : Char) : Bool := c.isAlphanum || c == '_' || c == '-'

/-- A character that a text may have at all. -/
def isPrintable (c : Char) : Bool :=
  let n := c.toNat
  n == 0x09 || n == 0x0A || n == 0x0D || (0x20 ≤ n && n ≤ 0x7E) || n == 0x85 ||
    (0xA0 ≤ n && n ≤ 0xFFFD) || 0x10000 ≤ n

structure Cursor where
  rest : List Char
  line : Nat := 0
  column : Nat := 0
  index : Nat := 0

namespace Cursor

/-- Pass over so many characters of a line. -/
def advance (c : Cursor) (n : Nat) : Cursor :=
  { c with rest := c.rest.drop n, column := c.column + n, index := c.index + n }

def head? (c : Cursor) : Option Char := c.rest.head?

/-- The character after so many others. -/
def at? (c : Cursor) (n : Nat) : Option Char := c.rest[n]?

/-- The characters at the front that satisfy `p`, none of which is a break. -/
def span (c : Cursor) (p : Char → Bool) : List Char × Cursor :=
  let word := c.rest.takeWhile p
  (word, c.advance word.length)

def skipWhile (c : Cursor) (p : Char → Bool) : Cursor := (c.span p).2

/-- Pass over a line break, if there is one here; it counts as a line feed unless it is a separator
of lines or paragraphs. -/
def takeBreak (c : Cursor) : List Char × Cursor :=
  let next (n : Nat) (rest : List Char) : Cursor :=
    { rest, line := c.line + 1, column := 0, index := c.index + n }
  match c.rest with
  | '\r' :: '\n' :: rest => (['\n'], next 2 rest)
  | ch :: rest =>
    if ch == '\n' || ch == '\r' || ch == '\u0085' then (['\n'], next 1 rest)
    else if isBreak ch then ([ch], next 1 rest)
    else ([], c)
  | [] => ([], c)

/-- A line that begins a document (`---`) or ends one (`...`), by the character of its mark. -/
def documentMark? (c : Cursor) : Option Char :=
  if c.column == 0 then
    match c.rest with
    | '-' :: '-' :: '-' :: rest => if isGap rest.head? then some '-' else none
    | '.' :: '.' :: '.' :: rest => if isGap rest.head? then some '.' else none
    | _ => none
  else none

end Cursor

end RowScript.Yaml
