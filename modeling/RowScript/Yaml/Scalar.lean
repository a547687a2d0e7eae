import RowScript.Yaml.Cursor

/-!
# Scalars in YAML

How a single text is written: plain, between quotes, or as a block of indented lines. Lines of the
first two are folded: a break becomes a space, and further breaks stay.
-/

namespace RowScript.Yaml

/-- Blanks and breaks between two words. -/
structure Gap where
  /-- The blanks before the first break. -/
  spaces : List Char := []
  /-- The first break, empty if a backslash hides it. -/
  first : Option (List Char) := none
  /-- The breaks after the first. -/
  further : List Char := []

namespace Gap

/-- What is left of a gap within a text. -/
def folded (g : Gap) : List Char :=
  match g.first with
  | none => g.spaces
  | some ['\n'] => if g.further.isEmpty then [' '] else g.further
  | some first => first ++ g.further

def withBreak (g : Gap) (b : List Char) : Gap :=
  if g.first.isNone then { first := some b } else { g with further := g.further ++ b }

def withBlank (g : Gap) (c : Char) : Gap :=
  if g.first.isNone then { g with spaces := g.spaces ++ [c] } else g

/-- Pass over blanks and breaks. A tab cannot indent a line up to column `floor`. -/
def pass? (floor : Nat) : Nat → Gap → Cursor → Option (Gap × Cursor)
  | 0, g, c => some (g, c)
  | fuel + 1, g, c =>
    match c.head? with
    | none => some (g, c)
    | some ch =>
      if isBlank ch then
        if g.first.isSome && c.column < floor && ch == '\t' then none
        else pass? floor fuel (g.withBlank ch) (c.advance 1)
      else if isBreak ch then
        let (b, c) := c.takeBreak
        pass? floor fuel (g.withBreak b) c
      else some (g, c)

end Gap

/-! ### Between quotes -/

def hexDigit? (c : Char) : Option Nat :=
  if '0' ≤ c ∧ c ≤ '9' then some (c.toNat - '0'.toNat)
  else if 'a' ≤ c ∧ c ≤ 'f' then some (c.toNat - 'a'.toNat + 10)
  else if 'A' ≤ c ∧ c ≤ 'F' then some (c.toNat - 'A'.toNat + 10)
  else none

/-- The character with a number given by hexadecimal digits. -/
def hexChar? (digits : List Char) : Option Char := do
  let n ← digits.foldlM (fun n c => (hexDigit? c).map (n * 16 + ·)) 0
  if n.isValidChar then return Char.ofNat n else none

/-- The character that a letter after a backslash stands for. -/
def shortEscape? : Char → Option Char
  | '0' => some '\x00'
  | 'a' => some '\x07'
  | 'b' => some '\x08'
  | 't' | '\t' => some '\t'
  | 'n' => some '\n'
  | 'v' => some '\x0b'
  | 'f' => some '\x0c'
  | 'r' => some '\r'
  | 'e' => some '\x1b'
  | ' ' => some ' '
  | '"' => some '"'
  | '/' => some '/'
  | '\\' => some '\\'
  | 'N' => some '\u0085'
  | '_' => some '\u00a0'
  | 'L' => some '\u2028'
  | 'P' => some '\u2029'
  | _ => none

/-- How many hexadecimal digits follow a letter after a backslash. -/
def escapeWidth? : Char → Option Nat
  | 'x' => some 2
  | 'u' => some 4
  | 'U' => some 8
  | _ => none

/-- What a backslash and a letter stand for, and how many characters that takes. -/
def escape? (letter : Char) (rest : List Char) : Option (Char × Nat) :=
  match shortEscape? letter with
  | some c => some (c, 2)
  | none => do
    let width ← escapeWidth? letter
    if (rest.take width).length == width then
      return (← hexChar? (rest.take width), 2 + width)
    else none

/-- The characters up to a gap or the closing quote. Also says whether a backslash hides the break
that comes next. -/
def quotedWord? (single : Bool) : Nat → List Char → Cursor → Option (List Char × Bool × Cursor)
  | 0, acc, c => some (acc.reverse, false, c)
  | fuel + 1, acc, c =>
    match c.rest with
    | [] => some (acc.reverse, false, c)
    | ch :: rest =>
      if isBlank ch || isBreak ch then some (acc.reverse, false, c)
      else if single then
        if ch == '\'' then
          if rest.head? == some '\'' then quotedWord? single fuel ('\'' :: acc) (c.advance 2)
          else some (acc.reverse, false, c)
        else quotedWord? single fuel (ch :: acc) (c.advance 1)
      else if ch == '"' then some (acc.reverse, false, c)
      else if ch == '\\' then
        match rest with
        | [] => none
        | letter :: rest =>
          if isBreak letter then some (acc.reverse, true, ((c.advance 1).takeBreak).2)
          else do
            let (e, width) ← escape? letter rest
            quotedWord? single fuel (e :: acc) (c.advance width)
      else quotedWord? single fuel (ch :: acc) (c.advance 1)

/-- A text after its opening quote, and the place after its closing one. -/
def quotedFrom? (single : Bool) : Nat → List Char → Cursor → Option (List Char × Cursor)
  | 0, _, _ => none
  | fuel + 1, acc, c =>
    if c.rest.isEmpty || c.documentMark?.isSome then none
    else do
      let (word, hidden, c) ← quotedWord? single c.rest.length [] c
      if c.head? == some (if single then '\'' else '"') then return (acc ++ word, c.advance 1)
      let start : Gap := if hidden then { first := some [] } else {}
      let (gap, c) ← Gap.pass? 0 c.rest.length start c
      quotedFrom? single fuel (acc ++ word ++ gap.folded) c

def quoted? (single : Bool) (c : Cursor) : Option (String × Cursor) :=
  (quotedFrom? single (c.rest.length + 1) [] c).map fun (cs, c) => (String.ofList cs, c)

/-! ### Plain -/

/-- What ends a plain text inside brackets. -/
def isFlowMark (c : Char) : Bool := c == ',' || c == '[' || c == ']' || c == '\x7b' || c == '\x7d'

/-- The characters of a plain text up to a gap or a mark. Inside brackets a colon cannot stand
before a mark. -/
def plainWord? (flow : Bool) : List Char → Option (List Char)
  | [] => some []
  | c :: rest =>
    if isBlank c || isBreak c then some []
    else if c == ':' && flow && rest.head?.any (fun d => isFlowMark d || d == '?') then none
    else if (c == ':' && isGap rest.head?) || (flow && isFlowMark c) then some []
    else (plainWord? flow rest).map (c :: ·)

/-- A plain text whose further lines are indented to column `floor`. Also says whether a break comes
after it. -/
def plainFrom? (flow : Bool) (floor : Nat) :
    Nat → List Char → Gap → Cursor → Option (List Char × Bool × Cursor)
  | 0, _, _, _ => none
  | fuel + 1, acc, gap, c =>
    if c.documentMark?.isSome || c.head? == some '#' then some (acc, gap.first.isSome, c)
    else do
      let word ← plainWord? flow c.rest
      if word.isEmpty then return (acc, gap.first.isSome, c)
      let acc := acc ++ gap.folded ++ word
      let c := c.advance word.length
      if c.head?.any (fun ch => isBlank ch || isBreak ch) then
        let (gap, c) ← Gap.pass? floor c.rest.length {} c
        if !flow && c.column < floor then return (acc, gap.first.isSome, c)
        plainFrom? flow floor fuel acc gap c
      else return (acc, false, c)

def plain? (flow : Bool) (floor : Nat) (c : Cursor) : Option (String × Bool × Cursor) :=
  (plainFrom? flow floor (c.rest.length + 1) [] {} c).map fun (cs, broken, c) =>
    (String.ofList cs, broken, c)

/-! ### Blocks -/

/-- Which breaks at the end of a block stay. -/
inductive Chomping
  | strip
  | clip
  | keep
  deriving DecidableEq

def chomping? : Char → Option Chomping
  | '-' => some .strip
  | '+' => some .keep
  | _ => none

/-- Pass over empty lines and the indentation of the first line that is not empty. An indentation
of zero is not known yet. Also gives the deepest column seen. -/
def blockBreaks? (indent : Nat) :
    Nat → Nat → List Char → Cursor → Option (Nat × List Char × Cursor)
  | 0, deepest, acc, c => some (deepest, acc, c)
  | fuel + 1, deepest, acc, c =>
    let spaces := (c.rest.takeWhile (· == ' ')).length
    let c := c.advance (if indent == 0 then spaces else min spaces (indent - c.column))
    let deepest := max deepest c.column
    if (indent == 0 || c.column < indent) && c.head? == some '\t' then none
    else if c.head?.any isBreak then
      let (b, c) := c.takeBreak
      blockBreaks? indent fuel deepest (acc ++ b) c
    else some (deepest, acc, c)

/-- A block between two of its lines. -/
structure BlockState where
  text : List Char := []
  /-- The break after the last line. -/
  lineBreak : List Char := []
  /-- The breaks of empty lines after that. -/
  further : List Char
  /-- The last line began with a blank. -/
  blankLine : Bool := false

/-- The lines of a block that are indented to column `indent`. -/
def blockLines? (folds : Bool) (indent : Nat) :
    Nat → BlockState → Cursor → Option (BlockState × Cursor)
  | 0, s, c => some (s, c)
  | fuel + 1, s, c =>
    match c.head? with
    | none => some (s, c)
    | some ch =>
      if c.column != indent then some (s, c)
      else
        let blank := isBlank ch
        let joint :=
          if folds && s.lineBreak == ['\n'] && !s.blankLine && !blank then
            if s.further.isEmpty then [' '] else []
          else s.lineBreak
        let (line, c) := c.span (!isBreak ·)
        let (lineBreak, c) := c.takeBreak
        do
          let (_, further, c) ← blockBreaks? indent (c.rest.length + 1) 0 [] c
          let text := s.text ++ joint ++ s.further ++ line
          blockLines? folds indent fuel { text, lineBreak, further, blankLine := blank } c

/-- The marks after the sign of a block: which breaks stay, and how deep it is indented. -/
def blockHeader? (c : Cursor) : Option (Chomping × Nat × Cursor) :=
  let digit? (c : Cursor) : Option (Nat × Cursor) :=
    match c.head? with
    | some ch =>
      if ch == '0' then none
      else if ch.isDigit then some (ch.toNat - '0'.toNat, c.advance 1)
      else some (0, c)
    | none => some (0, c)
  match c.head?.bind chomping? with
  | some chomping => do
    let (n, c) ← digit? (c.advance 1)
    return (chomping, n, c)
  | none => do
    let (n, c) ← digit? c
    if n == 0 then return (.clip, 0, c)
    match c.head?.bind chomping? with
    | some chomping => return (chomping, n, c.advance 1)
    | none => return (.clip, n, c)

/-- A block after its sign, inside lines indented to column `parent`, which is below zero at the
outermost level. -/
def block? (folds : Bool) (parent : Int) (c : Cursor) : Option (String × Cursor) := do
  let (chomping, increment, c) ← blockHeader? c
  let c := c.skipWhile isBlank
  let c := if c.head? == some '#' then c.skipWhile (!isBreak ·) else c
  if c.head?.any (!isBreak ·) then none
  let (_, c) := c.takeBreak
  let known := if increment == 0 then 0 else increment + parent.toNat
  let (deepest, further, c) ← blockBreaks? known (c.rest.length + 1) 0 [] c
  let indent := if known == 0 then max (max deepest (parent + 1).toNat) 1 else known
  let (s, c) ← blockLines? folds indent (c.rest.length + 1) { further } c
  let tail := match chomping with
    | .strip => []
    | .clip => s.lineBreak
    | .keep => s.lineBreak ++ s.further
  return (String.ofList (s.text ++ tail), c)

end RowScript.Yaml
