import RowScript.Script.Token
import RowScript.Text.White

/-!
# Reading tokens

`lex` cuts a source into tokens. A back-quoted text becomes a piece for each part before an
interpolated block, the tokens of that block, and a string for the last part; the lexer counts the
braces of a block to find its end.
-/

namespace RowScript.Script

/-- A text whose characters know where they stand. -/
abbrev Located := List (Char × Position)

namespace Located

/-- Count places from `line` and `column`. -/
def ofChars (line column : Nat) : List Char → Located
  | [] => []
  | '\n' :: rest => ('\n', ⟨line, column⟩) :: ofChars (line + 1) 1 rest
  | c :: rest => (c, ⟨line, column⟩) :: ofChars line (column + 1) rest

def ofString (s : String) : Located := ofChars 1 1 s.toList

/-- The place of the first character. -/
def pos : Located → Position
  | [] => .unknown
  | (_, p) :: _ => p

def firstChar? : Located → Option Char
  | [] => none
  | (c, _) :: _ => some c

/-- Whether the text starts with these characters. -/
def startsWith : List Char → Located → Bool
  | [], _ => true
  | _ :: _, [] => false
  | c :: cs, (d, _) :: rest => c == d && startsWith cs rest

end Located

namespace Lexer

abbrev Lexed := Except SyntaxFault

def fault {α : Type} (what : String) (pos : Position) : Lexed α := .error ⟨what, pos⟩

/-! ### Comments -/

def skipLine : Located → Located
  | [] => []
  | ('\n', p) :: rest => ('\n', p) :: rest
  | _ :: rest => skipLine rest

/-- The rest after a comment of which `depth` openings are still open. -/
def skipComment : Nat → Located → Located
  | _, [] => []
  | depth, ('*', _) :: ('/', _) :: rest => if depth ≤ 1 then rest else skipComment (depth - 1) rest
  | depth, ('/', _) :: ('*', _) :: rest => skipComment (depth + 1) rest
  | depth, _ :: rest => skipComment depth rest

/-! ### Names -/

def isLetter (c : Char) : Bool := ('a' ≤ c && c ≤ 'z') || ('A' ≤ c && c ≤ 'Z')

def isDigit (c : Char) : Bool := '0' ≤ c && c ≤ '9'

def isNameStart (c : Char) : Bool := isLetter c || c == '_'

def isNamePart (c : Char) : Bool := isNameStart c || isDigit c

/-- The characters at the front that `ok` accepts, and the rest. -/
def takeChars (ok : Char → Bool) : Located → List Char × Located
  | [] => ([], [])
  | (c, p) :: rest =>
    if ok c then
      let (cs, rest) := takeChars ok rest
      (c :: cs, rest)
    else ([], (c, p) :: rest)

/-- A name has a letter, and nothing but underscores before the first one. -/
def isName (cs : List Char) : Bool :=
  match cs.dropWhile (· == '_') with
  | c :: _ => isLetter c
  | [] => false

/-- A name that a function of a script can have. -/
def isFunctionName (s : String) : Bool :=
  isName s.toList && s.all isNamePart && !keywords.contains s && !callableWords.contains s &&
    !reservedWords.contains s

def wordToken (cs : List Char) (pos : Position) : Lexed Token :=
  let s := String.ofList cs
  if keywords.contains s then .ok (.keyword s)
  else if callableWords.contains s then .ok (.callable s)
  else if reservedWords.contains s then fault s!"'{s}' is a reserved word" pos
  else if s == "_" then .ok (.symbol s)
  else if isName cs then .ok (.name s)
  else fault s!"'{s}' is not a valid name" pos

/-! ### Numbers -/

/-- Digits at the front, among which underscores do not count. -/
def takeDigits (ok : Char → Bool) (src : Located) : List Char × Located :=
  let (cs, rest) := takeChars (fun c => ok c || c == '_') src
  (cs.filter (· != '_'), rest)

def radixDigit? (c : Char) : Option Nat :=
  if isDigit c then some (c.toNat - '0'.toNat)
  else if 'a' ≤ c && c ≤ 'f' then some (c.toNat - 'a'.toNat + 10)
  else if 'A' ≤ c && c ≤ 'F' then some (c.toNat - 'A'.toNat + 10)
  else none

def isRadixDigit (radix : Nat) (c : Char) : Bool :=
  match radixDigit? c with
  | some d => d < radix
  | none => false

def radixOf? : Char → Option Nat
  | 'x' | 'X' => some 16
  | 'o' | 'O' => some 8
  | 'b' | 'B' => some 2
  | _ => none

/-- A whole number in another base; 64 bits, of which the first is the sign. -/
def radixNumber (radix : Nat) (src : Located) (start : Position) : Lexed (Token × Located) :=
  let (ds, rest) := takeDigits (isRadixDigit radix) src
  let n := ds.foldl (fun n c => n * radix + (radixDigit? c).getD 0) 0
  if ds.isEmpty || n ≥ Nat.pow 2 64 then fault "malformed number" start
  else .ok (.int (Int64.ofInt n), rest)

/-- The places after a point. A point belongs to the number if a digit follows it, or something
that cannot start the name of a property. -/
def fraction? : Located → Option (List Char) × Located
  | ('.', p) :: rest =>
    match rest with
    | [] => (none, ('.', p) :: rest)
    | (c, _) :: _ =>
      if isDigit c then
        let (ds, rest) := takeDigits isDigit rest
        (some ds, rest)
      else if c == '.' || isNameStart c then (none, ('.', p) :: rest)
      else (some ['0'], rest)
  | rest => (none, rest)

/-- The sign and digits of an exponent. -/
def exponent? : Located → Option (Bool × List Char) × Located
  | ('e', p) :: (c, q) :: rest =>
    if isDigit c then
      let (ds, rest) := takeDigits isDigit ((c, q) :: rest)
      (some (false, ds), rest)
    else if c == '+' || c == '-' then
      let (ds, rest) := takeDigits isDigit rest
      (some (c == '-', ds), rest)
    else (none, ('e', p) :: (c, q) :: rest)
  | rest => (none, rest)

/-- A decimal number, of which `first` is the first digit. One without point and exponent is an
integer if it is in range. -/
def decimalNumber (first : Char) (src : Located) (start : Position) : Lexed (Token × Located) :=
  let (more, rest) := takeDigits isDigit src
  let whole := first :: more
  let (places, rest) := fraction? rest
  let (exponent, rest) := exponent? rest
  match places, exponent with
  | none, none =>
    let n := Digits.value whole
    if n < Nat.pow 2 63 then .ok (.int (Int64.ofInt n), rest)
    else .ok (.float (floatOfDecimal false n 0), rest)
  | _, some (_, []) => fault "malformed number" start
  | _, _ =>
    let ds := places.getD []
    let e : Int := match exponent with
      | some (negative, es) => if negative then -(Digits.value es : Int) else Digits.value es
      | none => 0
    .ok (.float (floatOfDecimal false (Digits.value (whole ++ ds)) (e - ds.length)), rest)

def number (first : Char) (src : Located) (start : Position) : Lexed (Token × Located) :=
  match src with
  | (c, _) :: rest =>
    match radixOf? c with
    | some radix => if first == '0' then radixNumber radix rest start else decimalNumber first src start
    | none => decimalNumber first src start
  | [] => decimalNumber first src start

/-! ### Texts -/

/-- The count of digits in an escape for a character's number. -/
def escapeWidth? : Char → Option Nat
  | 'x' => some 2
  | 'u' => some 4
  | 'U' => some 8
  | _ => none

/-- A character's number in exactly `width` hexadecimal digits. -/
def escapedNumber (start : Position) : Nat → Nat → Located → Lexed (Char × Located)
  | 0, n, rest =>
    if n.isValidChar then .ok (Char.ofNat n, rest) else fault "malformed escape" start
  | _ + 1, _, [] => fault "malformed escape" start
  | width + 1, n, (c, _) :: rest =>
    match radixDigit? c with
    | some d => escapedNumber start width (n * 16 + d) rest
    | none => fault "malformed escape" start

/-- What one escape stands for, given the quote that ends the text. -/
def escaped (quote : Char) (start : Position) : Located → Lexed (Char × Located)
  | [] => fault "unterminated text" start
  | (c, _) :: rest =>
    match escapeWidth? c with
    | some width => escapedNumber start width 0 rest
    | none =>
      if c == '\\' || c == quote then .ok (c, rest)
      else if c == 't' then .ok ('\t', rest)
      else if c == 'n' then .ok ('\n', rest)
      else if c == 'r' then .ok ('\r', rest)
      else fault "malformed escape" start

/-- White space left of a column, and the rest. -/
def skipIndent (column : Nat) : Located → Located
  | [] => []
  | (c, p) :: rest => if isWhite c && p.column < column then skipIndent column rest else (c, p) :: rest

/-- A text up to its closing quote, which written twice stands for itself. A line ends it only after
a backslash, where `column` says how far the next line is indented. -/
def quoted (quote : Char) (continues : Bool) (start : Position) :
    Nat → List Char → Located → Lexed (List Char × Located)
  | 0, _, _ => fault "unterminated text" start
  | _ + 1, _, [] => fault "unterminated text" start
  | fuel + 1, acc, (c, _) :: rest =>
    if c == quote then
      if Located.firstChar? rest == some quote then quoted quote continues start fuel (c :: acc) rest.tail
      else .ok (acc.reverse, rest)
    else if c == '\\' then
      match rest with
      | ('\n', _) :: more =>
        if continues then quoted quote continues start fuel acc (skipIndent (start.column + 1) more)
        else fault "unterminated text" start
      | ('\r', _) :: ('\n', _) :: more =>
        if continues then quoted quote continues start fuel acc (skipIndent (start.column + 1) more)
        else fault "unterminated text" start
      | _ => do
        let (d, rest) ← escaped quote start rest
        quoted quote continues start fuel (d :: acc) rest
    else if c == '\n' then fault "unterminated text" start
    else if c == '\r' && Located.firstChar? rest == some '\n' then
      quoted quote continues start fuel acc rest
    else quoted quote continues start fuel (c :: acc) rest

/-- A back-quoted text up to its closing quote or up to the start of an interpolated block, and
whether a block follows. -/
def backQuoted (start : Position) : List Char → Located → Lexed (List Char × Bool × Located)
  | _, [] => fault "unterminated text" start
  | acc, ('`', _) :: ('`', _) :: rest => backQuoted start ('`' :: acc) rest
  | acc, ('`', _) :: rest => .ok (acc.reverse, false, rest)
  | acc, ('$', _) :: ('\x7b', p) :: rest => .ok (acc.reverse, true, ('\x7b', p) :: rest)
  | acc, ('\r', _) :: ('\n', p) :: rest => backQuoted start ('\n' :: acc) (('\n', p) :: rest).tail
  | acc, (c, _) :: rest => backQuoted start (c :: acc) rest

/-- A line break right after the opening back quote does not count. -/
def dropFirstBreak : Located → Located
  | ('\n', _) :: rest => rest
  | ('\r', _) :: ('\n', _) :: rest => rest
  | rest => rest

/-! ### Signs -/

/-- The longest sign or combination of signs at the front. -/
def sign? (src : Located) : Option String :=
  let front (n : Nat) : String := String.ofList ((src.take n).map (·.1))
  if symbols3.contains (front 3) || reservedSymbols.contains (front 3) then some (front 3)
  else if symbols2.contains (front 2) || reservedSymbols.contains (front 2) then some (front 2)
  else if symbols1.contains (front 1) || reservedSymbols.contains (front 1) then some (front 1)
  else none

/-- Whether `!in` stands at the front as a word of its own. -/
def isNotIn (src : Located) : Bool :=
  Located.startsWith ['!', 'i', 'n'] src && !((Located.firstChar? (src.drop 3)).map isNamePart).getD false

/-! ### The whole source -/

/-- The longest text that a literal may have, in bytes. -/
def checkLength (limit : Option Nat) (cs : List Char) (start : Position) : Lexed String :=
  let s := String.ofList cs
  match limit with
  | some max => if s.utf8ByteSize > max then fault "text is too long" start else .ok s
  | none => .ok s

/-- What comes next: nothing, white space or a comment, or a token. The list says of each
interpolated block that is open how many of its braces are open, innermost first. -/
inductive Next
  | done
  | skip (rest : Located)
  | token (t : Token) (pos : Position) (rest : Located) (blocks : List Nat)

/-- Go on in a back-quoted text. -/
def resume (limit : Option Nat) (start : Position) (src : Located) (blocks : List Nat) : Lexed Next := do
  let (cs, more, rest) ← backQuoted start [] src
  let s ← checkLength limit cs start
  return if more then .token (.piece s) start rest (0 :: blocks)
    else .token (.string s) start rest blocks

def symbolNext (src : Located) (start : Position) (blocks : List Nat) : Lexed Next :=
  if isNotIn src then .ok (.token (.symbol "!in") start (src.drop 3) blocks)
  else
    match sign? src with
    | none => fault "unexpected character" start
    | some s =>
      if reservedSymbols.contains s then fault s!"'{s}' is a reserved sign" start
      else
        let blocks := match blocks with
          | [] => []
          | n :: outer =>
            if s == "\x7b" || s == "#\x7b" then (n + 1) :: outer
            else if s == "\x7d" then (n - 1) :: outer
            else n :: outer
        .ok (.token (.symbol s) start (src.drop s.length) blocks)

def next (limit : Option Nat) (blocks : List Nat) : Located → Lexed Next
  | [] => .ok .done
  | (c, start) :: rest =>
    if isWhite c then .ok (.skip rest)
    else if c == '/' && Located.firstChar? rest == some '/' then .ok (.skip (skipLine rest))
    else if c == '/' && Located.firstChar? rest == some '*' then .ok (.skip (skipComment 1 rest.tail))
    else if isDigit c then do
      let (t, rest) ← number c rest start
      return .token t start rest blocks
    else if isNameStart c then do
      let (cs, rest) := takeChars isNamePart ((c, start) :: rest)
      return .token (← wordToken cs start) start rest blocks
    else if c == '"' then do
      let (cs, rest) ← quoted '"' true start (rest.length + 1) [] rest
      return .token (.string (← checkLength limit cs start)) start rest blocks
    else if c == '\'' then do
      let (cs, rest) ← quoted '\'' false start (rest.length + 1) [] rest
      match cs with
      | [d] => return .token (.char d) start rest blocks
      | _ => fault "malformed character" start
    else if c == '`' then resume limit start (dropFirstBreak rest) blocks
    else if c == '\x7d' && blocks.head? == some 1 then
      .ok (.token (.symbol "\x7d") start rest (0 :: blocks.tail))
    else symbolNext ((c, start) :: rest) start blocks

/-- Whether the brace just read closed an interpolated block. -/
def blockEnded (t : Token) (blocks : List Nat) : Bool :=
  t.isSymbol "\x7d" && blocks.head? == some 0

/-- All tokens of a source. -/
def tokens (limit : Option Nat) :
    Nat → List Nat → Located → List (Token × Position) → Lexed (List (Token × Position))
  | 0, _, _, acc => .ok acc.reverse
  | fuel + 1, blocks, src, acc => do
    match ← next limit blocks src with
    | .done => return acc.reverse
    | .skip rest => tokens limit fuel blocks rest acc
    | .token t pos rest blocks =>
      let acc := (t, pos) :: acc
      if blockEnded t blocks then
        match ← resume limit (Located.pos rest) rest blocks.tail with
        | .token t pos rest blocks => tokens limit fuel blocks rest ((t, pos) :: acc)
        | _ => return acc.reverse
      else tokens limit fuel blocks rest acc

end Lexer

/-- Cut a source into tokens, of which no text is longer than the limit in bytes. -/
def lex (limit : Option Nat) (source : String) : Except SyntaxFault (List (Token × Position)) :=
  let src := Located.ofString source
  Lexer.tokens limit (2 * src.length + 2) [] src []

end RowScript.Script
