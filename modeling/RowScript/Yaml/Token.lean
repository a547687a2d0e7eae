import RowScript.Yaml.Scalar

/-!
# Tokens of YAML

`tokens?` takes a text apart. Indentation becomes tokens that open and close blocks. A key without a
mark is recognised only by the colon after it, so its tokens are put in front of it then.
-/

namespace RowScript.Yaml

/-- How a scalar is written, as far as that changes what it means. -/
inductive Style
  | plain
  | literal
  | other
  deriving Repr, DecidableEq, Inhabited

inductive Token
  | version
  | tagRule (handle start : String)
  | documentStart
  | documentEnd
  | blockList
  | blockTable
  | blockEnd
  | flowList
  | flowListEnd
  | flowTable
  | flowTableEnd
  | dash
  | comma
  | key
  | colon
  | alias (name : String)
  | anchor (name : String)
  | tag (handle suffix : String)
  | scalar (text : String) (style : Style)
  deriving Repr, DecidableEq, Inhabited

/-- A place where a key without a mark can begin. -/
structure KeyStart where
  /-- Nothing but a key can stand here. -/
  required : Bool
  /-- How many tokens come before it. -/
  place : Nat
  line : Nat
  column : Nat
  index : Nat

/-- A text on its way to tokens. -/
structure Scan where
  cursor : Cursor
  tokens : Array Token := #[]
  /-- The column of the innermost block, below zero outside all blocks. -/
  indent : Int := -1
  /-- The columns of the blocks around it. -/
  outer : List Int := []
  /-- Where a key can have begun: within the innermost brackets first, outside of all last. -/
  keys : List (Option KeyStart) := [none]
  keyAllowed : Bool := true

namespace Scan

/-- Whether the text is inside brackets. -/
def inFlow (s : Scan) : Bool := s.keys.length > 1

def push (s : Scan) (t : Token) : Scan := { s with tokens := s.tokens.push t }

def advance (s : Scan) (n : Nat) : Scan := { s with cursor := s.cursor.advance n }

def currentKey (s : Scan) : Option KeyStart := s.keys.head?.join

def setKey (s : Scan) (k : Option KeyStart) : Scan := { s with keys := k :: s.keys.drop 1 }

/-- Give up the key that can have begun here; one that is required cannot be given up. -/
def dropKey? (s : Scan) : Option Scan :=
  if s.currentKey.any (·.required) then none else some (s.setKey none)

/-- Remember that a key can begin here. -/
def saveKey? (s : Scan) : Option Scan :=
  if s.keyAllowed then
    s.dropKey?.map fun s => s.setKey <| some {
      required := !s.inFlow && s.indent == s.cursor.column
      place := s.tokens.size
      line := s.cursor.line
      column := s.cursor.column
      index := s.cursor.index }
  else some s

/-- The longest a key without a mark can be. -/
def maxKeyLength : Nat := 1024

/-- Whether a key that began at `k` can still end here: it fits one line and is not too long. -/
def isFresh (s : Scan) (k : KeyStart) : Bool :=
  s.cursor.line ≤ k.line && s.cursor.index ≤ k.index + maxKeyLength

/-- Give up all keys that are too long by now. -/
def dropStaleKeys? (s : Scan) : Option Scan := do
  let keys ← s.keys.mapM fun k? =>
    match k? with
    | some k =>
      if s.isFresh k then some (some k) else if k.required then none else some none
    | none => some none
  return { s with keys }

/-- Open a block at a column, unless one is open there; its token comes at `place`. -/
def openBlock (s : Scan) (column : Nat) (t : Token) (place : Nat) : Scan :=
  if !s.inFlow && s.indent < column then
    { s with
      indent := column
      outer := s.indent :: s.outer
      tokens := s.tokens.insertIdxIfInBounds place t }
  else s

/-- Close the innermost blocks, given from the inside out, that are deeper than a column. -/
def closeBlocksTo (column : Int) : List Int → Scan → Scan
  | [], s => s
  | parent :: outer, s =>
    if s.indent > column then
      closeBlocksTo column outer { s.push .blockEnd with indent := parent, outer }
    else s

def closeBlocks (s : Scan) (column : Int) : Scan :=
  if s.inFlow then s else closeBlocksTo column s.outer s

/-! ### Blanks and comments -/

/-- Pass over blanks, comments and breaks. A new line outside brackets can begin a key, and there a
tab cannot indent it. -/
def toNext : Nat → Scan → Scan
  | 0, s => s
  | fuel + 1, s =>
    let c := s.cursor
    let c := if c.column == 0 && c.head? == some '\ufeff' then c.advance 1 else c
    let c := c.skipWhile fun ch => ch == ' ' || (ch == '\t' && (s.inFlow || !s.keyAllowed))
    let c := if c.head? == some '#' then c.skipWhile (!isBreak ·) else c
    if c.head?.any isBreak then
      toNext fuel { s with cursor := c.takeBreak.2, keyAllowed := s.keyAllowed || !s.inFlow }
    else { s with cursor := c }

/-! ### Marks -/

/-- Begin a list or a table between brackets. -/
def openFlow? (s : Scan) (t : Token) : Option Scan := do
  let s ← s.saveKey?
  return { (s.push t).advance 1 with keys := none :: s.keys, keyAllowed := true }

def closeFlow? (s : Scan) (t : Token) : Option Scan := do
  let s ← s.dropKey?
  let keys := if s.inFlow then s.keys.drop 1 else s.keys
  return { (s.push t).advance 1 with keys, keyAllowed := false }

def comma? (s : Scan) : Option Scan := do
  let s ← s.dropKey?
  return { (s.push .comma).advance 1 with keyAllowed := true }

/-- The mark of an item. -/
def dash? (s : Scan) : Option Scan := do
  if !s.inFlow && !s.keyAllowed then none
  let s := s.openBlock s.cursor.column .blockList s.tokens.size
  let s ← s.dropKey?
  return { (s.push .dash).advance 1 with keyAllowed := true }

/-- The mark of a key. -/
def question? (s : Scan) : Option Scan := do
  if !s.inFlow && !s.keyAllowed then none
  let s := s.openBlock s.cursor.column .blockTable s.tokens.size
  let s ← s.dropKey?
  return { (s.push .key).advance 1 with keyAllowed := !s.inFlow }

/-- The mark of a value. What came before it on its line is then a key. -/
def colon? (s : Scan) : Option Scan :=
  match s.currentKey with
  | some k =>
    let s := { s with tokens := s.tokens.insertIdxIfInBounds k.place .key }
    let s := (s.openBlock k.column .blockTable k.place).setKey none
    some { (s.push .colon).advance 1 with keyAllowed := false }
  | none =>
    if !s.inFlow && !s.keyAllowed then none
    else
      let s := s.openBlock s.cursor.column .blockTable s.tokens.size
      some { (s.push .colon).advance 1 with keyAllowed := !s.inFlow }

/-- The mark of a document's start or end. -/
def documentMark? (s : Scan) (t : Token) : Option Scan := do
  let s ← (s.closeBlocks (-1)).dropKey?
  return { (s.push t).advance 3 with keyAllowed := false }

/-! ### Names -/

/-- What can follow the name of an anchor. -/
def endsName : Option Char → Bool
  | some c => isGap (some c) || c == '?' || c == ':' || c == ',' || c == ']' || c == '\x7d' ||
      c == '%' || c == '@' || c == '\x60'
  | none => true

/-- The name of an anchor after its sign. -/
def named? (s : Scan) (token : String → Token) : Option Scan := do
  let s ← s.saveKey?
  let (name, c) := (s.cursor.advance 1).span isWordChar
  if name.isEmpty || !endsName c.head? then none
  return { s.push (token (String.ofList name)) with cursor := c, keyAllowed := false }

/-- A character of a tag. -/
def isTagChar (verbatim : Bool) (c : Char) : Bool :=
  isWordChar c || c == ';' || c == '/' || c == '?' || c == ':' || c == '@' || c == '&' || c == '=' ||
    c == '+' || c == '$' || c == '.' || c == '!' || c == '~' || c == '*' || c == '\'' || c == '(' ||
    c == ')' || (verbatim && (c == ',' || c == '[' || c == ']'))

/-- The text of a tag, in which bytes can be given by a percent sign and two digits. -/
def tagBytes? (verbatim : Bool) : Nat → List UInt8 → Cursor → Option (List UInt8 × Cursor)
  | 0, acc, c => some (acc, c)
  | fuel + 1, acc, c =>
    match c.rest with
    | '%' :: a :: b :: _ => do
      let n := (← hexDigit? a) * 16 + (← hexDigit? b)
      tagBytes? verbatim fuel (acc ++ [n.toUInt8]) (c.advance 3)
    | ch :: _ =>
      if ch == '%' then none
      else if isTagChar verbatim ch then
        tagBytes? verbatim fuel (acc ++ (String.singleton ch).toUTF8.toList) (c.advance 1)
      else some (acc, c)
    | [] => some (acc, c)

def tagText? (verbatim : Bool) (c : Cursor) : Option (String × Cursor) := do
  let (bytes, c) ← tagBytes? verbatim c.rest.length [] c
  return (← String.fromUTF8? bytes.toByteArray, c)

/-- A handle: `!`, `!!` or `!name!`. -/
def handle (c : Cursor) : String × Cursor :=
  let (name, d) := (c.advance 1).span isWordChar
  if d.head? == some '!' then ("!" ++ String.ofList name ++ "!", d.advance 1)
  else ("!" ++ String.ofList name, d)

/-- A tag: between angle brackets, with a handle, or by itself. -/
def tag? (s : Scan) : Option Scan := do
  let s ← s.saveKey?
  let (t, c) ← (do
    if s.cursor.at? 1 == some '<' then
      let (suffix, c) ← tagText? true (s.cursor.advance 2)
      if suffix.isEmpty || c.head? != some '>' then none
      return (Token.tag "" suffix, c.advance 1)
    let (h, c) := handle s.cursor
    if h.length > 1 && h.endsWith "!" then
      let (suffix, c) ← tagText? false c
      if suffix.isEmpty then none
      return (.tag h suffix, c)
    let (suffix, c) ← tagText? false c
    let whole := (h.drop 1).toString ++ suffix
    return (if whole.isEmpty then .tag "" "!" else .tag "!" whole, c))
  if !(isGap c.head? || (s.inFlow && c.head? == some ',')) then none
  return { s.push t with cursor := c, keyAllowed := false }

/-! ### Directives -/

def digits? (c : Cursor) : Option (Nat × Cursor) :=
  let (ds, c) := c.span Char.isDigit
  if ds.isEmpty || ds.length > 9 then none
  else some (ds.foldl (fun n d => n * 10 + (d.toNat - '0'.toNat)) 0, c)

/-- The rest of a line with a directive. -/
def endOfDirective? (c : Cursor) : Option Cursor :=
  let c := c.skipWhile isBlank
  let c := if c.head? == some '#' then c.skipWhile (!isBreak ·) else c
  if c.head?.any (!isBreak ·) then none else some c.takeBreak.2

def version? (c : Cursor) : Option (Token × Cursor) := do
  let (major, c) ← digits? (c.skipWhile isBlank)
  if c.head? != some '.' then none
  let (minor, c) ← digits? (c.advance 1)
  if major == 1 && (minor == 1 || minor == 2) then return (.version, c) else none

def tagRule? (c : Cursor) : Option (Token × Cursor) := do
  let c := c.skipWhile isBlank
  if c.head? != some '!' then none
  let (h, c) := handle c
  if !(h == "!" || h.endsWith "!") || !c.head?.any isBlank then none
  let (start, c) ← tagText? true (c.skipWhile isBlank)
  if start.isEmpty || !isGap c.head? then none
  return (.tagRule h start, c)

def directive? (s : Scan) : Option Scan := do
  let s ← (s.closeBlocks (-1)).dropKey?
  let (name, c) := (s.cursor.advance 1).span isWordChar
  if !isGap c.head? then none
  let (t, c) ← match String.ofList name with
    | "YAML" => version? c
    | "TAG" => tagRule? c
    | _ => none
  return { s.push t with cursor := ← endOfDirective? c, keyAllowed := false }

/-! ### Scalars -/

def quotedScalar? (s : Scan) (single : Bool) : Option Scan := do
  let s ← s.saveKey?
  let (text, c) ← quoted? single (s.cursor.advance 1)
  return { s.push (.scalar text .other) with cursor := c, keyAllowed := false }

def blockScalar? (s : Scan) (folds : Bool) : Option Scan := do
  let s ← s.dropKey?
  let (text, c) ← block? folds s.indent (s.cursor.advance 1)
  return {
    s.push (.scalar text (if folds then .other else .literal)) with cursor := c, keyAllowed := true }

def plainScalar? (s : Scan) : Option Scan := do
  let s ← s.saveKey?
  let (text, broken, c) ← plain? s.inFlow (s.indent + 1).toNat s.cursor
  return { s.push (.scalar text .plain) with cursor := c, keyAllowed := broken }

/-- Characters that cannot begin a plain text without a further look. -/
def isIndicator (c : Char) : Bool :=
  "-?:,[]\x7b\x7d#&*!|>'\"%@\x60".contains c

/-- The next token, where the text is at a character. -/
def token? (s : Scan) (ch : Char) : Option Scan :=
  let gapNext := isGap (s.cursor.at? 1)
  let flow := s.inFlow
  if s.cursor.column == 0 && ch == '%' then s.directive?
  else match s.cursor.documentMark? with
    | some '-' => s.documentMark? .documentStart
    | some _ => s.documentMark? .documentEnd
    | none =>
      if ch == '[' then s.openFlow? .flowList
      else if ch == '\x7b' then s.openFlow? .flowTable
      else if ch == ']' then s.closeFlow? .flowListEnd
      else if ch == '\x7d' then s.closeFlow? .flowTableEnd
      else if ch == ',' then s.comma?
      else if ch == '-' && gapNext then s.dash?
      else if ch == '?' && (flow || gapNext) then s.question?
      else if ch == ':' && (flow || gapNext) then s.colon?
      else if ch == '*' then s.named? .alias
      else if ch == '&' then s.named? .anchor
      else if ch == '!' then s.tag?
      else if ch == '|' && !flow then s.blockScalar? false
      else if ch == '>' && !flow then s.blockScalar? true
      else if ch == '\'' then s.quotedScalar? true
      else if ch == '"' then s.quotedScalar? false
      else if !isIndicator ch && !isGap (some ch) || ch == '-' || (ch == '?' || ch == ':') && !flow then
        s.plainScalar?
      else none

/-- All tokens that are left. -/
def run? : Nat → Scan → Option Scan
  | 0, _ => none
  | fuel + 1, s => do
    let s ← (toNext (s.cursor.rest.length + 1) s).dropStaleKeys?
    let s := s.closeBlocks s.cursor.column
    match s.cursor.head? with
    | none => (s.closeBlocks (-1)).dropKey?
    | some ch => run? fuel (← s.token? ch)

end Scan

/-- The tokens of a text. -/
def tokens? (text : List Char) : Option (List Token) :=
  if text.all isPrintable then
    (Scan.run? (text.length + 1) { cursor := { rest := text } }).map (·.tokens.toList)
  else none

end RowScript.Yaml
