import RowScript.Decimal.Read
import RowScript.Document
import RowScript.Text.Utf8
import RowScript.Yaml.Node

/-!
# What YAML means

A plain scalar without a tag is null, a truth value, a number or a text, by its spelling alone.
`Stream.document?` reads a node by that rule. `Stream.plainDocument?` reads one of which is known that
it holds counts: there the names of members are texts however they are spelled.
-/

namespace RowScript.Yaml

/-! ### Spellings -/

def isNullText (s : String) : Bool := s == "null" || s == "Null" || s == "NULL" || s == "~"

def boolOf? : String → Option Bool
  | "true" | "True" | "TRUE" => some true
  | "false" | "False" | "FALSE" => some false
  | _ => none

/-- At least one digit of a base, as a number. -/
def digitsOf? (base : Nat) (ds : List Char) : Option Nat :=
  if ds.isEmpty then none
  else
    ds.foldlM (fun n c =>
      (hexDigit? c).bind fun d => if d < base then some (n * base + d) else none) 0

/-- A zero before other digits makes a text. -/
def isPadded (cs : List Char) : Bool :=
  let ds := match cs with
    | '-' :: rest | '+' :: rest => rest
    | cs => cs
  ds.length > 1 && ds.head? == some '0' && (ds.drop 1).all Char.isDigit

def isSign (c : Option Char) : Bool := c == some '+' || c == some '-'

/-- Digits after a prefix that says their base. -/
def prefixed? : List Char → Option Nat
  | '0' :: 'x' :: ds => digitsOf? 16 ds
  | '0' :: 'o' :: ds => digitsOf? 8 ds
  | '0' :: 'b' :: ds => digitsOf? 2 ds
  | _ => none

/-- A number without a minus sign. -/
def unsigned? (s : String) : Option Nat :=
  let body := match s.toList with
    | '+' :: rest => rest
    | cs => cs
  match prefixed? body with
  | some n => some n
  | none => if isSign body.head? || isPadded s.toList then none else digitsOf? 10 body

/-- A number with a minus sign. -/
def negative? (s : String) : Option Nat :=
  match s.toList with
  | '-' :: body =>
    match prefixed? body with
    | some n => some n
    | none => if isPadded body then none else digitsOf? 10 body
  | _ => none

/-- How a text is read as an integer. -/
inductive IntegerReading
  | no
  /-- It is one that 64 bits do not hold. -/
  | tooWide
  | is (n : Int)

def integerOf (s : String) : IntegerReading :=
  match unsigned? s, negative? s with
  | some n, _ => if n < Nat.pow 2 64 then .is n else if n < Nat.pow 2 128 then .tooWide else .no
  | none, some n => if n ≤ Nat.pow 2 63 then .is (-n) else if n ≤ Nat.pow 2 127 then .tooWide else .no
  | none, none => .no

/-- A float; infinities and not-a-number have spellings of their own. -/
def floatOf? (s : String) : Option Float :=
  let body? := match s.toList with
    | '+' :: rest => if isSign rest.head? then none else some (String.ofList rest)
    | _ => some s
  body?.bind fun body =>
    match body, s with
    | ".inf", _ | ".Inf", _ | ".INF", _ => some (1.0 / 0.0)
    | _, "-.inf" | _, "-.Inf" | _, "-.INF" => some (-1.0 / 0.0)
    | _, ".nan" | _, ".NaN" | _, ".NAN" => some (0.0 / 0.0)
    | body, _ =>
      match readFloat body with
      | .ok x => if x.isFinite then some x else none
      | .error _ => none

/-- A plain scalar without a tag. An integer that 64 bits do not hold means nothing. -/
def plainScalar? (s : String) : Option Document :=
  if s.isEmpty || isNullText s then some .null
  else match boolOf? s with
    | some b => some (.bool b)
    | none => match integerOf s with
      | .is n => some (.int n)
      | .tooWide => none
      | .no =>
        if isPadded s.toList then some (.string s)
        else match floatOf? s with
          | some x => some (.float x)
          | none => some (.string s)

/-- A tag that only an application knows. -/
def isLocal : Option String → Bool
  | some t => t.startsWith "!"
  | none => false

def commonTag (name : String) : String := "tag:yaml.org,2002:" ++ name

/-- A scalar that must be what its tag says. -/
def taggedScalar? (s tag : String) : Option Document :=
  if tag == commonTag "bool" then (boolOf? s).map .bool
  else if tag == commonTag "int" then
    match integerOf s with
    | .is n => some (.int n)
    | _ => none
  else if tag == commonTag "float" then (floatOf? s).map .float
  else if tag == commonTag "null" then if isNullText s then some .null else none
  else if isLocal (some tag) then none
  else some (.string s)

def scalarDocument? (s : String) (style : Style) : Option String → Option Document
  | some tag => taggedScalar? s tag
  | none => if style == .plain then plainScalar? s else some (.string s)

/-- A member's key as a value says it. -/
def keyOf : Document → Key
  | .string s => .name s
  | .int n => if 0 ≤ n then .place n.toNat else .other
  | _ => .other

namespace Stream

/-- The node that stands where an alias is. -/
def resolve? (s : Stream) : Node → Option Node
  | .alias target => s.marked.lookup target
  | n => some n

/-- A node with at most `levels` levels of lists and tables. -/
def document? (s : Stream) : Nat → Node → Option Document
  | 0, n => do
    match ← s.resolve? n with
    | .scalar text style tag => scalarDocument? text style tag
    | _ => none
  | levels + 1, n => do
    match ← s.resolve? n with
    | .scalar text style tag => scalarDocument? text style tag
    | .list tag items =>
      if isLocal tag then none
      return .list (← items.mapM (document? s levels))
    | .table tag members =>
      if isLocal tag then none
      let read ← members.mapM fun (k, v) => do
        return (keyOf (← document? s levels k), ← document? s levels v)
      return .table read
    | .alias _ => none

/-- A count, or nothing. -/
def plainScalarDocument? (text : String) (style : Style) (tag : Option String) : Option Document :=
  let isNull := match tag with
    | none => style == Style.plain && (text.isEmpty || isNullText text)
    | some t => t == commonTag "null" && style == Style.plain && isNullText text
  if isNull then some .null
  else if style == Style.plain || (style == Style.literal && tag == some (commonTag "int")) then
    match unsigned? text with
    | some n => some (.int n)
    | none => if text.isEmpty && style == Style.plain then some (.table []) else none
  else none

/-- The name of a member, however it is spelled. -/
def nameOf? (s : Stream) (n : Node) : Option String := do
  match ← s.resolve? n with
  | .scalar text _ _ => return text
  | _ => none

/-- A node that holds counts, with at most `levels` levels of lists and tables. -/
def plainDocument? (s : Stream) : Nat → Node → Option Document
  | 0, n => do
    match ← s.resolve? n with
    | .scalar text style tag => plainScalarDocument? text style tag
    | _ => none
  | levels + 1, n => do
    match ← s.resolve? n with
    | .scalar text style tag => plainScalarDocument? text style tag
    | .list _ items => return .list (← items.mapM (plainDocument? s levels))
    | .table _ members =>
      let read ← members.mapM fun (k, v) => do
        return (Key.name (← s.nameOf? k), ← plainDocument? s levels v)
      return .table read
    | .alias _ => none

/-- The deepest nesting that is read. -/
def maxLevels : Nat := 128

/-- The outermost layer as a structure with fields in order, of which those in `counts` hold
counts. -/
def layer? (s : Stream) (fields counts : List String) : Option Layer := do
  let member (name : String) (n : Node) : Option Document :=
    if counts.contains name then s.plainDocument? (maxLevels - 1) n
    else s.document? (maxLevels - 1) n
  match ← s.root.bind s.resolve? with
  | .table _ members =>
    let read ← members.mapM fun (k, v) => do
      let name ← s.nameOf? k
      return (Key.name name, member name v)
    return .table read
  | .list _ items =>
    return .list (items.zipIdx.map fun (n, i) => (fields[i]?).bind fun name => member name n)
  | _ => return .simple

/-- A text as a stream. -/
def ofGlyphs? (gs : List Glyph) : Option Stream := do
  ofTokens? (← tokens? (← wholeText? gs))

end Stream

end RowScript.Yaml
