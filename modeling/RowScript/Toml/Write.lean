import RowScript.Document

/-!
# Writing TOML

A document as lines: the simple members of a table first, then its tables under headers of their own.
TOML has no null, and its integers have 64 bits with a sign; a document beyond that has no text.
-/

namespace RowScript.Toml

def hexDigits (n : Nat) : String := String.ofList ((Nat.toDigits 16 (0x10000 + n)).drop 1)

def escapeChar (c : Char) : String :=
  let n := c.toNat
  if c == '"' then "\\\""
  else if c == '\\' then "\\\\"
  else if c == '\n' then "\\n"
  else if c == '\r' then "\\r"
  else if c == '\t' then "\\t"
  else if n < 0x20 || n == 0x7F then "\\u" ++ hexDigits n
  else String.singleton c

def stringText (s : String) : String := "\"" ++ String.join (s.toList.map escapeChar) ++ "\""

def isBareName (s : String) : Bool :=
  !s.isEmpty && s.toList.all fun c => c.isAlphanum || c == '_' || c == '-'

def nameText (s : String) : String := if isBareName s then s else stringText s

def floatText (x : Float) : String :=
  match Binary64.ofFloat x with
  | .finite .. => FloatLayout.canonical.render x
  | .infinite negative => if negative then "-inf" else "inf"
  | .nan => "nan"

/-! ### On one line -/

mutual

/-- A value on one line. -/
def inline? : Document → Option String
  | .null => none
  | .bool b => some (if b then "true" else "false")
  | .int n => if -Nat.pow 2 63 ≤ n ∧ n < Nat.pow 2 63 then some (toString n) else none
  | .float x => some (floatText x)
  | .string s => some (stringText s)
  | .list items => (inlineItems? items).map fun ts => "[" ++ String.intercalate ", " ts ++ "]"
  | .table members =>
    (inlineMembers? members).map fun ts => "\x7b " ++ String.intercalate ", " ts ++ " \x7d"

def inlineItems? : List Document → Option (List String)
  | [] => some []
  | d :: rest => do return (← inline? d) :: (← inlineItems? rest)

def inlineMembers? : List (Key × Document) → Option (List String)
  | [] => some []
  | (k, d) :: rest => do
    return (nameText k.text ++ " = " ++ (← inline? d)) :: (← inlineMembers? rest)

end

/-! ### Under headers -/

def isTable : Document → Bool
  | .table _ => true
  | _ => false

/-- A list of at least one table and nothing else. -/
def isTableList : Document → Bool
  | .list (d :: rest) => isTable d && rest.all isTable
  | _ => false

def header (opening closing : String) (path : List String) : String :=
  opening ++ String.intercalate "." (path.map nameText) ++ closing

/-- The lines of the members that need no header. -/
def simpleLines? : List (Key × Document) → Option (List String)
  | [] => some []
  | (k, d) :: rest =>
    if isTable d || isTableList d then simpleLines? rest
    else do return (nameText k.text ++ " = " ++ (← inline? d)) :: (← simpleLines? rest)

mutual

/-- The lines of the table at a path, its own header apart. -/
def tableLines? (path : List String) : Document → Option (List String)
  | .table members => do return (← simpleLines? members) ++ (← headedLines? path members)
  | _ => none

/-- The lines of the members with headers. -/
def headedLines? (path : List String) : List (Key × Document) → Option (List String)
  | [] => some []
  | (k, .table members) :: rest => do
    let path' := path ++ [k.text]
    let own ← tableLines? path' (.table members)
    return header "[" "]" path' :: own ++ (← headedLines? path rest)
  | (k, .list (d :: items)) :: rest => do
    let own ←
      if isTableList (.list (d :: items)) then repeatedLines? (path ++ [k.text]) (d :: items)
      else some []
    return own ++ (← headedLines? path rest)
  | _ :: rest => headedLines? path rest

/-- The lines of tables with the same header. -/
def repeatedLines? (path : List String) : List Document → Option (List String)
  | [] => some []
  | d :: rest => do
    let own ← tableLines? path d
    return header "[[" "]]" path :: own ++ (← repeatedLines? path rest)

end

/-- The text of a table. -/
def text? (d : Document) : Option String :=
  (tableLines? [] d).map fun ls => String.join (ls.map (· ++ "\n"))

end RowScript.Toml
