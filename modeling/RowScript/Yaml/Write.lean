import RowScript.Document
import RowScript.Text.Quoted

/-!
# Writing YAML

A document on one line, in brackets and braces. Every text is quoted, so that its spelling does not
change what it is.
-/

namespace RowScript.Yaml

/-- Digits of base sixteen, with zeros in front. -/
def hexDigits (width n : Nat) : String :=
  String.ofList ((Nat.toDigits 16 (Nat.pow 16 width + n)).drop 1)

/-- A character between quotes. Only characters of ASCII with a picture, letters and the like stand
for themselves. -/
def escapeChar (c : Char) : String :=
  let n := c.toNat
  if c == '"' then "\\\""
  else if c == '\\' then "\\\\"
  else if 0x20 ≤ n && n ≤ 0x7E then String.singleton c
  else if 0xA0 ≤ n && !isEscaped c then String.singleton c
  else if n < 0x100 then "\\x" ++ hexDigits 2 n
  else if n < 0x10000 then "\\u" ++ hexDigits 4 n
  else "\\U" ++ hexDigits 8 n

def stringText (s : String) : String := "\"" ++ String.join (s.toList.map escapeChar) ++ "\""

def floatText (x : Float) : String :=
  match Binary64.ofFloat x with
  | .finite .. => FloatLayout.canonical.render x
  | .infinite negative => if negative then "-.inf" else ".inf"
  | .nan => ".nan"

mutual

def flow : Document → String
  | .null => "null"
  | .bool b => if b then "true" else "false"
  | .int n => toString n
  | .float x => floatText x
  | .string s => stringText s
  | .list items => "[" ++ String.intercalate ", " (flowItems items) ++ "]"
  | .table members => "\x7b" ++ String.intercalate ", " (flowMembers members) ++ "\x7d"

def flowItems : List Document → List String
  | [] => []
  | d :: rest => flow d :: flowItems rest

/-- Every name is marked, because only a short one is recognised without. -/
def flowMembers : List (Key × Document) → List String
  | [] => []
  | (k, d) :: rest => ("? " ++ stringText k.text ++ " : " ++ flow d) :: flowMembers rest

end

/-- The text of a document. -/
def text (d : Document) : String := flow d ++ "\n"

end RowScript.Yaml
