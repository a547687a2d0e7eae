import RowScript.Document

/-!
# Writing JSON

The compact text of a value, and the text of a document over several lines. A float without digits
has no JSON text and is written as `null`.
-/

namespace RowScript.Json

/-- A character inside a JSON string. -/
def escapeChar (c : Char) : String :=
  if c == '"' then "\\\""
  else if c == '\\' then "\\\\"
  else if c == '\n' then "\\n"
  else if c == '\r' then "\\r"
  else if c == '\t' then "\\t"
  else if c.toNat == 8 then "\\b"
  else if c.toNat == 12 then "\\f"
  else if c.toNat < 32 then
    "\\u" ++ String.ofList (Nat.toDigits 16 (0x10000 + c.toNat) |>.drop 1)
  else String.singleton c

def stringText (s : String) : String := "\"" ++ String.join (s.toList.map escapeChar) ++ "\""

def floatText (x : Float) : String :=
  match Binary64.ofFloat x with
  | .finite .. => FloatLayout.json.render x
  | _ => "null"

mutual

/-- The compact text of a value. -/
def compact : Value → String
  | .null => "null"
  | .bool b => if b then "true" else "false"
  | .int n => toString n.toInt
  | .float x => floatText x
  | .string s => stringText s
  | .array items => "[" ++ String.intercalate "," (compactItems items) ++ "]"
  | .object entries => "\x7b" ++ String.intercalate "," (compactEntries entries) ++ "\x7d"

def compactItems : List Value → List String
  | [] => []
  | v :: rest => compact v :: compactItems rest

def compactEntries : List (String × Value) → List String
  | [] => []
  | (k, v) :: rest => (stringText k ++ ":" ++ compact v) :: compactEntries rest

end

/-- Two spaces for each level. -/
def indentation (level : Nat) : String := String.ofList (List.replicate (2 * level) ' ')

/-- Parts between brackets, each on a line of its own. -/
def block (opening closing : String) (level : Nat) (parts : List String) : String :=
  if parts.isEmpty then opening ++ closing
  else
    opening ++ "\n" ++
      String.intercalate ",\n" (parts.map fun p => indentation (level + 1) ++ p) ++
      "\n" ++ indentation level ++ closing

mutual

/-- The text of a document over several lines, its first line at some level. -/
def pretty (level : Nat) : Document → String
  | .null => "null"
  | .bool b => if b then "true" else "false"
  | .int n => toString n
  | .float x => floatText x
  | .string s => stringText s
  | .list items => block "[" "]" level (prettyItems (level + 1) items)
  | .table members => block "\x7b" "\x7d" level (prettyMembers (level + 1) members)

def prettyItems (level : Nat) : List Document → List String
  | [] => []
  | d :: rest => pretty level d :: prettyItems level rest

def prettyMembers (level : Nat) : List (Key × Document) → List String
  | [] => []
  | (k, d) :: rest => (stringText k.text ++ ": " ++ pretty level d) :: prettyMembers level rest

end

end RowScript.Json
