import RowScript.Text.CaseTable

/-!
# Upper and lower case

Full case mappings of texts, where one character can become several. A capital sigma at the end of a
word becomes the final small sigma.
-/

namespace RowScript

namespace CaseTable

/-- The shift of the run that holds `n`, zero if none does. -/
def shiftOf (runs : List (Nat × Nat × Nat × Int)) (n : Nat) : Int :=
  match runs.find? fun (first, last, step, _) => first ≤ n && n ≤ last && (n - first) % step == 0 with
  | some (_, _, _, shift) => shift
  | none => 0

def mapping (runs : List (Nat × Nat × Nat × Int)) (special : List (Nat × List Nat)) (c : Char) :
    List Char :=
  match special.lookup c.toNat with
  | some ns => ns.map Char.ofNat
  | none => [Char.ofNat (c.toNat + shiftOf runs c.toNat).toNat]

end CaseTable

def upperChars (c : Char) : List Char :=
  if c.toNat < 128 then [c.toUpper] else CaseTable.mapping CaseTable.upperRuns CaseTable.upperSpecial c

def lowerChars (c : Char) : List Char :=
  if c.toNat < 128 then [c.toLower] else CaseTable.mapping CaseTable.lowerRuns CaseTable.lowerSpecial c

/-- A letter with a case: one of its mappings changes it. -/
def isCased (c : Char) : Bool := upperChars c != [c] || lowerChars c != [c]

/-- Marks and points that do not end a word when the end of a word decides the form of sigma. -/
def isCaseIgnorable (c : Char) : Bool :=
  let n := c.toNat
  c == '\'' || c == '.' || c == ':' || c == '^' || n == 0x60 || n == 0xA8 || n == 0xAD || n == 0xAF ||
    n == 0xB4 || n == 0xB7 || n == 0xB8 || (0x300 ≤ n && n ≤ 0x36F) || n == 0x2019

/-- Whether the nearest character that counts is a cased letter. -/
def nextCased (cs : List Char) : Bool :=
  match cs.dropWhile isCaseIgnorable with
  | c :: _ => isCased c
  | [] => false

/-- Lower case of the rest of a text, given the characters before it, last first. -/
def lowerFrom (before : List Char) : List Char → List Char
  | [] => []
  | c :: rest =>
    let here :=
      if c.toNat == 0x3A3 then
        [Char.ofNat (if nextCased before && !nextCased rest then 0x3C2 else 0x3C3)]
      else lowerChars c
    here ++ lowerFrom (c :: before) rest

def toUpperCase (s : String) : String := String.ofList (s.toList.flatMap upperChars)

def toLowerCase (s : String) : String := String.ofList (lowerFrom [] s.toList)

/-- Equality of texts up to the case of ASCII letters. -/
def equalIgnoringCase (s t : String) : Bool := s.toList.map Char.toLower == t.toList.map Char.toLower

end RowScript
