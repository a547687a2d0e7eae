import RowScript.Text.EscapeTable

/-!
# Quoted texts

A text between double quotes, as a debugging print shows it: quotes, backslashes and the usual control
characters have short escapes, and every other character without a picture is written by its number.
-/

namespace RowScript

/-- Whether `n` is in one of the ascending ranges from index `lo` up to `hi`. At most `fuel`
halvings. -/
def inRanges (ranges : Array (Nat × Nat)) (n : Nat) : Nat → Nat → Nat → Bool
  | 0, _, _ => false
  | fuel + 1, lo, hi =>
    if hi ≤ lo then false
    else
      let mid := (lo + hi) / 2
      match ranges[mid]? with
      | none => false
      | some (first, last) =>
        if n < first then inRanges ranges n fuel lo mid
        else if n > last then inRanges ranges n fuel (mid + 1) hi
        else true

/-- Whether a quoted text writes the character by its number. -/
def isEscaped (c : Char) : Bool :=
  let n := c.toNat
  n < 0x20 || n == 0x7F || (n ≥ 0x80 && inRanges escapedRanges n 64 0 escapedRanges.size)

/-- Lower-case hexadecimal digits without leading zeros. -/
def hexText (n : Nat) : String := String.ofList (Nat.toDigits 16 n)

def quoteChar (c : Char) : String :=
  if c == '"' then "\\\""
  else if c == '\\' then "\\\\"
  else if c == '\n' then "\\n"
  else if c == '\r' then "\\r"
  else if c == '\t' then "\\t"
  else if c.toNat == 0 then "\\0"
  else if isEscaped c then "\\u\x7b" ++ hexText c.toNat ++ "\x7d"
  else String.singleton c

def quoteText (s : String) : String := "\"" ++ String.join (s.toList.map quoteChar) ++ "\""

/-- A single character between single quotes. -/
def quoteSingle (c : Char) : String :=
  if c == '\'' then "'\\''" else if c == '"' then "'\"'" else "'" ++ quoteChar c ++ "'"

end RowScript
