import RowScript.Decimal.Read
import RowScript.Document
import RowScript.Toml.DateTime

/-!
# Values in TOML

Strings, numbers, truth values and dates. Each reader takes what it knows from the front of a text.
-/

namespace RowScript.Toml

/-! ### Blanks -/

def isBlank (c : Char) : Bool := c == ' ' || c == '\t'

def skipBlank (cs : Rest) : Rest := cs.dropWhile isBlank

/-- The rest after a line break. -/
def newline? : Rest → Option Rest
  | '\n' :: rest => some rest
  | '\r' :: '\n' :: rest => some rest
  | _ => none

/-- A character of a comment. -/
def isCommentChar (c : Char) : Bool := c == '\t' || (0x20 ≤ c.toNat && c.toNat != 0x7F)

def skipComment : Rest → Rest
  | '#' :: rest => rest.dropWhile isCommentChar
  | rest => rest

/-- Pass over blanks, comments and line breaks. -/
def skipLines : Nat → Rest → Rest
  | 0, cs => cs
  | fuel + 1, cs =>
    let cs := skipComment (skipBlank cs)
    match newline? cs with
    | some rest => skipLines fuel rest
    | none => cs

/-! ### Strings -/

def hexDigit? (c : Char) : Option Nat :=
  if '0' ≤ c ∧ c ≤ '9' then some (c.toNat - '0'.toNat)
  else if 'a' ≤ c ∧ c ≤ 'f' then some (c.toNat - 'a'.toNat + 10)
  else if 'A' ≤ c ∧ c ≤ 'F' then some (c.toNat - 'A'.toNat + 10)
  else none

/-- The character with a number given by so many hexadecimal digits. -/
def hexChar? (width : Nat) (cs : Rest) : Option (Char × Rest) := do
  let ds := cs.take width
  if ds.length != width then none
  let n ← ds.foldlM (fun n c => (hexDigit? c).map (n * 16 + ·)) 0
  if n.isValidChar then return (Char.ofNat n, cs.drop width) else none

/-- What follows a backslash. -/
def escape? : Rest → Option (Char × Rest)
  | 'b' :: rest => some ('\x08', rest)
  | 'f' :: rest => some ('\x0c', rest)
  | 'n' :: rest => some ('\n', rest)
  | 'r' :: rest => some ('\r', rest)
  | 't' :: rest => some ('\t', rest)
  | '"' :: rest => some ('"', rest)
  | '\\' :: rest => some ('\\', rest)
  | 'u' :: rest => hexChar? 4 rest
  | 'U' :: rest => hexChar? 8 rest
  | _ => none

/-- A character that stands for itself in a string. -/
def isPlainChar (c : Char) : Bool := c == '\t' || (0x20 ≤ c.toNat && c.toNat != 0x7F)

/-- A string of one line after its quote, with escapes unless it is `literal`. -/
def line? (literal : Bool) : Nat → List Char → Rest → Option (List Char × Rest)
  | 0, _, _ => none
  | fuel + 1, acc, cs =>
    match cs with
    | [] => none
    | c :: rest =>
      if c == (if literal then '\'' else '"') then some (acc.reverse, rest)
      else if c == '\\' && !literal then do
        let (e, rest) ← escape? rest
        line? literal fuel (e :: acc) rest
      else if isPlainChar c then line? literal fuel (c :: acc) rest
      else none

/-- A hidden line break: blanks, at least one break, and all blanks and breaks after it. -/
def hiddenBreak? (cs : Rest) : Option Rest :=
  (newline? (skipBlank cs)).map fun rest =>
    let rec go : Nat → Rest → Rest
      | 0, cs => cs
      | fuel + 1, cs =>
        let cs := skipBlank cs
        match newline? cs with
        | some rest => go fuel rest
        | none => cs
    go (rest.length + 1) rest

/-- A string of several lines after its three quotes. Up to two quotes can stand before the closing
ones. -/
def lines? (literal : Bool) : Nat → List Char → Rest → Option (List Char × Rest)
  | 0, _, _ => none
  | fuel + 1, acc, cs =>
    let quote := if literal then '\'' else '"'
    match cs with
    | [] => none
    | c :: rest =>
      if c == quote then
        let quotes := (cs.takeWhile (· == quote)).length
        if quotes < 3 then lines? literal fuel (c :: acc) rest
        else
          let own := min (quotes - 3) 2
          some (acc.reverse ++ List.replicate own quote, cs.drop (own + 3))
      else if c == '\\' && !literal then
        match hiddenBreak? rest with
        | some rest => lines? literal fuel acc rest
        | none => do
          let (e, rest) ← escape? rest
          lines? literal fuel (e :: acc) rest
      else match newline? cs with
        | some rest => lines? literal fuel ('\n' :: acc) rest
        | none => if isPlainChar c then lines? literal fuel (c :: acc) rest else none

/-- A string after its first quote. -/
def string? (literal : Bool) (cs : Rest) : Option (String × Rest) :=
  let quote := if literal then '\'' else '"'
  let read := match cs with
    | a :: b :: rest =>
      if a == quote && b == quote then
        lines? literal (rest.length + 1) [] ((newline? rest).getD rest)
      else line? literal (cs.length + 1) [] cs
    | _ => line? literal (cs.length + 1) [] cs
  read.map fun (s, rest) => (String.ofList s, rest)

/-! ### Numbers -/

/-- Digits of a kind; an underscore can stand between two of them. -/
def digitRun (isDigit : Char → Bool) : Rest → List Char × Rest
  | [] => ([], [])
  | c :: rest =>
    if isDigit c then
      let (ds, rest) := digitRun isDigit rest
      (c :: ds, rest)
    else if c == '_' && rest.head?.any isDigit then
      digitRun isDigit rest
    else ([], c :: rest)

/-- At least one digit at the front. -/
def digits (isDigit : Char → Bool) (cs : Rest) : Found (List Char) :=
  if cs.head?.any isDigit then
    let (ds, rest) := digitRun isDigit cs
    .yes ds rest
  else .no

def sign : Rest → Bool × Rest
  | '-' :: rest => (true, rest)
  | '+' :: rest => (false, rest)
  | rest => (false, rest)

/-- A whole number, which begins with a zero only if it is zero. -/
def whole (cs : Rest) : Found (List Char) :=
  match cs with
  | '0' :: rest => .yes ['0'] rest
  | cs => digits Char.isDigit cs

def exponent : Rest → Found (Bool × List Char)
  | c :: rest =>
    if c == 'e' || c == 'E' then
      let (negative, rest) := sign rest
      (digits Char.isDigit rest).bind fun ds rest => .yes (negative, ds) rest
    else .no
  | [] => .no

/-- The float of its digits. One that is too large is refused, unless it is negative. -/
def floatOf (negative : Bool) (ds places : List Char) (e : Bool × List Char) : Option Float :=
  let power : Int := if e.1 then -(Digits.value e.2) else Digits.value e.2
  let x := floatOfDecimal negative (Digits.value (ds ++ places)) (power - places.length)
  if x.isInf && !negative then none else some x

def float (cs : Rest) : Found Float :=
  let (negative, rest) := sign cs
  let done (ds places : List Char) (e : Bool × List Char) (rest : Rest) : Found Float :=
    match floatOf negative ds places e with
    | some x => .yes x rest
    | none => .fault
  let numeric := (whole rest).bind fun ds rest =>
    match rest with
    | '.' :: after =>
      (digits Char.isDigit after).must.bind fun places rest =>
        match exponent rest with
        | .yes e rest => done ds places e rest
        | _ => done ds places (false, ['0']) rest
    | rest => (exponent rest).bind fun e rest => done ds [] e rest
  numeric.orElse fun _ =>
    match rest with
    | 'i' :: 'n' :: 'f' :: rest => .yes (if negative then -1.0 / 0.0 else 1.0 / 0.0) rest
    | 'n' :: 'a' :: 'n' :: rest => .yes (0.0 / 0.0) rest
    | _ => .no

def based (base : Nat) (cs : Rest) : Found Int :=
  let isDigit (c : Char) : Bool := (hexDigit? c).any (· < base)
  (digits isDigit cs).must.bind fun ds rest =>
    let n := ds.foldl (fun n c => n * base + (hexDigit? c).getD 0) 0
    if n < Nat.pow 2 63 then .yes (n : Int) rest else .fault

def integer (cs : Rest) : Found Int :=
  match cs with
  | '0' :: 'x' :: rest => based 16 rest
  | '0' :: 'o' :: rest => based 8 rest
  | '0' :: 'b' :: rest => based 2 rest
  | cs =>
    let (negative, rest) := sign cs
    (whole rest).bind fun ds rest =>
      let n : Int := if negative then -(Digits.value ds) else Digits.value ds
      if -Nat.pow 2 63 ≤ n ∧ n < Nat.pow 2 63 then .yes n rest else .fault

/-- The name under which a date is found where no other kind of value can hold it. -/
def dateTimeKey : String := "$__toml_private_datetime"

/-- A value that begins with a sign or a digit. -/
def numeral? (cs : Rest) : Option (Document × Rest) :=
  let found : Found Document :=
    ((dateTime cs).bind fun t rest => .yes (.table [(.name dateTimeKey, .string t.text)]) rest).orElse
      fun _ => ((float cs).bind fun x rest => .yes (.float x) rest).orElse
      fun _ => (integer cs).bind fun n rest => .yes (.int n) rest
  match found with
  | .yes d rest => some (d, rest)
  | _ => none

/-- A value that holds no others. -/
def simple? : Rest → Option (Document × Rest)
  | '"' :: rest => (string? false rest).map fun (s, rest) => (.string s, rest)
  | '\'' :: rest => (string? true rest).map fun (s, rest) => (.string s, rest)
  | 't' :: 'r' :: 'u' :: 'e' :: rest => some (.bool true, rest)
  | 'f' :: 'a' :: 'l' :: 's' :: 'e' :: rest => some (.bool false, rest)
  | 'i' :: 'n' :: 'f' :: rest => some (.float (1.0 / 0.0), rest)
  | 'n' :: 'a' :: 'n' :: rest => some (.float (0.0 / 0.0), rest)
  | c :: rest => if c == '+' || c == '-' || c.isDigit then numeral? (c :: rest) else none
  | [] => none

/-! ### Keys -/

def isBareChar (c : Char) : Bool := c.isAlphanum || c == '_' || c == '-'

/-- One name. -/
def name? : Rest → Option (String × Rest)
  | '"' :: rest => (line? false (rest.length + 1) [] rest).map fun (s, rest) => (String.ofList s, rest)
  | '\'' :: rest => (line? true (rest.length + 1) [] rest).map fun (s, rest) => (String.ofList s, rest)
  | cs =>
    let bare := cs.takeWhile isBareChar
    if bare.isEmpty then none else some (String.ofList bare, cs.drop bare.length)

/-- The most names in one key, and the deepest nesting of values. -/
def maxDepth : Nat := 79

/-- Names with periods between them. -/
def names? : Nat → Rest → Option (List String × Rest)
  | 0, _ => none
  | fuel + 1, cs => do
    let (first, rest) ← name? (skipBlank cs)
    let rest := skipBlank rest
    match rest with
    | '.' :: rest =>
      let (others, rest) ← names? fuel rest
      return (first :: others, rest)
    | rest => return ([first], rest)

def key? (cs : Rest) : Option (List String × Rest) := names? maxDepth cs

end RowScript.Toml
