import RowScript.Script.Operators
import RowScript.Text.Case
import RowScript.Decimal.Read

/-!
# Built-in functions on texts and characters

A built-in gives a value and may change what it was called on; a `Reply` holds both. Positions in
texts count characters, and a negative position counts from the end.
-/

namespace RowScript.Script

/-- What a built-in gives, and what became of the value it was called on. -/
structure Reply where
  value : Datum
  self : Datum
  deriving Inhabited

namespace Reply

/-- The value was not changed. -/
def keep (self value : Datum) : Option (Computed Reply) := some (.ok ⟨value, self⟩)

/-- The value was changed, and nothing is returned. -/
def change (self : Datum) : Option (Computed Reply) := some (.ok ⟨.unit, self⟩)

def both (value self : Datum) : Option (Computed Reply) := some (.ok ⟨value, self⟩)

def fault (cause : Cause) : Option (Computed Reply) := some (.error cause)

end Reply

open Reply

/-! ### Positions -/

/-- The place of an existing item, counted from the end if negative. -/
def itemIndex? (size : Nat) (i : Int) : Option Nat :=
  if i ≥ 0 then (if i.toNat < size then some i.toNat else none)
  else if i.natAbs ≤ size then some (size - i.natAbs) else none

/-- A place to start from, which is the end if it lies beyond it. -/
def startIndex (size : Nat) (i : Int) : Nat :=
  if i ≥ 0 then min i.toNat size else size - i.natAbs

/-- `count` items from `start` on. -/
def slice {α : Type} (xs : List α) (start count : Int) : List α :=
  (xs.drop (startIndex xs.length start)).take count.toNat

/-- The start and the count of a range; what lies before zero does not count. -/
def rangeBounds (first last : Int64) (closed : Bool) : Int × Int :=
  let start := max first.toInt 0
  let stop := max (last.toInt + if closed then 1 else 0) start
  (start, stop - start)

/-! ### Cutting texts -/

/-- Whether `sep` stands at the front, and what follows it. -/
def afterPrefix? : List Char → List Char → Option (List Char)
  | [], cs => some cs
  | _ :: _, [] => none
  | s :: sep, c :: cs => if s == c then afterPrefix? sep cs else none

/-- Cut at each occurrence of a separator that is not empty, into at most `pieces` parts. -/
def cutAt (sep : List Char) : Nat → Nat → List Char → List Char → List (List Char)
  | 0, _, acc, cs => [acc.reverse ++ cs]
  | _ + 1, _, acc, [] => [acc.reverse]
  | fuel + 1, pieces, acc, c :: cs =>
    if pieces ≤ 1 then [acc.reverse ++ (c :: cs)]
    else
      match afterPrefix? sep (c :: cs) with
      | some rest => acc.reverse :: cutAt sep fuel (pieces - 1) [] rest
      | none => cutAt sep fuel pieces (c :: acc) cs

/-- Cut a text at a separator; the empty separator stands between all characters and at both ends. -/
def splitText (s sep : String) (pieces : Nat) : List String :=
  let cs := s.toList
  if sep.isEmpty then
    let parts := [""] ++ cs.map String.singleton ++ [""]
    if parts.length ≤ pieces then parts
    else parts.take (pieces - 1) ++ [String.join (parts.drop (pieces - 1))]
  else (cutAt sep.toList (cs.length + 1) pieces [] cs).map String.ofList

/-- Replace each occurrence of a part. -/
def replaceText (s part new : String) : String :=
  String.intercalate new (splitText s part (s.length + 2))

/-- Cut at white space, without empty parts. -/
def splitWhite (s : String) : List String :=
  let (parts, word) := s.toList.foldl
    (fun (parts, word) c =>
      if isWhite c then (if word.isEmpty then parts else word.reverse :: parts, [])
      else (parts, c :: word))
    (([] : List (List Char)), ([] : List Char))
  ((if word.isEmpty then parts else word.reverse :: parts).reverse).map String.ofList

/-- The place of the first occurrence of `part`, from `i` on. -/
def findFrom (part : List Char) : Nat → List Char → Option Nat
  | i, [] => if part.isEmpty then some i else none
  | i, c :: cs => if (afterPrefix? part (c :: cs)).isSome then some i else findFrom part (i + 1) cs

/-- The place of `part` in a text from `start` on; -1 if there is none, or if the text is empty. -/
def indexOf (s part : String) (start : Int) : Int64 :=
  let cs := s.toList
  if cs.isEmpty || (start > 0 && start ≥ cs.length) then -1
  else
    let from_ := startIndex cs.length start
    match findFrom part.toList from_ (cs.drop from_) with
    | some i => Int64.ofNat i
    | none => -1

/-! ### Reading numbers -/

/-- An integer in a base from 2 to 36, without white space around it. -/
def parseRadix (s : String) (radix : Nat) : Except String Int64 :=
  let digit? (c : Char) : Option Nat :=
    let n := if c.isDigit then some (c.toNat - 48)
      else if 'a' ≤ c.toLower && c.toLower ≤ 'z' then some (c.toLower.toNat - 87) else none
    n.filter (· < radix)
  let read (negative : Bool) (ds : List Char) : Except String Int64 :=
    if ds.isEmpty || ds.any fun c => (digit? c).isNone then .error IntegerFault.invalidDigit.message
    else
      let n : Int := (ds.foldl (fun n c => n * radix + (digit? c).getD 0) 0 : Nat)
      let n := if negative then -n else n
      if n > Int64.maxValue.toInt then .error IntegerFault.tooLarge.message
      else if n < Int64.minValue.toInt then .error IntegerFault.tooSmall.message
      else .ok (Int64.ofInt n)
  match s.toList with
  | [] => .error IntegerFault.empty.message
  | '-' :: ds => read true ds
  | '+' :: ds => read false ds
  | ds => read false ds

def parseInt (s : String) (radix : Nat) : Computed Datum :=
  match parseRadix (trimWhite s) radix with
  | .ok n => .ok (.int n)
  | .error e => .error (.arithmetic ("Error parsing integer number '" ++ s ++ "': " ++ e))

def parseFloat (s : String) : Computed Datum :=
  match readFloat (trimWhite s) with
  | .ok x => .ok (.float x)
  | .error e =>
    .error (.arithmetic ("Error parsing floating-point number '" ++ s ++ "': " ++ e.message))

/-! ### The functions -/

/-- A part to look for: a text or a character. -/
def partText? : Datum → Option String
  | .string s => some s
  | .char c => some (String.singleton c)
  | _ => none

def texts (ss : List String) : Datum := .array (ss.map .string)

/-- Cut a text in two at a position. -/
def splitAtIndex (s : String) (i : Int) : List String :=
  let cs := s.toList
  let at_ := startIndex cs.length i
  [String.ofList (cs.take at_), String.ofList (cs.drop at_)]

/-- Functions called on a text. -/
def textBuiltin? (name s : String) (args : List Datum) : Option (Computed Reply) :=
  let self : Datum := .string s
  let cs := s.toList
  match name, args with
  | "len", [] => keep self (.int (Int64.ofNat cs.length))
  | "bytes", [] => keep self (.int (Int64.ofNat s.utf8ByteSize))
  | "is_empty", [] => keep self (.bool s.isEmpty)
  | "to_upper", [] => keep self (.string (toUpperCase s))
  | "to_lower", [] => keep self (.string (toLowerCase s))
  | "make_upper", [] => change (.string (toUpperCase s))
  | "make_lower", [] => change (.string (toLowerCase s))
  | "trim", [] => change (.string (trimWhite s))
  | "clear", [] => change (.string "")
  | "split", [] => keep self (texts (splitWhite s))
  | "pop", [] => match cs.reverse with
    | [] => keep self .unit
    | c :: rest => both (.char c) (.string (String.ofList rest.reverse))
  | "parse_int", [] => some ((parseInt s 10).map (⟨·, self⟩))
  | "parse_float", [] => some ((parseFloat s).map (⟨·, self⟩))
  | "contains", [part] =>
    (partText? part).bind fun p => keep self (.bool (findFrom p.toList 0 cs).isSome)
  | "starts_with", [.string p] => keep self (.bool (afterPrefix? p.toList cs).isSome)
  | "ends_with", [.string p] => keep self (.bool (afterPrefix? p.toList.reverse cs.reverse).isSome)
  | "index_of", [part] => (partText? part).bind fun p => keep self (.int (indexOf s p 0))
  | "index_of", [part, .int i] =>
    (partText? part).bind fun p => keep self (.int (indexOf s p i.toInt))
  | "sub_string", [.int i] => keep self (.string (String.ofList (slice cs i.toInt s.utf8ByteSize)))
  | "sub_string", [.int i, .int n] => keep self (.string (String.ofList (slice cs i.toInt n.toInt)))
  | "sub_string", [.range a b closed] =>
    let (i, n) := rangeBounds a b closed
    keep self (.string (String.ofList (slice cs i n)))
  | "crop", [.int i] => change (.string (String.ofList (slice cs i.toInt s.utf8ByteSize)))
  | "crop", [.int i, .int n] => change (.string (String.ofList (slice cs i.toInt n.toInt)))
  | "truncate", [.int n] => change (.string (String.ofList (cs.take n.toInt.toNat)))
  | "split", [.int i] => keep self (texts (splitAtIndex s i.toInt))
  | "split", [sep] => (partText? sep).bind fun p => keep self (texts (splitText s p (cs.length + 2)))
  | "split", [sep, .int n] =>
    (partText? sep).bind fun p => keep self (texts (splitText s p (max 1 n.toInt.toNat)))
  | "replace", [part, new] =>
    (partText? part).bind fun p => (partText? new).bind fun q => change (.string (replaceText s p q))
  | "remove", [part] => (partText? part).bind fun p => change (.string (removeText s p))
  | "append", [d] => change (.string (s ++ d.printText))
  | "get", [.int i] => match (itemIndex? cs.length i.toInt).bind (cs[·]?) with
    | some c => keep self (.char c)
    | none => keep self .unit
  | "parse_int", [.int radix] =>
    if radix < 2 || radix > 36 then
      fault (.arithmetic ("Invalid radix: '" ++ toString radix.toInt ++ "'"))
    else some ((parseInt s radix.toInt.toNat).map (⟨·, self⟩))
  | "max", [.string t] => keep self (.string (if s < t then t else s))
  | "min", [.string t] => keep self (.string (if t < s then t else s))
  | _, _ => none

/-- A mapping of case that keeps a character if it becomes several. -/
def singleCase (f : Char → List Char) (c : Char) : Char :=
  match f c with
  | [d] => d
  | _ => c

/-- Functions called on a character. -/
def charBuiltin? (name : String) (c : Char) (args : List Datum) : Option (Computed Reply) :=
  let self : Datum := .char c
  match name, args with
  | "to_upper", [] => keep self (.char (singleCase upperChars c))
  | "to_lower", [] => keep self (.char (singleCase lowerChars c))
  | "to_int", [] => keep self (.int (Int64.ofNat c.toNat))
  | "max", [.char d] => keep self (.char (if c < d then d else c))
  | "min", [.char d] => keep self (.char (if d < c then d else c))
  | _, _ => none

end RowScript.Script
