/-!
# Dates and times in TOML

A date, a time, or both with an offset, and the one text that each is shown by.
-/

namespace RowScript.Toml

/-- What is left of a text, as a list of its characters. -/
abbrev Rest := List Char

structure Date where
  year : Nat
  month : Nat
  day : Nat

structure Time where
  hour : Nat
  minute : Nat
  second : Nat
  nanosecond : Nat

/-- A place on the clock relative to the common time. -/
inductive Offset
  | utc
  | minutes (negative : Bool) (n : Nat)

structure DateTime where
  date : Option Date := none
  time : Option Time := none
  offset : Option Offset := none

/-- How a reader ends: with a value, without having found what it looks for, or at a fault, after which
nothing else is tried. -/
inductive Found (α : Type)
  | yes (a : α) (rest : Rest)
  | no
  | fault

namespace Found

def bind (x : Found α) (f : α → Rest → Found β) : Found β :=
  match x with
  | yes a rest => f a rest
  | no => no
  | fault => fault

/-- From here on it must be there. -/
def must : Found α → Found α
  | no => fault
  | x => x

/-- What is found, or else what `other` finds. -/
def orElse (x : Found α) (other : Unit → Found α) : Found α :=
  match x with
  | no => other ()
  | x => x

end Found

/-- Exactly so many digits. -/
def number (width : Nat) (cs : Rest) : Found Nat :=
  let ds := cs.take width
  if ds.length == width && ds.all Char.isDigit then
    .yes (ds.foldl (fun n d => n * 10 + (d.toNat - '0'.toNat)) 0) (cs.drop width)
  else .no

/-- Two digits up to a limit. -/
def twoDigits (low high : Nat) (cs : Rest) : Found Nat :=
  (number 2 cs).bind fun n rest => if low ≤ n ∧ n ≤ high then .yes n rest else .no

def char (c : Char) : Rest → Found Unit
  | d :: rest => if c == d then .yes () rest else .no
  | [] => .no

def isLeapYear (year : Nat) : Bool := year % 4 == 0 && (year % 100 != 0 || year % 400 == 0)

def daysIn (year month : Nat) : Nat :=
  if month == 2 then if isLeapYear year then 29 else 28
  else if month == 4 || month == 6 || month == 9 || month == 11 then 30
  else 31

def date (cs : Rest) : Found Date :=
  (number 4 cs).bind fun year rest =>
  (char '-' rest).bind fun _ rest =>
  (twoDigits 1 12 rest).must.bind fun month rest =>
  (char '-' rest).must.bind fun _ rest =>
  (twoDigits 1 31 rest).must.bind fun day rest =>
  if day ≤ daysIn year month then .yes ⟨year, month, day⟩ rest else .fault

/-- Parts of a second, of which nine digits count. -/
def fraction : Rest → Nat × Rest
  | '.' :: rest =>
    let ds := rest.takeWhile Char.isDigit
    if ds.isEmpty then (0, '.' :: rest)
    else
      let nine := (ds ++ List.replicate 9 '0').take 9
      (nine.foldl (fun n d => n * 10 + (d.toNat - '0'.toNat)) 0, rest.drop ds.length)
  | rest => (0, rest)

def time (cs : Rest) : Found Time :=
  (twoDigits 0 23 cs).bind fun hour rest =>
  (char ':' rest).bind fun _ rest =>
  (twoDigits 0 59 rest).must.bind fun minute rest =>
  (char ':' rest).must.bind fun _ rest =>
  (twoDigits 0 60 rest).must.bind fun second rest =>
  let (nanosecond, rest) := fraction rest
  .yes ⟨hour, minute, second, nanosecond⟩ rest

def offset : Rest → Found Offset
  | 'Z' :: rest | 'z' :: rest => .yes .utc rest
  | sign :: rest =>
    if sign == '+' || sign == '-' then
      (twoDigits 0 23 rest).must.bind fun hour rest =>
      (char ':' rest).must.bind fun _ rest =>
      (twoDigits 0 59 rest).must.bind fun minute rest =>
      .yes (.minutes (sign == '-') (hour * 60 + minute)) rest
    else .no
  | [] => .no

/-- A date, perhaps with a time and an offset, or a time. -/
def dateTime (cs : Rest) : Found DateTime :=
  match date cs with
  | .fault => .fault
  | .no => (time cs).bind fun t rest => .yes { time := some t } rest
  | .yes d rest =>
    match rest with
    | c :: after =>
      if c == 'T' || c == 't' || c == ' ' then
        match time after with
        | .fault => .fault
        | .no => .yes { date := some d } rest
        | .yes t rest =>
          match offset rest with
          | .fault => .fault
          | .no => .yes { date := some d, time := some t } rest
          | .yes o rest => .yes ⟨some d, some t, some o⟩ rest
      else .yes { date := some d } rest
    | [] => .yes { date := some d } rest

/-! ### Texts -/

/-- A number with zeros in front. -/
def padded (width n : Nat) : String :=
  let ds := Nat.toDigits 10 n
  String.ofList (List.replicate (width - ds.length) '0' ++ ds)

def Date.text (d : Date) : String := padded 4 d.year ++ "-" ++ padded 2 d.month ++ "-" ++ padded 2 d.day

def Time.text (t : Time) : String :=
  let places := (padded 9 t.nanosecond).toList.reverse.dropWhile (· == '0')
  padded 2 t.hour ++ ":" ++ padded 2 t.minute ++ ":" ++ padded 2 t.second ++
    if places.isEmpty then "" else "." ++ String.ofList places.reverse

def Offset.text : Offset → String
  | utc => "Z"
  | minutes negative n =>
    (if negative && n != 0 then "-" else "+") ++ padded 2 (n / 60) ++ ":" ++ padded 2 (n % 60)

def DateTime.text (t : DateTime) : String :=
  let date := (t.date.map Date.text).getD ""
  let time := (t.time.map Time.text).getD ""
  let joint := if t.date.isSome && t.time.isSome then "T" else ""
  date ++ joint ++ time ++ (t.offset.map Offset.text).getD ""

end RowScript.Toml
