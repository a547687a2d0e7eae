import Mathlib.Algebra.Group.Int.Defs
import Mathlib.Data.List.DropRight
import RowScript.Error
import RowScript.Proofs.Numerals

/-!
# Cells of a type

What the text of a cell is read as.

* `trimWhite` takes away the white space at both ends and nothing else (`trims_iff`).
* `Digits.read` reads the numerals that denote a number of the range, each as that number
  (`Digits.read_eq_ok_iff`): the number read so far only grows, so digits that leave the range never
  come back into it (`Digits.readFrom_eq_ok`, `Digits.readFrom_beyond`).
* A value that a row shows as its canonical text is read back from that text, whatever white space
  stands around it (`parse_text_int`, `parse_text_bool`).

`ColumnType.reads_exactly` puts these together.
-/

namespace RowScript

/-! ### White space around a text -/

/-- Nothing but white space. -/
def AllWhite (s : String) : Prop := ∀ c ∈ s.toList, isWhite c

instance (s : String) : Decidable (AllWhite s) :=
  decidable_of_iff (s.toList.all isWhite) List.all_eq_true

/-- `body` is what is left of `raw` without the white space at its ends. -/
structure Trims (raw : String) (body : List Char) : Prop where
  between : ∃ lead trail, raw.toList = lead ++ body ++ trail ∧
    (∀ c ∈ lead, isWhite c) ∧ ∀ c ∈ trail, isWhite c
  first : ∀ c, body.head? = some c → isWhite c = false
  last : ∀ c, body.getLast? = some c → isWhite c = false

theorem dropWhile_white {lead body : List Char} (hlead : ∀ c ∈ lead, isWhite c)
    (hbody : ∀ c, body.head? = some c → isWhite c = false) :
    (lead ++ body).dropWhile isWhite = body := by
  rw [List.dropWhile_append_of_pos hlead]
  cases body with
  | nil => rfl
  | cons c rest => exact List.dropWhile_cons_of_neg (by simp [hbody c rfl])

theorem head?_dropWhile_white (cs : List Char) (c : Char)
    (h : (cs.dropWhile isWhite).head? = some c) : isWhite c = false := by
  have hnot := List.head?_dropWhile_not isWhite cs
  rw [h] at hnot
  exact hnot

theorem Trims.eq {raw : String} {body : List Char} (h : Trims raw body) :
    (trimWhite raw).toList = body := by
  obtain ⟨⟨lead, trail, hraw, hlead, htrail⟩, hfirst, hlast⟩ := h
  have htrail' : ∀ c ∈ trail.reverse, isWhite c := by simpa using htrail
  rw [trimWhite, hraw, String.toList_ofList, List.append_assoc]
  by_cases hbody : body = []
  · subst hbody
    have hall : ∀ c ∈ lead ++ ([] ++ trail), isWhite c := by
      intro c hc
      rcases List.mem_append.mp hc with hc | hc
      · exact hlead c hc
      · exact htrail c hc
    rw [List.dropWhile_eq_nil_iff.mpr hall]
    rfl
  · have hhead : ∀ c, (body ++ trail).head? = some c → isWhite c = false := by
      rw [List.head?_append_of_ne_nil _ hbody]
      exact hfirst
    have hback : ∀ c, body.reverse.head? = some c → isWhite c = false := by
      rw [List.head?_reverse]
      exact hlast
    rw [dropWhile_white hlead hhead, List.reverse_append, dropWhile_white htrail' hback,
      List.reverse_reverse]

theorem trims_trimWhite (raw : String) : Trims raw (trimWhite raw).toList := by
  let rest := raw.toList.dropWhile isWhite
  have htrimmed : (trimWhite raw).toList = rest.rdropWhile isWhite := String.toList_ofList
  rw [htrimmed]
  refine ⟨⟨raw.toList.takeWhile isWhite, rest.rtakeWhile isWhite, ?_, ?_, ?_⟩, ?_, ?_⟩
  · rw [List.append_assoc, List.rdropWhile_append_rtakeWhile, List.takeWhile_append_dropWhile]
  · exact fun c hc => List.mem_takeWhile_imp hc
  · exact fun c hc => List.mem_rtakeWhile_imp hc
  · intro c hc
    obtain ⟨more, hmore⟩ := List.rdropWhile_prefix isWhite rest
    refine head?_dropWhile_white raw.toList c ?_
    rw [show raw.toList.dropWhile isWhite = _ from hmore.symm, List.head?_append, hc]
    rfl
  · intro c hc
    rw [List.rdropWhile, List.getLast?_reverse] at hc
    exact head?_dropWhile_white _ c hc

theorem trims_iff {raw : String} {body : List Char} : Trims raw body ↔ (trimWhite raw).toList = body :=
  ⟨Trims.eq, fun h => h ▸ trims_trimWhite raw⟩

theorem trims_between {lead trail : String} {body : List Char} (hlead : AllWhite lead)
    (htrail : AllWhite trail) (hbody : ∀ c ∈ body, isWhite c = false) :
    Trims (lead ++ String.ofList body ++ trail) body where
  between := ⟨lead.toList, trail.toList, by simp, hlead, htrail⟩
  first c hc := hbody c (List.mem_of_mem_head? hc)
  last c hc := hbody c (List.mem_of_getLast? hc)

/-! ### Integers -/

/-- The integer that an optional sign and digits denote. -/
inductive Numeral : List Char → Int → Prop
  | plain {ds} (h : IsDigits ds) : Numeral ds (Nat.ofDigitChars 10 ds 0)
  | plus {ds} (h : IsDigits ds) : Numeral ('+' :: ds) (Nat.ofDigitChars 10 ds 0)
  | minus {ds} (h : IsDigits ds) : Numeral ('-' :: ds) (-(Nat.ofDigitChars 10 ds 0 : Int))

namespace Digits

/-- A number with its sign. -/
def signed (negative : Bool) (n : Nat) : Int := if negative then -(n : Int) else n

theorem signed_step (negative : Bool) (n d : Nat) :
    (if negative then signed negative n * 10 - d else signed negative n * 10 + d) =
      signed negative (10 * n + d) := by
  unfold signed
  cases negative <;> simp <;> omega

variable {lo hi : Int}

theorem readFrom_eq_ok {negative : Bool} {cs : List Char} {n : Nat} {z : Int}
    (hrange : lo ≤ signed negative n ∧ signed negative n ≤ hi)
    (h : readFrom lo hi negative (signed negative n) cs = .ok z) :
    (∀ c ∈ cs, c.isDigit) ∧ z = signed negative (Nat.ofDigitChars 10 cs n) ∧ lo ≤ z ∧ z ≤ hi := by
  induction cs generalizing n with
  | nil =>
    cases h
    exact ⟨by simp, rfl, hrange⟩
  | cons c rest ih =>
    rw [readFrom] at h
    cases hd : digitValue? c with
    | none =>
      rw [hd] at h
      cases h
    | some d =>
      obtain ⟨hdigit, rfl⟩ := isDigit_of_digitValue? hd
      simp only [hd, signed_step] at h
      by_cases hlo : signed negative (10 * n + (c.toNat - '0'.toNat)) < lo
      · rw [if_pos hlo] at h
        cases h
      · by_cases hhi : signed negative (10 * n + (c.toNat - '0'.toNat)) > hi
        · rw [if_neg hlo, if_pos hhi] at h
          cases h
        · rw [if_neg hlo, if_neg hhi] at h
          obtain ⟨hrest, hz, hbounds⟩ := ih ⟨by omega, by omega⟩ h
          refine ⟨List.forall_mem_cons.mpr ⟨hdigit, hrest⟩, ?_, hbounds⟩
          rw [hz, Nat.ofDigitChars_cons]

theorem readFrom_beyond {negative : Bool} {cs : List Char} (hcs : ∀ c ∈ cs, c.isDigit) {n : Nat}
    (hlo : lo ≤ 0) (hhi : 0 ≤ hi) (hrange : lo ≤ signed negative n ∧ signed negative n ≤ hi)
    (hbeyond : if negative then signed negative (Nat.ofDigitChars 10 cs n) < lo
      else hi < signed negative (Nat.ofDigitChars 10 cs n)) :
    readFrom lo hi negative (signed negative n) cs =
      .error (if negative then .tooSmall else .tooLarge) := by
  induction cs generalizing n with
  | nil => cases negative <;> simp [Nat.ofDigitChars] at hbeyond <;> omega
  | cons c rest ih =>
    obtain ⟨hdigit, hrest⟩ := List.forall_mem_cons.mp hcs
    rw [Nat.ofDigitChars_cons] at hbeyond
    rw [readFrom, digitValue?_of_isDigit hdigit]
    simp only [signed_step]
    generalize 10 * n + (c.toNat - '0'.toNat) = next at *
    cases negative with
    | true =>
      by_cases hsmall : signed true next < lo
      · rw [if_pos hsmall]
        rfl
      · rw [if_neg hsmall, if_neg (by simp only [signed, if_true]; omega)]
        exact ih hrest ⟨by omega, by simp only [signed, if_true]; omega⟩ hbeyond
    | false =>
      have hnot : ¬ signed false next < lo := by simp [signed]; omega
      by_cases hlarge : signed false next > hi
      · rw [if_neg hnot, if_pos hlarge]
        rfl
      · rw [if_neg hnot, if_neg hlarge]
        exact ih hrest ⟨by omega, by omega⟩ hbeyond

theorem readFrom_zero_eq_ok_iff (hlo : lo < 0) (hhi : 0 ≤ hi) {negative : Bool} {ds : List Char}
    {z : Int} : readFrom lo hi negative 0 ds = .ok z ↔
      (∀ c ∈ ds, c.isDigit) ∧ z = signed negative (Nat.ofDigitChars 10 ds 0) ∧ lo ≤ z ∧ z ≤ hi := by
  have hzero : signed negative 0 = 0 := by cases negative <;> rfl
  constructor
  · intro h
    rw [← hzero] at h
    exact readFrom_eq_ok (by rw [hzero]; omega) h
  · rintro ⟨hds, rfl, hrange⟩
    have hread := readFrom_digits hds 0 negative (Int.le_of_lt hlo) hhi (by
      cases negative
      · exact hrange.2
      · exact hrange.1)
    rwa [show (if negative then -((0 : Nat) : Int) else (0 : Nat)) = 0 from hzero] at hread

theorem read_plain {ds : List Char} (h : IsDigits ds) :
    read lo hi ds = readFrom lo hi false 0 ds := by
  obtain ⟨hne, hdigits⟩ := h
  cases ds with
  | nil => exact absurd rfl hne
  | cons c rest =>
    have hc := hdigits c List.mem_cons_self
    have hplus : c ≠ '+' := by
      rintro rfl
      cases hc
    have hminus : c ≠ '-' := by
      rintro rfl
      cases hc
    rw [read]
    all_goals simp [hplus, hminus]

theorem read_numeral (hlo : lo < 0) {cs : List Char} {z : Int} (h : Numeral cs z) :
    ∃ negative ds, IsDigits ds ∧ z = signed negative (Nat.ofDigitChars 10 ds 0) ∧
      read lo hi cs = readFrom lo hi negative 0 ds := by
  cases h with
  | plain h => exact ⟨false, cs, h, rfl, read_plain h⟩
  | @plus ds h =>
    refine ⟨false, ds, h, rfl, ?_⟩
    rw [read]
    exact h.1
  | @minus ds h =>
    refine ⟨true, ds, h, rfl, ?_⟩
    rw [read, if_pos hlo]
    exact h.1

/-- Numerals of the range are read as what they denote, and nothing else is read. -/
theorem read_eq_ok_iff (hlo : lo < 0) (hhi : 0 ≤ hi) {cs : List Char} {z : Int} :
    read lo hi cs = .ok z ↔ Numeral cs z ∧ lo ≤ z ∧ z ≤ hi := by
  constructor
  · intro h
    unfold read at h
    split at h
    · cases h
    · cases h
    · cases h
    · next rest hne =>
      obtain ⟨hdigits, rfl, hrange⟩ := (readFrom_zero_eq_ok_iff hlo hhi).mp h
      exact ⟨.plus ⟨hne, hdigits⟩, hrange⟩
    · next rest hne =>
      rw [if_pos hlo] at h
      obtain ⟨hdigits, rfl, hrange⟩ := (readFrom_zero_eq_ok_iff hlo hhi).mp h
      exact ⟨.minus ⟨hne, hdigits⟩, hrange⟩
    · next hne _ _ _ _ =>
      obtain ⟨hdigits, rfl, hrange⟩ := (readFrom_zero_eq_ok_iff hlo hhi).mp h
      exact ⟨.plain ⟨hne, hdigits⟩, hrange⟩
  · rintro ⟨hnumeral, hrange⟩
    obtain ⟨negative, ds, hds, rfl, hread⟩ := @read_numeral lo hi hlo cs z hnumeral
    rw [hread]
    exact (readFrom_zero_eq_ok_iff hlo hhi).mpr ⟨hds.2, rfl, hrange⟩

theorem read_beyond (hlo : lo < 0) (hhi : 0 ≤ hi) {cs : List Char} {z : Int} (h : Numeral cs z) :
    (hi < z → read lo hi cs = .error .tooLarge) ∧ (z < lo → read lo hi cs = .error .tooSmall) := by
  obtain ⟨negative, ds, hds, rfl, hread⟩ := @read_numeral lo hi hlo cs z h
  have hbeyond := @readFrom_beyond lo hi negative ds hds.2 0 (Int.le_of_lt hlo) hhi
  have hzero : signed negative 0 = 0 := by cases negative <;> rfl
  rw [hzero] at hbeyond
  rw [hread]
  -- a number that is not negative is not too small, and one that is not positive not too large
  cases negative with
  | true =>
    refine ⟨fun hz => ?_, fun hz => hbeyond (by omega) hz⟩
    simp only [signed, if_true] at hz
    omega
  | false =>
    refine ⟨fun hz => hbeyond (by omega) hz, fun hz => ?_⟩
    simp only [signed, Bool.false_eq_true, if_false] at hz
    omega

end Digits

/-! ### Integers of 64 bits -/

theorem toInt_minValue : Int64.minValue.toInt = -2 ^ 63 := by decide

theorem toInt_maxValue : Int64.maxValue.toInt = 2 ^ 63 - 1 := by decide

theorem readInt64_eq_ok_iff {s : String} {n : Int64} :
    readInt64 s = .ok n ↔ Numeral s.toList n.toInt := by
  have hiff {z : Int} := @Digits.read_eq_ok_iff Int64.minValue.toInt Int64.maxValue.toInt
    (by decide) (by decide) s.toList z
  unfold readInt64
  constructor
  · intro h
    cases hread : Digits.read Int64.minValue.toInt Int64.maxValue.toInt s.toList with
    | error fault =>
      rw [hread] at h
      cases h
    | ok z =>
      obtain ⟨hnumeral, hlo, hhi⟩ := hiff.mp hread
      rw [toInt_minValue] at hlo
      rw [toInt_maxValue] at hhi
      rw [hread] at h
      cases h
      rwa [Int64.toInt_ofInt_of_le hlo (by omega)]
  · intro h
    rw [hiff.mpr ⟨h, Int64.minValue_le_toInt n, Int64.toInt_le n⟩]
    exact congrArg Except.ok (Int64.ofInt_toInt n)

theorem readInt64_beyond {s : String} {z : Int} (h : Numeral s.toList z) :
    (2 ^ 63 - 1 < z → readInt64 s = .error .tooLarge) ∧
      (z < -2 ^ 63 → readInt64 s = .error .tooSmall) := by
  obtain ⟨hlarge, hsmall⟩ := @Digits.read_beyond Int64.minValue.toInt Int64.maxValue.toInt
    (by decide) (by decide) s.toList z h
  unfold readInt64
  refine ⟨fun hz => ?_, fun hz => ?_⟩
  · rw [hlarge (by rwa [toInt_maxValue])]
    rfl
  · rw [hsmall (by rwa [toInt_minValue])]
    rfl

theorem isWhite_of_isDigit {c : Char} (h : c.isDigit) : isWhite c = false := by
  simp only [Char.isDigit, Bool.and_eq_true, decide_eq_true_eq] at h
  have hlo : 48 ≤ c.toNat := h.1
  have hhi : c.toNat ≤ 57 := h.2
  simp [isWhite]
  omega

theorem isWhite_int (n : Int) : ∀ c ∈ (toString n).toList, isWhite c = false := by
  intro c hc
  have hdigit : ∀ c ∈ Nat.toDigits 10 n.natAbs, isWhite c = false :=
    fun c hc => isWhite_of_isDigit (Digits.isDigit_of_mem_toDigits c hc)
  rw [toList_toString_int] at hc
  split at hc
  · rcases List.mem_cons.mp hc with rfl | hc
    · rfl
    · exact hdigit c hc
  · exact hdigit c hc

/-! ### Cells -/

namespace ColumnType

theorem not_isEmpty {raw : String} (h : raw ≠ "") : ¬ raw.isEmpty = true := by
  simpa using h

section Integer

variable {raw : String} (h : raw ≠ "")
include h

theorem parse_integer_of_ok {n : Int64} (hread : readInt64 (trimWhite raw) = .ok n) :
    integer.parse raw = .ok (.int n) := by
  rw [parse, if_neg (not_isEmpty h)]
  simp only [hread]

theorem parse_integer_of_error {fault : IntegerFault}
    (hread : readInt64 (trimWhite raw) = .error fault) :
    integer.parse raw = .error (.integer raw fault) := by
  rw [parse, if_neg (not_isEmpty h)]
  simp only [hread]

theorem parse_integer_eq_ok_iff {n : Int64} :
    integer.parse raw = .ok (.int n) ↔ readInt64 (trimWhite raw) = .ok n := by
  refine ⟨fun hparse => ?_, parse_integer_of_ok h⟩
  cases hread : readInt64 (trimWhite raw) with
  | ok k =>
    rw [parse_integer_of_ok h hread] at hparse
    cases hparse
    rfl
  | error fault =>
    rw [parse_integer_of_error h hread] at hparse
    cases hparse

end Integer

/-- What a cell is read as at the type `integer`; `body` is its text without the white space around
it. -/
structure ReadsInteger (raw : String) (body : List Char) : Prop where
  empty : raw = "" → integer.parse raw = .ok .null
  /-- The integers that are read are those that the text denotes. -/
  exact : ∀ n : Int64, integer.parse raw = .ok (.int n) ↔ Numeral body n.toInt
  /-- Every number of 64 bits is read as itself. -/
  read : ∀ z, Numeral body z → -2 ^ 63 ≤ z → z ≤ 2 ^ 63 - 1 →
    integer.parse raw = .ok (.int (Int64.ofInt z)) ∧ (Int64.ofInt z).toInt = z
  /-- Any other text is a fault of the configuration, which quotes the cell with its white space. -/
  refused : raw ≠ "" → (∀ n : Int64, ¬ Numeral body n.toInt) → ∃ fault,
    integer.parse raw = .error (.integer raw fault) ∧
      (HostError.config (.cell (.integer raw fault))).message =
        "invalid configuration: '" ++ raw ++ "' is not an integer: " ++ fault.message
  white : raw ≠ "" → AllWhite raw → integer.parse raw = .error (.integer raw .empty)
  bareSign : body = ['+'] ∨ body = ['-'] → integer.parse raw = .error (.integer raw .invalidDigit)
  tooLarge : ∀ z, Numeral body z → 2 ^ 63 - 1 < z →
    integer.parse raw = .error (.integer raw .tooLarge)
  tooSmall : ∀ z, Numeral body z → z < -2 ^ 63 →
    integer.parse raw = .error (.integer raw .tooSmall)

theorem not_numeral_nil (z : Int) : ¬ Numeral [] z := by
  intro h
  cases h with
  | plain h => exact h.1 rfl

theorem readsInteger_empty : ReadsInteger "" [] where
  empty _ := rfl
  exact n := iff_of_false (by rw [show integer.parse "" = .ok .null from rfl]; simp)
    (not_numeral_nil _)
  read z h := absurd h (not_numeral_nil z)
  refused h := absurd rfl h
  white h := absurd rfl h
  bareSign h := by simp at h
  tooLarge z h := absurd h (not_numeral_nil z)
  tooSmall z h := absurd h (not_numeral_nil z)

theorem readsInteger_of_ne {raw : String} (hne : raw ≠ "") :
    ReadsInteger raw (trimWhite raw).toList where
  empty h := absurd h hne
  exact n := (parse_integer_eq_ok_iff hne).trans readInt64_eq_ok_iff
  read z h hlo hhi := by
    have hback : (Int64.ofInt z).toInt = z := Int64.toInt_ofInt_of_le hlo (by omega)
    refine ⟨parse_integer_of_ok hne (readInt64_eq_ok_iff.mpr ?_), hback⟩
    rwa [hback]
  refused _ h := by
    cases hread : readInt64 (trimWhite raw) with
    | ok n => exact absurd (readInt64_eq_ok_iff.mp hread) (h n)
    | error fault => exact ⟨fault, parse_integer_of_error hne hread, rfl⟩
  white _ h := by
    have htrims : Trims raw [] := ⟨⟨raw.toList, [], by simp, h, by simp⟩, by simp, by simp⟩
    have hempty : trimWhite raw = "" := String.toList_injective htrims.eq
    exact parse_integer_of_error hne (by rw [hempty]; rfl)
  bareSign h := by
    refine parse_integer_of_error hne ?_
    rcases h with h | h <;> rw [readInt64, h] <;> rfl
  tooLarge z h hz := parse_integer_of_error hne ((readInt64_beyond h).1 hz)
  tooSmall z h hz := parse_integer_of_error hne ((readInt64_beyond h).2 hz)

theorem readsInteger (raw : String) : ReadsInteger raw (trimWhite raw).toList := by
  by_cases hne : raw = ""
  · subst hne
    exact readsInteger_empty
  · exact readsInteger_of_ne hne

/-! ### Texts that are read back -/

section Around

variable {lead trail : String} (hlead : AllWhite lead) (htrail : AllWhite trail)
include hlead htrail

theorem trimWhite_around {s : String} (h : ∀ c ∈ s.toList, isWhite c = false) :
    trimWhite (lead ++ s ++ trail) = s := by
  have htrims := trims_between hlead htrail h
  rw [String.ofList_toList] at htrims
  exact String.toList_injective htrims.eq

omit hlead htrail in
theorem around_ne {s : String} (h : s ≠ "") : lead ++ s ++ trail ≠ "" := by
  intro hall
  have hlist := congrArg String.toList hall
  simp only [String.toList_append, String.toList_empty, List.append_eq_nil_iff] at hlist
  exact h (String.toList_injective hlist.1.2)

theorem parse_text_int (n : Int64) :
    integer.parse (lead ++ (Value.int n).text ++ trail) = .ok (.int n) := by
  have htext : (Value.int n).text = toString n.toInt := by simp [Value.text]
  have hne : toString n.toInt ≠ "" := by
    rw [ne_eq, ← String.toList_eq_nil_iff, toList_toString_int]
    split
    · simp
    · exact Nat.toDigits_ne_nil
  rw [htext]
  refine parse_integer_of_ok (around_ne hne) ?_
  rw [trimWhite_around hlead htrail (isWhite_int _), readInt64_toString]

theorem parse_text_bool (b : Bool) :
    boolean.parse (lead ++ (Value.bool b).text ++ trail) = .ok (.bool b) := by
  have htext : (Value.bool b).text = if b then "true" else "false" := by simp [Value.text]
  have hne : (if b then "true" else "false") ≠ "" := by cases b <;> decide
  have hall : (if b then "true" else "false").toList.all fun c => !isWhite c := by
    cases b <;> rfl
  have hblack : ∀ c ∈ (if b then "true" else "false").toList, isWhite c = false := fun c hc => by
    simpa using List.all_eq_true.mp hall c hc
  rw [htext, parse, if_neg (not_isEmpty (around_ne hne)), trimWhite_around hlead htrail hblack]
  cases b <;> rfl

end Around

/-- **Typed cells are read exactly.** A cell of an integer column is null if it is empty, is an integer
if its text between white space is an optional sign and digits that denote a number of 64 bits, which
is then that number, and is a fault that quotes the cell otherwise. The canonical texts of integers and
truth values are read back, whatever white space stands around them, and texts as they stand. -/
theorem reads_exactly :
    (∀ raw : String, ∃ body, Trims raw body ∧ (∀ other, Trims raw other → other = body) ∧
      ReadsInteger raw body) ∧
    (∀ lead trail : String, AllWhite lead → AllWhite trail →
      (∀ n, integer.parse (lead ++ (Value.int n).text ++ trail) = .ok (.int n)) ∧
      ∀ b, boolean.parse (lead ++ (Value.bool b).text ++ trail) = .ok (.bool b)) ∧
    ∀ raw : String, raw ≠ "" →
      any.parse raw = .ok (.string raw) ∧ string.parse raw = .ok (.string raw) := by
  refine ⟨fun raw => ?_, fun lead trail hlead htrail => ?_, fun raw hne => ?_⟩
  · exact ⟨(trimWhite raw).toList, trims_trimWhite raw, fun other h => h.eq.symm, readsInteger raw⟩
  · exact ⟨parse_text_int hlead htrail, parse_text_bool hlead htrail⟩
  · exact ⟨if_neg (not_isEmpty hne), if_neg (not_isEmpty hne)⟩

/-- Both ends of the range with white space of several kinds around them, the numbers beyond them, and
the texts of a truth value and of a blank. -/
theorem reads_ends_of_range :
    integer.parse "\t-9223372036854775808\u00a0" = .ok (.int Int64.minValue) ∧
    integer.parse "\u2003+009223372036854775807\n" = .ok (.int Int64.maxValue) ∧
    integer.parse " 9223372036854775808" = .error (.integer " 9223372036854775808" .tooLarge) ∧
    integer.parse "-9223372036854775809" = .error (.integer "-9223372036854775809" .tooSmall) ∧
    integer.parse " \n" = .error (.integer " \n" .empty) ∧
    boolean.parse ("\n" ++ (Value.bool false).text ++ " ") = .ok (.bool false) ∧
    string.parse " " = .ok (.string " ") := by
  obtain ⟨hinteger, haround, htexts⟩ := reads_exactly
  have hreads {raw : String} {body : List Char} (h : Trims raw body) : ReadsInteger raw body := by
    obtain ⟨only, -, hunique, hreads⟩ := hinteger raw
    exact hunique body h ▸ hreads
  have hdigits {ds : List Char} (h : ds ≠ [] ∧ ds.all Char.isDigit) : IsDigits ds :=
    ⟨h.1, by simpa using h.2⟩
  have hmin : Numeral "-9223372036854775808".toList Int64.minValue.toInt :=
    @Numeral.minus "9223372036854775808".toList (hdigits (by decide))
  have hmax : Numeral "+009223372036854775807".toList Int64.maxValue.toInt :=
    @Numeral.plus "009223372036854775807".toList (hdigits (by decide))
  have hmore : Numeral "9223372036854775808".toList (2 ^ 63) :=
    @Numeral.plain "9223372036854775808".toList (hdigits (by decide))
  have hless : Numeral "-9223372036854775809".toList (-2 ^ 63 - 1) :=
    @Numeral.minus "9223372036854775809".toList (hdigits (by decide))
  refine ⟨?_, ?_, ?_, ?_, ?_, ?_, ?_⟩
  · exact ((hreads (trims_iff.mpr (by decide))).exact _).mpr hmin
  · exact ((hreads (trims_iff.mpr (by decide))).exact _).mpr hmax
  · exact (hreads (trims_iff.mpr (by decide))).tooLarge _ hmore (by decide)
  · exact (hreads (trims_iff.mpr (by decide))).tooSmall _ hless (by decide)
  · exact (hreads (trims_iff.mpr rfl)).white (by decide) (by decide)
  · exact (haround "\n" " " (by decide) (by decide)).2 false
  · exact (htexts " " (by decide)).2

end ColumnType

end RowScript
