import Mathlib.Data.List.Basic
import RowScript.Column

/-!
# Integers as text

`readInt64` reads back the decimal digits that an integer is written with (`readInt64_toString`). The
digits of a number are read one by one, and the number read so far is never beyond the whole
(`Digits.readFrom_digits`), so no digit leaves the range that the number is in.
-/

namespace RowScript

/-- Decimal digits, and at least one. -/
def IsDigits (ds : List Char) : Prop := ds ≠ [] ∧ ∀ c ∈ ds, c.isDigit

theorem digitValue?_of_isDigit {c : Char} (h : c.isDigit) :
    digitValue? c = some (c.toNat - '0'.toNat) := by
  simp only [Char.isDigit, Bool.and_eq_true, decide_eq_true_eq] at h
  exact if_pos h

namespace Digits

theorem isDigit_of_digitValue? {c : Char} {d : Nat} (h : digitValue? c = some d) :
    c.isDigit ∧ d = c.toNat - '0'.toNat := by
  unfold digitValue? at h
  split at h
  · next hrange =>
    cases h
    refine ⟨?_, rfl⟩
    simp only [Char.isDigit, Bool.and_eq_true, decide_eq_true_eq]
    exact hrange
  · cases h

theorem ofDigitChars_ge (cs : List Char) (n : Nat) : n ≤ Nat.ofDigitChars 10 cs n := by
  induction cs generalizing n with
  | nil => exact Nat.le_refl _
  | cons c rest ih =>
    rw [Nat.ofDigitChars_cons]
    have := ih (10 * n + (c.toNat - '0'.toNat))
    omega

theorem readFrom_digits {lo hi : Int} {cs : List Char} (hcs : ∀ c ∈ cs, c.isDigit) (n : Nat)
    (negative : Bool) (hlo : lo ≤ 0) (hhi : 0 ≤ hi)
    (hrange : if negative then lo ≤ -(Nat.ofDigitChars 10 cs n : Int)
      else (Nat.ofDigitChars 10 cs n : Int) ≤ hi) :
    readFrom lo hi negative (if negative then -(n : Int) else n) cs =
      .ok (if negative then -(Nat.ofDigitChars 10 cs n : Int) else Nat.ofDigitChars 10 cs n) := by
  induction cs generalizing n with
  | nil => simp [readFrom]
  | cons c rest ih =>
    have hdigit := digitValue?_of_isDigit (hcs c List.mem_cons_self)
    have hge := ofDigitChars_ge rest (10 * n + (c.toNat - '0'.toNat))
    rw [Nat.ofDigitChars_cons] at hrange ⊢
    have hrest := ih (fun c hc => hcs c (List.mem_cons_of_mem _ hc)) _ hrange
    generalize c.toNat - '0'.toNat = d at *
    rw [readFrom, hdigit]
    -- what has been read is between zero and the whole
    cases negative with
    | true =>
      simp only [if_true] at hrange hrest ⊢
      rw [show -(n : Int) * 10 - d = -((10 * n + d : Nat) : Int) by omega,
        if_neg (by omega), if_neg (by omega), hrest]
    | false =>
      simp only [Bool.false_eq_true, if_false] at hrange hrest ⊢
      rw [show (n : Int) * 10 + d = ((10 * n + d : Nat) : Int) by omega,
        if_neg (by omega), if_neg (by omega), hrest]

theorem isDigit_of_mem_toDigits {n : Nat} : ∀ c ∈ Nat.toDigits 10 n, c.isDigit :=
  fun _ hc => Nat.isDigit_of_mem_toDigits (by omega) (by omega) hc

/-- The digits of a number are read as the number, with a sign or without. -/
theorem readFrom_toDigits {lo hi : Int} (n : Nat) (negative : Bool) (hlo : lo ≤ 0) (hhi : 0 ≤ hi)
    (hrange : if negative then lo ≤ -(n : Int) else (n : Int) ≤ hi) :
    readFrom lo hi negative 0 (Nat.toDigits 10 n) = .ok (if negative then -(n : Int) else n) := by
  have h := @readFrom_digits lo hi _ (isDigit_of_mem_toDigits (n := n)) 0 negative hlo hhi
  rw [Nat.ofDigitChars_ten_toDigits] at h
  simpa using h hrange

theorem read_toDigits {lo hi : Int} {n : Nat} (hlo : lo ≤ 0) (hhi : n ≤ hi) :
    read lo hi (Nat.toDigits 10 n) = .ok n := by
  have hdigits := isDigit_of_mem_toDigits (n := n)
  have hread := readFrom_toDigits n false hlo (by omega) hhi
  rcases hcs : Nat.toDigits 10 n with _ | ⟨c, rest⟩
  · exact absurd hcs Nat.toDigits_ne_nil
  · rw [hcs] at hdigits hread
    have hc := hdigits c List.mem_cons_self
    have hplus : c ≠ '+' := by
      rintro rfl
      cases hc
    have hminus : c ≠ '-' := by
      rintro rfl
      cases hc
    rw [read]
    · exact hread
    all_goals simp [hplus, hminus]

theorem read_minus_toDigits {lo hi : Int} {n : Nat} (hlo : lo ≤ -(n : Int)) (hneg : lo < 0)
    (hhi : 0 ≤ hi) : read lo hi ('-' :: Nat.toDigits 10 n) = .ok (-(n : Int)) := by
  have hread := readFrom_toDigits n true (Int.le_of_lt hneg) hhi hlo
  rcases hcs : Nat.toDigits 10 n with _ | ⟨c, rest⟩
  · exact absurd hcs Nat.toDigits_ne_nil
  · rw [hcs] at hread
    rw [read, if_pos hneg, hread]
    · rfl
    · simp

theorem value_eq_ofDigitChars {ds : List Char} (h : ∀ c ∈ ds, c.isDigit) :
    Digits.value ds = Nat.ofDigitChars 10 ds 0 := by
  rw [Digits.value, Nat.ofDigitChars_eq_foldl]
  refine List.foldl_ext _ _ _ fun n c hc => ?_
  rw [digitValue?_of_isDigit (h c hc), Option.getD_some, Nat.mul_comm]

theorem value_toDigits (n : Nat) : Digits.value (Nat.toDigits 10 n) = n := by
  rw [value_eq_ofDigitChars isDigit_of_mem_toDigits, Nat.ofDigitChars_ten_toDigits]

theorem head?_toDigits {n : Nat} (h : 0 < n) : (Nat.toDigits 10 n).head? ≠ some '0' := by
  induction n using Nat.strongRecOn with
  | ind n ih =>
    by_cases hsmall : n < 10
    · simpa [Nat.toDigits_of_lt_base hsmall] using Nat.pos_iff_ne_zero.mp h
    · have hrest := ih (n / 10) (by omega) (by omega)
      rw [Nat.toDigits_of_base_le (by omega) (by omega)]
      rcases hds : Nat.toDigits 10 (n / 10) with _ | ⟨c, ds⟩
      · exact absurd hds Nat.toDigits_ne_nil
      · rwa [hds] at hrest

end Digits

theorem toList_toString_int (n : Int) :
    (toString n).toList =
      if n < 0 then '-' :: Nat.toDigits 10 n.natAbs else Nat.toDigits 10 n.natAbs := by
  rw [Int.toString_eq_repr, Int.repr_eq_if]
  by_cases h : n < 0
  · rw [if_neg (by omega), if_pos h, show (-n).toNat = n.natAbs by omega]
    simp [Nat.repr_eq_ofList_toDigits]
  · rw [if_pos (by omega), if_neg h, show n.toNat = n.natAbs by omega]
    simp [Nat.repr_eq_ofList_toDigits]

theorem readInt64_toString (n : Int64) : readInt64 (toString n.toInt) = .ok n := by
  have hlo : Int64.minValue.toInt = -9223372036854775808 := rfl
  have hhi : Int64.maxValue.toInt = 9223372036854775807 := rfl
  have hge := Int64.minValue_le_toInt n
  have hle := Int64.toInt_le n
  have hback : Int64.ofInt n.toInt = n := Int64.ofInt_toInt n
  rw [readInt64, toList_toString_int]
  split
  · next hneg =>
    rw [Digits.read_minus_toDigits (by omega) (by omega) (by omega),
      show -(n.toInt.natAbs : Int) = n.toInt by omega]
    exact congrArg _ hback
  · next hneg =>
    rw [Digits.read_toDigits (by omega) (by omega),
      show (n.toInt.natAbs : Int) = n.toInt by omega]
    exact congrArg _ hback

end RowScript
