import Mathlib.Data.List.Induction
import Mathlib.Data.List.Lex
import Mathlib.Data.String.Basic
import RowScript.Entries

/-!
# Maps whose names ascend

An object map keeps its names in ascending order: setting a name changes what is read of that name
only (`get?_insertSorted_self`, `get?_insertSorted_of_ne`) and keeps the order
(`Ascending.insertSorted`). In that order there is one map for what is read of it
(`Ascending.eq_of_get?`), so of names that are set one after the other only the last value of each
matters (`get?_setAll`).

Names ascend by their characters. That is the order of their bytes in UTF-8 (`utf8_lt_iff`).
-/

namespace RowScript

/-! ### The order of bytes -/

/-- The bytes of a text in UTF-8. -/
def utf8 (s : String) : List UInt8 := s.toUTF8.data.toList

theorem utf8_eq (s : String) : utf8 s = s.toList.flatMap String.utf8EncodeChar := by
  rw [utf8, String.toUTF8_eq_toByteArray, ← String.utf8Encode_toList, List.utf8Encode]
  simp

theorem fourBytes_lt {n k : Nat} (h : n < k) (hk : k < 0x110000) (rest rest' : List UInt8) :
    [.ofNat (n / 262144 % 8 + 240), .ofNat (n / 4096 % 64 + 128), .ofNat (n / 64 % 64 + 128),
        .ofNat (n % 64 + 128)] ++ rest <
      [.ofNat (k / 262144 % 8 + 240), .ofNat (k / 4096 % 64 + 128), .ofNat (k / 64 % 64 + 128),
        .ofNat (k % 64 + 128)] ++ rest' := by
  have hplaces : n / 262144 < k / 262144 ∨ n / 262144 = k / 262144 ∧
      (n / 4096 % 64 < k / 4096 % 64 ∨ n / 4096 % 64 = k / 4096 % 64 ∧
        (n / 64 % 64 < k / 64 % 64 ∨ n / 64 % 64 = k / 64 % 64 ∧ n % 64 < k % 64)) := by
    omega
  have hfirst : n / 262144 < 8 := by omega
  have hfirst' : k / 262144 < 8 := by omega
  simp only [List.cons_append, List.nil_append, List.cons_lt_cons_iff, UInt8.lt_iff_toNat_lt,
    ← UInt8.toNat_inj, UInt8.toNat_ofNat']
  -- the order of the places is all that is left of the order of the numbers
  clear h hk
  omega

/-- Of two characters the lesser one has the lesser bytes, whatever stands behind them. -/
theorem utf8EncodeChar_lt {c d : Char} (h : c < d) (rest rest' : List UInt8) :
    String.utf8EncodeChar c ++ rest < String.utf8EncodeChar d ++ rest' := by
  have hval : c.val.toNat < d.val.toNat := h
  have hmax : d.val.toNat < 0x110000 := by
    rcases d.valid with h | h <;> omega
  unfold String.utf8EncodeChar
  generalize c.val.toNat = n at *
  generalize d.val.toNat = k at *
  simp only
  by_cases hfour : 0xffff < n
  · have hn : ∀ max ≤ 0xffff, ¬ n ≤ max := by omega
    have hk : ∀ max ≤ 0xffff, ¬ k ≤ max := by omega
    rw [if_neg (hn _ (by decide)), if_neg (hn _ (by decide)), if_neg (hn _ (by decide)),
      if_neg (hk _ (by decide)), if_neg (hk _ (by decide)), if_neg (hk _ (by decide))]
    exact fourBytes_lt hval hmax rest rest'
  · split_ifs <;>
      simp only [List.cons_append, List.nil_append, List.cons_lt_cons_iff, UInt8.lt_iff_toNat_lt,
        ← UInt8.toNat_inj, UInt8.toNat_ofNat'] <;>
      omega

theorem utf8EncodeChar_ne_nil (c : Char) : String.utf8EncodeChar c ≠ [] := by
  unfold String.utf8EncodeChar
  simp only
  split_ifs <;> simp

theorem flatMap_utf8_lt {cs ds : List Char} (h : cs < ds) :
    cs.flatMap String.utf8EncodeChar < ds.flatMap String.utf8EncodeChar := by
  induction h with
  | @nil d ds =>
    obtain ⟨b, bs, hbytes⟩ := List.exists_cons_of_ne_nil (utf8EncodeChar_ne_nil d)
    rw [List.flatMap_nil, List.flatMap_cons, hbytes]
    exact List.nil_lt_cons _ _
  | rel h => exact utf8EncodeChar_lt h _ _
  | cons _ ih => exact List.append_left_lt ih

theorem utf8_lt_iff {s t : String} : utf8 s < utf8 t ↔ s < t := by
  have hlt {s t : String} (h : s < t) : utf8 s < utf8 t := by
    rw [utf8_eq, utf8_eq]
    exact flatMap_utf8_lt (String.lt_iff_toList_lt.mp h)
  refine ⟨fun h => ?_, hlt⟩
  rcases lt_trichotomy s t with hst | rfl | hts
  · exact hst
  · exact absurd h (List.lt_irrefl _)
  · exact absurd h (List.lt_asymm (hlt hts))

namespace Entries

variable {α β : Type}

/-! ### Setting a name -/

theorem get?_cons (p : String × α) (rest : Entries α) (name : String) :
    get? (p :: rest) name = if name = p.1 then some p.2 else rest.get? name := by
  obtain ⟨k, u⟩ := p
  by_cases heq : name = k
  · rw [get?, List.lookup_cons, if_pos heq, beq_iff_eq.mpr heq]
  · rw [get?, List.lookup_cons, if_neg heq, beq_eq_false_iff_ne.mpr heq]
    rfl

@[simp] theorem get?_insertSorted_self (m : Entries α) (name : String) (v : α) :
    (m.insertSorted name v).get? name = some v := by
  induction m with
  | nil => simp [insertSorted, get?]
  | cons p rest ih =>
    obtain ⟨k, u⟩ := p
    rw [insertSorted]
    split_ifs with heq hlt
    · rw [get?_cons, if_pos (beq_iff_eq.mp heq).symm]
    · rw [get?_cons, if_pos rfl]
    · rw [get?_cons, if_neg fun e => heq (beq_iff_eq.mpr e.symm), ih]

theorem get?_map (f : α → β) (m : Entries α) (name : String) :
    get? (m.map fun p => (p.1, f p.2)) name = (m.get? name).map f := by
  induction m with
  | nil => rfl
  | cons p rest ih =>
    rw [List.map_cons, get?_cons, get?_cons, ih]
    split_ifs <;> rfl

theorem get?_insertSorted_of_ne {name other : String} (h : other ≠ name) (m : Entries α) (v : α) :
    (m.insertSorted name v).get? other = m.get? other := by
  induction m with
  | nil => rw [insertSorted, get?_cons, if_neg h]
  | cons p rest ih =>
    obtain ⟨k, u⟩ := p
    rw [insertSorted]
    split_ifs with heq hlt
    · obtain rfl := beq_iff_eq.mp heq
      rw [get?_cons, get?_cons, if_neg h, if_neg h]
    · rw [get?_cons, if_neg h]
    · rw [get?_cons, get?_cons, ih]

theorem mem_keys_insertSorted {m : Entries α} {name k : String} {v : α}
    (h : k ∈ (m.insertSorted name v).keys) : k = name ∨ k ∈ m.keys := by
  induction m with
  | nil => simpa [insertSorted] using h
  | cons p rest ih =>
    rw [insertSorted] at h
    split_ifs at h with heq hlt
    · rcases List.mem_cons.mp h with rfl | h
      · exact .inr List.mem_cons_self
      · exact .inr (List.mem_cons_of_mem _ h)
    · exact List.mem_cons.mp h
    · rcases List.mem_cons.mp h with rfl | h
      · exact .inr List.mem_cons_self
      · exact (ih h).imp_right (List.mem_cons_of_mem _)

/-! ### Ascending names -/

/-- Each name is less than the names behind it. -/
def Ascending (m : Entries α) : Prop := m.keys.Pairwise (· < ·)

theorem ascending_nil : Ascending ([] : Entries α) := .nil

theorem Ascending.insertSorted {m : Entries α} (h : m.Ascending) (name : String) (v : α) :
    (m.insertSorted name v).Ascending := by
  induction m with
  | nil => exact List.pairwise_singleton _ _
  | cons p rest ih =>
    obtain ⟨k, u⟩ := p
    obtain ⟨hfirst, hrest⟩ := List.pairwise_cons.mp h
    rw [Entries.insertSorted]
    split_ifs with heq hlt
    · exact h
    · refine List.pairwise_cons.mpr ⟨fun other hmem => ?_, h⟩
      rcases List.mem_cons.mp hmem with rfl | hmem
      · exact hlt
      · exact hlt.trans (hfirst other hmem)
    · refine List.pairwise_cons.mpr ⟨fun other hmem => ?_, ih hrest⟩
      rcases mem_keys_insertSorted hmem with rfl | hmem
      · exact lt_of_le_of_ne (not_lt.mp hlt) (by simpa using heq)
      · exact hfirst other hmem

theorem Ascending.distinct {m : Entries α} (h : m.Ascending) : m.Distinct :=
  List.Pairwise.imp ne_of_lt h

theorem isSome_get? (m : Entries α) (name : String) : (m.get? name).isSome ↔ name ∈ m.keys := by
  induction m with
  | nil => simp [get?]
  | cons p rest ih =>
    rw [get?_cons, keys_cons, List.mem_cons]
    by_cases heq : name = p.1
    · simp [heq]
    · rw [if_neg heq, ih, or_iff_right heq]

theorem Ascending.keys_eq {m n : Entries α} (hm : m.Ascending) (hn : n.Ascending)
    (h : ∀ k, k ∈ m.keys ↔ k ∈ n.keys) : m.keys = n.keys :=
  ((List.perm_ext_iff_of_nodup hm.distinct hn.distinct).mpr h).eq_of_pairwise
    (fun _ _ _ _ hab hba => absurd hba (lt_asymm hab)) hm hn

theorem Distinct.eq_map_keys {m : Entries α} (h : m.Distinct) :
    m.map some = m.keys.map fun k => (m.get? k).map (k, ·) := by
  induction m with
  | nil => rfl
  | cons p rest ih =>
    obtain ⟨hfirst, hrest⟩ := List.nodup_cons.mp h
    rw [List.map_cons, keys_cons, List.map_cons, ih hrest, get?_cons, if_pos rfl]
    refine congrArg _ (List.map_congr_left fun k hk => ?_)
    have hne : k ≠ p.1 := by
      rintro rfl
      exact hfirst hk
    rw [get?_cons, if_neg hne]

/-- Maps with ascending names of which the same is read are the same. -/
theorem Ascending.eq_of_get? {m n : Entries α} (hm : m.Ascending) (hn : n.Ascending)
    (h : ∀ k, m.get? k = n.get? k) : m = n := by
  have hkeys : m.keys = n.keys := hm.keys_eq hn fun k => by rw [← isSome_get?, ← isSome_get?, h]
  have hmap : m.map some = n.map some := by
    rw [hm.distinct.eq_map_keys, hn.distinct.eq_map_keys, hkeys]
    exact List.map_congr_left fun k _ => by rw [h]
  exact List.map_injective_iff.mpr (fun _ _ => Option.some.inj) hmap

/-! ### Setting names one after the other -/

/-- The map with ascending names that is left when names are set one after the other. -/
def setAll (sets : List (String × α)) : Entries α :=
  sets.foldl (fun m p => m.insertSorted p.1 p.2) []

/-- What a name is set to last. -/
def last? (sets : List (String × α)) (name : String) : Option α := get? sets.reverse name

theorem setAll_concat (sets : List (String × α)) (p : String × α) :
    setAll (sets ++ [p]) = (setAll sets).insertSorted p.1 p.2 := by
  simp [setAll]

theorem ascending_setAll (sets : List (String × α)) : (setAll sets).Ascending := by
  induction sets using List.reverseRecOn with
  | nil => exact ascending_nil
  | append_singleton sets p ih =>
    rw [setAll_concat]
    exact ih.insertSorted p.1 p.2

theorem get?_setAll (sets : List (String × α)) (name : String) :
    (setAll sets).get? name = last? sets name := by
  induction sets using List.reverseRecOn with
  | nil => rfl
  | append_singleton sets p ih =>
    rw [setAll_concat, last?, List.reverse_append, List.reverse_singleton, List.singleton_append,
      get?_cons]
    by_cases heq : name = p.1
    · rw [heq, get?_insertSorted_self, if_pos rfl]
    · rw [get?_insertSorted_of_ne heq, ih, if_neg heq, last?]

theorem mem_of_last? {sets : List (String × α)} {name : String} {v : α}
    (h : last? sets name = some v) : (name, v) ∈ sets := by
  obtain ⟨before, behind, hsets, -⟩ := List.lookup_eq_some_iff.mp h
  exact List.mem_reverse.mp (by simp [hsets])

theorem last?_map (f : α → β) (sets : List (String × α)) (name : String) :
    last? (sets.map fun p => (p.1, f p.2)) name = (last? sets name).map f := by
  rw [last?, ← List.map_reverse, get?_map, last?]

theorem Distinct.get?_eq_some_iff {m : Entries α} (h : m.Distinct) {name : String} {v : α} :
    m.get? name = some v ↔ (name, v) ∈ m := by
  induction m with
  | nil => simp [get?]
  | cons p rest ih =>
    obtain ⟨hfirst, hrest⟩ := List.nodup_cons.mp h
    rw [get?_cons, List.mem_cons]
    split_ifs with heq
    · have hnot : (name, v) ∉ rest := fun hmem =>
        hfirst (show p.1 ∈ keys rest from heq ▸ List.mem_map_of_mem hmem)
      rw [or_iff_left hnot, Option.some_inj, Prod.ext_iff]
      exact ⟨fun e => ⟨heq, e.symm⟩, fun e => e.2.symm⟩
    · rw [ih hrest, or_iff_right fun e => heq (congrArg Prod.fst e)]

theorem Distinct.perm {m n : Entries α} (h : m.Distinct) (hperm : m.Perm n) : n.Distinct := by
  have hkeys : m.keys.Perm n.keys := List.Perm.map Prod.fst hperm
  exact hkeys.nodup_iff.mp h

theorem Distinct.get?_perm {m n : Entries α} (h : m.Distinct) (hperm : m.Perm n) (name : String) :
    m.get? name = n.get? name := by
  refine Option.ext fun v => ?_
  rw [h.get?_eq_some_iff, (h.perm hperm).get?_eq_some_iff, hperm.mem_iff]

theorem Distinct.last?_perm {sets sets' : Entries α} (h : sets.Distinct) (hperm : sets.Perm sets')
    (name : String) : last? sets name = last? sets' name :=
  (h.perm sets.reverse_perm.symm).get?_perm
    (sets.reverse_perm.trans (hperm.trans sets'.reverse_perm.symm)) name

/-- A map with ascending names is what is left when its names are set. -/
theorem Ascending.setAll_eq {m : Entries α} (h : m.Ascending) : setAll m = m := by
  refine (ascending_setAll m).eq_of_get? h fun k => ?_
  rw [get?_setAll, last?]
  exact (h.distinct.get?_perm m.reverse_perm.symm k).symm

end Entries

end RowScript
