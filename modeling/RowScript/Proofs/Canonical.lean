import Mathlib.Data.Set.List
import RowScript.Proofs.Ascending
import RowScript.Proofs.Crossing

/-!
# Object maps outside their script

A `Making` says how a value of a script came about: of an object map, which names were set one after
the other. `Making.datum` is the value inside the script and `Making.value` what it is outside.

* The values that are made are those whose object maps are in order (`Making.ordered_iff`).
* Every part of a value that is reached without passing through a record is, at the same place, what
  it is by itself (`Making.part?_value`), and that is what it has to be (`Making.becomes_value`): an
  object map has ascending names, each with the value that it was set to last, and a record is as it
  was.
* When names were set makes no difference (`Making.Alike.datum_eq`): object maps ascend, and ascending
  maps of which the same is read are the same.
-/

namespace RowScript.Script

open Attempt

/-! ### How values are made -/

/-- Neither an array nor an object map nor a record. -/
def Datum.isScalar : Datum → Bool
  | array _ | map _ | record _ => false
  | _ => true

abbrev Scalar := { d : Datum // d.isScalar }

/-- How a value of a script is made. -/
inductive Making
  | scalar (d : Scalar)
  | array (items : List Making)
  /-- An object map by its names, which are set one after the other. -/
  | map (sets : List (String × Making))
  | record (r : ValueMap)

namespace Making

mutual

/-- The value that is made. -/
def datum : Making → Datum
  | scalar d => d.1
  | array items => .array (itemData items)
  | map sets => .map (Entries.setAll (setData sets))
  | record r => .record r

def itemData : List Making → List Datum
  | [] => []
  | m :: rest => m.datum :: itemData rest

def setData : List (String × Making) → List (String × Datum)
  | [] => []
  | (k, m) :: rest => (k, m.datum) :: setData rest

end

/-- What it is outside of its script. -/
def value (m : Making) : Value := m.datum.toValue

theorem itemData_eq_map (items : List Making) : itemData items = items.map datum := by
  induction items with
  | nil => rfl
  | cons m rest ih => rw [itemData, ih, List.map_cons]

theorem setData_eq_map (sets : List (String × Making)) :
    setData sets = sets.map fun p => (p.1, p.2.datum) := by
  induction sets with
  | nil => rfl
  | cons p rest ih => rw [setData, ih, List.map_cons]

theorem get?_setAll_setData (sets : List (String × Making)) (name : String) :
    (Entries.setAll (setData sets)).get? name = (Entries.last? sets name).map datum := by
  rw [Entries.get?_setAll, setData_eq_map, Entries.last?_map]

end Making

/-! ### Values in order -/

/-- All object maps of a value have ascending names, but for those inside its records. -/
inductive Datum.Ordered : Datum → Prop
  | scalar (d : Scalar) : Ordered d.1
  | array {items : List Datum} : (∀ d ∈ items, Ordered d) → Ordered (.array items)
  | map {entries : ObjectMap} : Entries.Ascending entries → (∀ p ∈ entries, Ordered p.2) →
    Ordered (.map entries)
  | record (r : ValueMap) : Ordered (.record r)

namespace Making

theorem ordered_datum (m : Making) : m.datum.Ordered := by
  match m with
  | scalar d => exact .scalar d
  | record r => exact .record r
  | array items =>
    rw [datum, itemData_eq_map]
    refine .array fun d hd => ?_
    obtain ⟨m, hm, rfl⟩ := List.mem_map.mp hd
    have := List.sizeOf_lt_of_mem hm
    exact ordered_datum m
  | map sets =>
    have hascending := Entries.ascending_setAll (setData sets)
    refine .map hascending fun p hp => ?_
    have hget := hascending.distinct.get?_eq_some_iff.mpr hp
    rw [get?_setAll_setData] at hget
    obtain ⟨m, hm, hdatum⟩ := Option.map_eq_some_iff.mp hget
    have := List.sizeOf_lt_of_mem (Entries.mem_of_last? hm)
    have : sizeOf m < sizeOf (p.1, m) := by simp
    rw [← hdatum]
    exact ordered_datum m
termination_by sizeOf m

/-- A value is made in some way if its object maps are in order, and only then. -/
theorem ordered_iff (d : Datum) : d.Ordered ↔ ∃ m : Making, m.datum = d := by
  refine ⟨fun h => ?_, fun ⟨m, hm⟩ => hm ▸ m.ordered_datum⟩
  induction h with
  | scalar d => exact ⟨scalar d, rfl⟩
  | record r => exact ⟨record r, rfl⟩
  | @array items _ ih =>
    obtain ⟨made, hmade⟩ : items ∈ Set.range (List.map datum) := by
      rw [Set.range_list_map]
      exact ih
    refine ⟨array made, ?_⟩
    rw [datum, itemData_eq_map, hmade]
  | @map entries hascending _ ih =>
    obtain ⟨sets, hsets⟩ :
        entries ∈ Set.range (List.map fun p : String × Making => (p.1, p.2.datum)) := by
      rw [Set.range_list_map]
      intro p hp
      obtain ⟨m, hm⟩ := ih p hp
      exact ⟨(p.1, m), Prod.ext rfl hm⟩
    refine ⟨map sets, ?_⟩
    rw [datum, setData_eq_map, hsets, hascending.setAll_eq]

end Making

theorem Datum.entryValues_eq_map (m : ObjectMap) :
    entryValues m = m.map fun p => (p.1, p.2.toValue) := by
  induction m with
  | nil => rfl
  | cons p rest ih => rw [entryValues, ih, List.map_cons]

/-! ### Parts of values -/

/-- A step into a value. -/
inductive Inward
  | item (i : Nat)
  | name (k : String)

namespace Making

/-- The part of a value that a path leads to. No path leads into a record. -/
def part? : List Inward → Making → Option Making
  | [], m => some m
  | .item i :: rest, array items => items[i]?.bind (part? rest)
  | .name k :: rest, map sets => (Entries.last? sets k).bind (part? rest)
  | _ :: _, _ => none

end Making

/-- The part of a value that a path leads to. -/
def Inward.part? : List Inward → Value → Option Value
  | [], v => some v
  | .item i :: rest, .array items => items[i]?.bind (part? rest)
  | .name k :: rest, .object entries => (Entries.get? entries k).bind (part? rest)
  | _ :: _, _ => none

namespace Making

/-- What an object map is outside of its script: names in ascending order of their bytes, each with the
value that it was set to last. -/
structure Sorts (sets : List (String × Making)) (entries : ValueMap) : Prop where
  ascending : entries.keys.Pairwise fun a b => utf8 a < utf8 b
  associations : ∀ k, entries.get? k = (Entries.last? sets k).map value

/-- `v` is what `m` has to be outside of its script. -/
def Becomes : Making → Value → Prop
  | scalar d, v => v = d.1.toValue
  | array items, v => v = .array (items.map value)
  | map sets, v => ∃ entries, v = .object entries ∧ Sorts sets entries
  | record r, v => v = .object r

theorem value_array (items : List Making) : (array items).value = .array (items.map value) := by
  rw [value, datum, Datum.toValue, Datum.itemValues_eq_map, itemData_eq_map, List.map_map]
  rfl

/-- The entries of an object map as they are outside of its script. -/
def entries (sets : List (String × Making)) : ValueMap :=
  Datum.entryValues (Entries.setAll (setData sets))

theorem value_map (sets : List (String × Making)) : (map sets).value = .object (entries sets) := by
  rw [value, datum, Datum.toValue, entries]

theorem sorts_entries (sets : List (String × Making)) : Sorts sets (entries sets) where
  ascending := by
    have hascending := Entries.ascending_setAll (setData sets)
    have hkeys : (entries sets).keys = (Entries.setAll (setData sets)).keys := by
      rw [entries, Datum.entryValues_eq_map, Entries.keys, Entries.keys, List.map_map]
      rfl
    rw [hkeys]
    exact hascending.imp utf8_lt_iff.mpr
  associations k := by
    rw [entries, Datum.entryValues_eq_map, Entries.get?_map, get?_setAll_setData, Option.map_map]
    rfl

theorem becomes_value (m : Making) : m.Becomes m.value := by
  cases m with
  | scalar d => rfl
  | array items => exact value_array items
  | map sets => exact ⟨entries sets, value_map sets, sorts_entries sets⟩
  | record r => rfl

theorem part?_value {path : List Inward} {m part : Making} (h : m.part? path = some part) :
    Inward.part? path m.value = some part.value := by
  induction path generalizing m with
  | nil =>
    cases h
    rfl
  | cons step rest ih =>
    cases m with
    | scalar d => cases step <;> cases h
    | record r => cases step <;> cases h
    | array items =>
      cases step with
      | name k => cases h
      | item i =>
        obtain ⟨m, hm, hpart⟩ := Option.bind_eq_some_iff.mp h
        rw [value_array, Inward.part?, List.getElem?_map, hm]
        exact ih hpart
    | map sets =>
      cases step with
      | item i => cases h
      | name k =>
        obtain ⟨m, hm, hpart⟩ := Option.bind_eq_some_iff.mp h
        rw [value_map, Inward.part?, (sorts_entries sets).associations, hm]
        exact ih hpart

/-! ### Makings of the same value -/

/-- Two ways to make a value that differ at most in when a name of an object map was set. -/
inductive Alike : Making → Making → Prop
  | scalar (d : Scalar) : Alike (scalar d) (scalar d)
  | array {items items' : List Making} (length : items.length = items'.length)
    (each : ∀ (i : Nat) m m', items[i]? = some m → items'[i]? = some m' → Alike m m') :
    Alike (array items) (array items')
  | map {sets sets' : List (String × Making)}
    (names : ∀ k, (Entries.last? sets k).isSome = (Entries.last? sets' k).isSome)
    (each : ∀ k m m', Entries.last? sets k = some m → Entries.last? sets' k = some m' → Alike m m') :
    Alike (map sets) (map sets')
  | record (r : ValueMap) : Alike (record r) (record r)

namespace Alike

theorem refl (m : Making) : Alike m m := by
  match m with
  | .scalar d => exact .scalar d
  | .record r => exact .record r
  | .array items =>
    refine .array rfl fun i m m' hm hm' => ?_
    cases hm.symm.trans hm'
    have := List.sizeOf_lt_of_mem (List.mem_of_getElem? hm)
    exact refl m
  | .map sets =>
    refine .map (fun _ => rfl) fun k m m' hm hm' => ?_
    cases hm.symm.trans hm'
    have := List.sizeOf_lt_of_mem (Entries.mem_of_last? hm)
    have : sizeOf m < sizeOf (k, m) := by simp
    exact refl m
termination_by sizeOf m

theorem of_perm {sets sets' : Entries Making} (h : sets.Distinct) (hperm : sets.Perm sets') :
    Alike (.map sets) (.map sets') := by
  refine .map (fun k => by rw [h.last?_perm hperm]) fun k m m' hm hm' => ?_
  rw [h.last?_perm hperm, hm'] at hm
  cases hm
  exact .refl m

theorem map_datum_eq {o o' : Option Making} (hsome : o.isSome = o'.isSome)
    (heq : ∀ m m', o = some m → o' = some m' → m.datum = m'.datum) :
    o.map datum = o'.map datum := by
  cases o with
  | none => cases o' with
    | none => rfl
    | some m' => cases hsome
  | some m => cases o' with
    | none => cases hsome
    | some m' => exact congrArg some (heq m m' rfl rfl)

/-- Ways that are alike make the same value. -/
theorem datum_eq {m m' : Making} (h : Alike m m') : m.datum = m'.datum := by
  induction h with
  | scalar d => rfl
  | record r => rfl
  | @array items items' hlength _ ih =>
    have hitems : items.map datum = items'.map datum := by
      refine List.ext_getElem (by simp [hlength]) fun i hi hi' => ?_
      rw [List.length_map] at hi hi'
      rw [List.getElem_map, List.getElem_map]
      exact ih i _ _ (List.getElem?_eq_getElem hi) (List.getElem?_eq_getElem hi')
    rw [datum, datum, itemData_eq_map, itemData_eq_map, hitems]
  | @map sets sets' hnames _ ih =>
    have hmaps : Entries.setAll (setData sets) = Entries.setAll (setData sets') := by
      refine (Entries.ascending_setAll _).eq_of_get? (Entries.ascending_setAll _) fun k => ?_
      rw [get?_setAll_setData, get?_setAll_setData]
      exact map_datum_eq (hnames k) (ih k)
    rw [datum, datum, hmaps]

end Alike

end Making

end RowScript.Script
