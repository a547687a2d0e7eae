import Mathlib.Data.List.Induction
import RowScript.Column

/-!
# What a script sees of a row

The map that a script gets for a row has one entry for each distinct name among the input columns, in
the order in which the names first occur (`toValueMap_eq`). The value under a name is the one that the
row has for it, so a column that is declared again changes neither the place nor the value.
-/

namespace RowScript

theorem Entries.insert_named {α : Type} (f : String → α) (names : List String) (name : String) :
    Entries.insert (names.map fun n => (n, f n)) name (f name) =
      (if name ∈ names then names else names ++ [name]).map fun n => (n, f n) := by
  induction names with
  | nil => rfl
  | cons first rest ih =>
    by_cases h : first = name
    · subst h
      simp [Entries.insert]
    · have hrest : name ∈ first :: rest ↔ name ∈ rest := by simp [Ne.symm h]
      simp only [List.map_cons, Entries.insert, beq_iff_eq, h, if_false, ih, hrest]
      split <;> rfl

/-- The names of columns, each where it first occurs. -/
def columnNames (inputs : List InputColumn) : List String := (inputs.map (·.name)).eraseDups

theorem mem_columnNames {inputs : List InputColumn} {name : String} :
    name ∈ columnNames inputs ↔ ∃ c ∈ inputs, c.name = name := by
  rw [columnNames, List.mem_eraseDups, List.mem_map]

theorem columnNames_concat (inputs : List InputColumn) (c : InputColumn) :
    columnNames (inputs ++ [c]) =
      if c.name ∈ columnNames inputs then columnNames inputs
      else columnNames inputs ++ [c.name] := by
  unfold columnNames
  rw [List.map_append, List.eraseDups_append, List.map_singleton]
  generalize inputs.map (·.name) = names
  have single : [c.name].eraseDups = [c.name] := by simp [List.eraseDups_cons]
  by_cases h : c.name ∈ names <;> simp [List.removeAll, h, single]

/-- The last of the columns with a name. -/
def lastNamed? (inputs : List InputColumn) (name : String) : Option InputColumn :=
  inputs.reverse.find? (·.name == name)

theorem lastNamed?_cons (c : InputColumn) (rest : List InputColumn) (name : String) :
    lastNamed? (c :: rest) name =
      (lastNamed? rest name).or (if c.name = name then some c else none) := by
  rw [lastNamed?, List.reverse_cons, List.find?_append, ← lastNamed?]
  by_cases h : c.name = name <;> simp [h]

theorem lastNamed?_concat (inputs : List InputColumn) (c : InputColumn) (name : String) :
    lastNamed? (inputs ++ [c]) name = if c.name = name then some c else lastNamed? inputs name := by
  by_cases h : c.name = name <;> simp [lastNamed?, h]

theorem isSome_lastNamed? {inputs : List InputColumn} {name : String}
    (h : name ∈ columnNames inputs) : (lastNamed? inputs name).isSome := by
  obtain ⟨c, hc, rfl⟩ := mem_columnNames.mp h
  rw [lastNamed?, List.find?_isSome]
  exact ⟨c, List.mem_reverse.mpr hc, beq_self_eq_true _⟩

theorem valueMapOf_concat (inputs : List InputColumn) (c : InputColumn)
    (value : InputColumn → Value) :
    valueMapOf (inputs ++ [c]) value = (valueMapOf inputs value).insert c.name (value c) := by
  rw [valueMapOf, valueMapOf, List.foldl_append, List.foldl_cons, List.foldl_nil]

/-- Where the value of a column depends on its name alone, the map has each name with its value. -/
theorem valueMapOf_named (inputs : List InputColumn) (f : String → Value) :
    valueMapOf inputs (fun c => f c.name) = (columnNames inputs).map fun name => (name, f name) := by
  induction inputs using List.reverseRecOn with
  | nil => rfl
  | append_singleton inputs c ih =>
    rw [valueMapOf_concat, ih, Entries.insert_named, columnNames_concat]

/-- The value of a row under a name, null if there is none. -/
def Row.get (row : Row) (name : String) : Value := (row.values.get? name).getD .null

theorem toValueMap_eq (inputs : List InputColumn) (row : Row) :
    toValueMap inputs row = (columnNames inputs).map fun name => (name, row.get name) :=
  valueMapOf_named inputs row.get

theorem keys_toValueMap (inputs : List InputColumn) (row : Row) :
    Entries.keys (toValueMap inputs row) = columnNames inputs := by
  rw [toValueMap_eq, Entries.keys, List.map_map]
  exact List.map_id _

end RowScript
