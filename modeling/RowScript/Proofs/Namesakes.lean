import RowScript.Proofs.Ascending
import RowScript.Proofs.Columns

/-!
# Columns of one name

Columns can share a name, with one type or with several. The map that is made of them has the name once:
where the first of these columns stands, and with the value of the last one (`valueMap_of_columns`).

Both are kept column by column: what was made of the columns so far holds the last value of each of their
names (`HoldsLast`), and it does so again with the next column (`HoldsLast.insert`).

A row is set name by name as well. What it gives for a column is what the name was set to last, whatever
type the column has (`Row.value_made`).
-/

namespace RowScript

/-- A map has the names of the columns where they first occur, and under each the value of the last column
of that name. -/
structure HoldsLast (inputs : List InputColumn) (value : InputColumn → Value) (m : ValueMap) :
    Prop where
  /-- No name is there twice. -/
  distinct : m.Distinct
  /-- The names stand in the order in which they first occur. -/
  ordered : m.keys = columnNames inputs
  /-- No column is dropped, and there is no other name. -/
  complete : ∀ name, name ∈ m.keys ↔ ∃ c ∈ inputs, c.name = name
  /-- The last column of a name counts. -/
  last : ∀ name, m.get? name = (lastNamed? inputs name).map value

namespace HoldsLast

variable {inputs : List InputColumn} {value : InputColumn → Value} {m : ValueMap}

theorem nil : HoldsLast [] value [] where
  distinct := List.nodup_nil
  ordered := rfl
  complete := by simp
  last _ := rfl

/-- A known name keeps its place, and its value is that of the new column. -/
theorem insert (h : HoldsLast inputs value m) (c : InputColumn) :
    HoldsLast (inputs ++ [c]) value (m.insert c.name (value c)) := by
  have hordered : (m.insert c.name (value c)).keys = columnNames (inputs ++ [c]) := by
    rw [Entries.keys_insert, columnNames_concat, h.ordered]
  refine ⟨h.distinct.insert _ _, hordered, fun name => ?_, fun name => ?_⟩
  · rw [hordered, mem_columnNames]
  · rw [lastNamed?_concat]
    by_cases hname : c.name = name
    · subst hname
      rw [if_pos rfl, Entries.get?_insert_self, Option.map_some]
    · rw [if_neg hname, Entries.get?_insert_of_ne (Ne.symm hname), h.last]

end HoldsLast

theorem holdsLast_valueMapOf (inputs : List InputColumn) (value : InputColumn → Value) :
    HoldsLast inputs value (valueMapOf inputs value) := by
  induction inputs using List.reverseRecOn with
  | nil => exact .nil
  | append_singleton inputs c ih =>
    rw [valueMapOf_concat]
    exact ih.insert c

namespace Row

/-- The row that is left when names are set one after the other in a row that holds a map. -/
def made (initial : ValueMap) (settings : List (String × Value)) : Row :=
  settings.foldl (fun row s => row.insert s.1 s.2) ⟨initial⟩

theorem made_concat (initial : ValueMap) (settings : List (String × Value)) (s : String × Value) :
    made initial (settings ++ [s]) = (made initial settings).insert s.1 s.2 := by
  simp [made]

/-- What a name was set to last, in the beginning or later. -/
def setLast? (initial : ValueMap) (settings : List (String × Value)) (name : String) : Option Value :=
  (Entries.last? settings name).or (initial.get? name)

theorem get?_made (initial : ValueMap) (settings : List (String × Value)) (name : String) :
    (made initial settings).values.get? name = setLast? initial settings name := by
  induction settings using List.reverseRecOn with
  | nil => rfl
  | append_singleton settings s ih =>
    have hlast : Entries.last? (settings ++ [s]) name =
        if name = s.1 then some s.2 else Entries.last? settings name := by
      rw [Entries.last?, List.reverse_append, List.reverse_singleton, List.singleton_append,
        Entries.get?_cons, ← Entries.last?]
    rw [made_concat, setLast?, hlast, insert]
    by_cases hname : name = s.1
    · subst hname
      rw [Entries.get?_insert_self, if_pos rfl, Option.some_or]
    · rw [Entries.get?_insert_of_ne hname, if_neg hname, ih, setLast?]

theorem value_made (initial : ValueMap) (settings : List (String × Value)) (c : InputColumn) :
    (made initial settings).value c = (setLast? initial settings c.name).getD .null := by
  rw [value, get?_made]

end Row

/-- **The map of a record.** Whatever the values of columns depend on, the map that is made of them has
each name once, where it first occurs, with the value of the last column of that name. The value that a
row gives is what the name was set to last, or null if it never was. -/
theorem valueMap_of_columns (inputs : List InputColumn) :
    (∀ value : InputColumn → Value, HoldsLast inputs value (valueMapOf inputs value)) ∧
    ∀ (initial : ValueMap) (settings : List (String × Value)),
      (∀ c, (Row.made initial settings).value c =
        (Row.setLast? initial settings c.name).getD .null) ∧
      HoldsLast inputs (fun c => (Row.setLast? initial settings c.name).getD .null)
        (toValueMap inputs (.made initial settings)) := by
  refine ⟨holdsLast_valueMapOf inputs, fun initial settings => ?_⟩
  have hvalue := Row.value_made initial settings
  refine ⟨hvalue, ?_⟩
  rw [toValueMap, funext hvalue]
  exact holdsLast_valueMapOf inputs _

/-- The name that is declared twice stands first and is read as the last type says. -/
example :
    valueMapOf [⟨"a", .string⟩, ⟨"b", .any⟩, ⟨"a", .integer⟩] (fun c => .string c.type.id) =
      [("a", .string "integer"), ("b", .string "any")] := by
  rfl

end RowScript
