/-!
# Named entries in order

A row, a record and a nested object are all finite maps from names to values that keep the order in
which their names were first set. `Entries` is such a map as the list of its pairs.

* `insert` replaces the value of a known name in place and appends a new name (`keys_insert`).
* `get?` reads the value of a name (`get?_insert_self`, `get?_insert_of_ne`).
* `ofPairs` inserts pairs one after the other, so a repeated name keeps its first position and
  takes its last value.
-/

namespace RowScript

/-- A map from names to values in the order in which the names were first set. -/
abbrev Entries (α : Type) := List (String × α)

namespace Entries

variable {α β : Type}

def keys (m : Entries α) : List String := m.map (·.1)

def values (m : Entries α) : List α := m.map (·.2)

/-- The value under `name`, if there is one. -/
def get? (m : Entries α) (name : String) : Option α := List.lookup name m

def contains (m : Entries α) (name : String) : Bool := m.any (·.1 == name)

/-- Set the value of `name`: in place if the name is known, else at the end. -/
def insert : Entries α → String → α → Entries α
  | [], name, v => [(name, v)]
  | (k, u) :: rest, name, v =>
    if k == name then (k, v) :: rest else (k, u) :: insert rest name v

/-- The map without `name`. -/
def erase (m : Entries α) (name : String) : Entries α := m.filter (·.1 != name)

/-- Insert pairs in order into the empty map. -/
def ofPairs (pairs : List (String × α)) : Entries α :=
  pairs.foldl (fun m p => insert m p.1 p.2) []

/-- Set the value of `name` in a map whose names ascend, keeping them ascending. -/
def insertSorted : Entries α → String → α → Entries α
  | [], name, v => [(name, v)]
  | (k, u) :: rest, name, v =>
    if k == name then (k, v) :: rest
    else if name < k then (name, v) :: (k, u) :: rest
    else (k, u) :: insertSorted rest name v

/-- No name occurs twice. -/
def Distinct (m : Entries α) : Prop := m.keys.Nodup

instance (m : Entries α) : Decidable m.Distinct := inferInstanceAs (Decidable m.keys.Nodup)

@[simp] theorem keys_nil : keys ([] : Entries α) = [] := rfl

@[simp] theorem keys_cons (p : String × α) (m : Entries α) : keys (p :: m) = p.1 :: keys m := rfl

@[simp] theorem insert_nil (name : String) (v : α) : insert [] name v = [(name, v)] := rfl

/-- Setting a name appends it to the names unless it is one of them. -/
theorem keys_insert (m : Entries α) (name : String) (v : α) :
    (m.insert name v).keys = if name ∈ m.keys then m.keys else m.keys ++ [name] := by
  induction m with
  | nil => rfl
  | cons p rest ih =>
    obtain ⟨k, u⟩ := p
    by_cases h : k = name
    · subst h; simp [insert]
    · have h' : ¬ name = k := fun e => h e.symm
      simp only [insert, beq_iff_eq, h, if_false, keys_cons, ih, List.mem_cons, h', false_or]
      split <;> simp

theorem insert_of_not_mem {m : Entries α} {name : String} (h : name ∉ m.keys) (v : α) :
    m.insert name v = m ++ [(name, v)] := by
  induction m with
  | nil => rfl
  | cons p rest ih =>
    obtain ⟨k, u⟩ := p
    rw [keys_cons, List.mem_cons, not_or] at h
    have hk : (k == name) = false := by simpa using fun heq => h.1 heq.symm
    simp [insert, hk, ih h.2]

theorem contains_of_not_mem {m : Entries α} {name : String} (h : name ∉ m.keys) :
    m.contains name = false := by
  rw [contains, List.any_eq_false]
  intro p hp heq
  exact h (List.mem_map.mpr ⟨p, hp, eq_of_beq heq⟩)

@[simp] theorem get?_insert_self (m : Entries α) (name : String) (v : α) :
    (m.insert name v).get? name = some v := by
  induction m with
  | nil => simp [get?, insert]
  | cons p rest ih =>
    obtain ⟨k, u⟩ := p
    by_cases h : k = name
    · subst h; simp [insert, get?]
    · have h' : (name == k) = false := by simpa using fun e => h e.symm
      simpa [insert, h, get?, List.lookup_cons, h'] using ih

theorem get?_insert_of_ne {name other : String} (h : other ≠ name) (m : Entries α) (v : α) :
    (m.insert name v).get? other = m.get? other := by
  induction m with
  | nil => simp [get?, List.lookup_cons, beq_eq_false_iff_ne.mpr h]
  | cons p rest ih =>
    obtain ⟨k, u⟩ := p
    by_cases hk : k = name
    · subst hk; simp [insert, get?, List.lookup_cons, beq_eq_false_iff_ne.mpr h]
    · simp only [get?] at ih
      simp [insert, hk, get?, List.lookup_cons, ih]

theorem Distinct.insert {m : Entries α} (h : m.Distinct) (name : String) (v : α) :
    (m.insert name v).Distinct := by
  rw [Distinct, keys_insert]
  split
  · exact h
  · next hnew =>
    refine List.nodup_append.mpr ⟨h, by simp, fun k hk other hother => ?_⟩
    rw [List.mem_singleton.mp hother]
    exact fun heq => hnew (heq ▸ hk)

/-- The values of a map do not matter for where a name goes. -/
theorem insert_map (f : α → β) (m : Entries α) (name : String) (v : α) :
    insert (m.map fun p => (p.1, f p.2)) name (f v) =
      (m.insert name v).map fun p => (p.1, f p.2) := by
  induction m with
  | nil => rfl
  | cons p rest ih =>
    obtain ⟨k, u⟩ := p
    simp only [List.map_cons, insert, ih]
    split <;> rfl

end Entries

end RowScript
