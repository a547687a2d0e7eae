import RowScript.Script.Access

/-!
# Values whose collectors are elsewhere

A script that keeps the handle of a collector keeps a number. A `Relocation` gives every handle
another number and says where the rows of its collector are then, and `move` carries it out on
everything in which handles occur: values, replies and faults.

A moved value is of the same kind, has the same text and the same size, and is the same outside the
script (`Datum.toValue_move`), since nobody prints or reads the number of a handle. A relocation can be
carried out before or after any change of a list or an object map.
-/

namespace RowScript

/-- Handles, and the collectors that they name, with other numbers. -/
structure Relocation where
  handle : CollectorHandle → CollectorHandle
  collectors : Collectors → Collectors

/-- Things in which handles can occur. -/
class Movable (α : Type) where
  move : Relocation → α → α

export Movable (move)

/-- Things that a relocation leaves as they are. -/
class Movable.Fixed (α : Type) [Movable α] : Prop where
  move_fixed : ∀ (ρ : Relocation) (a : α), move ρ a = a

export Movable.Fixed (move_fixed)

attribute [simp] Movable.Fixed.move_fixed

section Instances

variable {α β ε : Type} [Movable α] [Movable β] [Movable ε]

instance : Movable Unit := ⟨fun _ a => a⟩
instance : Movable Bool := ⟨fun _ a => a⟩
instance : Movable Nat := ⟨fun _ a => a⟩
instance : Movable Int := ⟨fun _ a => a⟩
instance : Movable Int64 := ⟨fun _ a => a⟩
instance : Movable String := ⟨fun _ a => a⟩

instance : Movable.Fixed Unit := ⟨fun _ _ => rfl⟩
instance : Movable.Fixed Bool := ⟨fun _ _ => rfl⟩
instance : Movable.Fixed Nat := ⟨fun _ _ => rfl⟩
instance : Movable.Fixed Int := ⟨fun _ _ => rfl⟩
instance : Movable.Fixed Int64 := ⟨fun _ _ => rfl⟩
instance : Movable.Fixed String := ⟨fun _ _ => rfl⟩

instance : Movable (Option α) := ⟨fun ρ => Option.map (move ρ)⟩

instance : Movable (α × β) := ⟨fun ρ p => (move ρ p.1, move ρ p.2)⟩

instance : Movable (Except ε α) where
  move ρ
    | .ok a => .ok (move ρ a)
    | .error e => .error (move ρ e)

instance : Movable (Outcome ε α) where
  move ρ
    | .ok a => .ok (move ρ a)
    | .error e => .error (move ρ e)
    | .aborted => .aborted

instance [Movable.Fixed α] : Movable.Fixed (Option α) :=
  ⟨fun ρ a => by cases a with
    | none => rfl
    | some a => exact congrArg some (move_fixed ρ a)⟩

variable {ρ : Relocation}

@[simp] theorem move_none : move ρ (none : Option α) = none := rfl

@[simp] theorem move_some (a : α) : move ρ (some a) = some (move ρ a) := rfl

@[simp] theorem move_pair (a : α) (b : β) : move ρ (a, b) = (move ρ a, move ρ b) := rfl

@[simp] theorem move_fst (p : α × β) : (move ρ p).1 = move ρ p.1 := rfl

@[simp] theorem move_snd (p : α × β) : (move ρ p).2 = move ρ p.2 := rfl

@[simp] theorem move_except_ok (a : α) :
    move ρ (.ok a : Except ε α) = .ok (move ρ a) := rfl

@[simp] theorem move_except_error (e : ε) :
    move ρ (.error e : Except ε α) = .error (move ρ e) := rfl

@[simp] theorem move_ok (a : α) : move ρ (.ok a : Outcome ε α) = .ok (move ρ a) := rfl

@[simp] theorem move_error (e : ε) : move ρ (.error e : Outcome ε α) = .error (move ρ e) := rfl

@[simp] theorem move_aborted : move ρ (.aborted : Outcome ε α) = .aborted := rfl

theorem move_getD (a? : Option α) (a : α) : (move ρ a?).getD (move ρ a) = move ρ (a?.getD a) := by
  cases a? <;> rfl

end Instances

/-! ### Relocations that can be undone -/

/-- One relocation takes the handles back to where the other has taken them from. -/
def Relocation.Undoes (back ρ : Relocation) : Prop := ∀ h, back.handle (ρ.handle h) = h

/-- The handles still name the rows that they named, and each can be told from the others. -/
structure Relocation.Sound (ρ : Relocation) : Prop where
  fresh : ∀ cs, (ρ.collectors cs).fresh = (ρ.handle cs.fresh.1, ρ.collectors cs.fresh.2)
  put : ∀ cs h values, (ρ.collectors cs).put (ρ.handle h) values = ρ.collectors (cs.put h values)
  take : ∀ cs h,
    (ρ.collectors cs).take (ρ.handle h) = ((cs.take h).1, ρ.collectors (cs.take h).2)
  undone : ∃ back : Relocation, back.Undoes ρ

/-! ### Collectors behind others -/

namespace Relocation

/-- The collectors stand behind others. -/
def behind (others : Collectors) : Relocation where
  handle h := ⟨others.buffers.size + h.index⟩
  collectors cs := ⟨others.buffers ++ cs.buffers⟩

/-- All handles and collectors stay as they are. -/
def still : Relocation := ⟨id, id⟩

theorem modify_behind {α : Type} (others xs : Array α) (i : Nat) (f : α → α) :
    (others ++ xs).modify (others.size + i) f = others ++ xs.modify i f := by
  refine Array.ext_getElem? fun j => ?_
  rw [Array.getElem?_modify]
  by_cases hj : j < others.size
  · rw [if_neg (by omega), Array.getElem?_append_left hj, Array.getElem?_append_left hj]
  · have hle : others.size ≤ j := Nat.le_of_not_lt hj
    rw [Array.getElem?_append_right hle, Array.getElem?_append_right hle, Array.getElem?_modify]
    simp only [show (others.size + i = j) = (i = j - others.size) from propext (by omega)]

theorem sound_behind (others : Collectors) : (behind others).Sound where
  fresh cs := by
    simp only [behind, Collectors.fresh, Array.size_append, Array.push_append]
  put cs h values := congrArg Collectors.mk (modify_behind _ _ _ _)
  take cs h := by
    have kept : ((behind others).collectors cs).rows ((behind others).handle h) = cs.rows h := by
      simp only [behind, Collectors.rows, Array.getD_eq_getD_getElem?]
      rw [Array.getElem?_append_right (Nat.le_add_right _ _), Nat.add_sub_cancel_left]
    exact Prod.ext kept (congrArg Collectors.mk (modify_behind _ _ _ _))
  undone := ⟨⟨fun h => ⟨h.index - others.buffers.size⟩, id⟩, fun h =>
    congrArg CollectorHandle.mk (Nat.add_sub_cancel_left _ _)⟩

theorem sound_still : still.Sound where
  fresh _ := rfl
  put _ _ _ := rfl
  take _ _ := rfl
  undone := ⟨still, fun _ => rfl⟩

end Relocation

namespace Script

variable {ρ : Relocation}

/-! ### Values -/

mutual

/-- A value with its handles moved. -/
def Datum.moved (ρ : Relocation) : Datum → Datum
  | .array items => .array (Datum.movedItems ρ items)
  | .map entries => .map (Datum.movedEntries ρ entries)
  | .collector h => .collector (ρ.handle h)
  | .function name bound => .function name (Datum.movedItems ρ bound)
  | .unit => .unit
  | .bool b => .bool b
  | .int n => .int n
  | .float x => .float x
  | .char c => .char c
  | .string s => .string s
  | .record values => .record values
  | .range first last closed => .range first last closed
  | .cell i => .cell i

def Datum.movedItems (ρ : Relocation) : List Datum → List Datum
  | [] => []
  | d :: rest => d.moved ρ :: Datum.movedItems ρ rest

def Datum.movedEntries (ρ : Relocation) : List (String × Datum) → List (String × Datum)
  | [] => []
  | (k, d) :: rest => (k, d.moved ρ) :: Datum.movedEntries ρ rest

end

instance : Movable Datum := ⟨Datum.moved⟩
instance : Movable (List Datum) := ⟨Datum.movedItems⟩
instance : Movable (List (String × Datum)) := ⟨Datum.movedEntries⟩
instance : Movable (Array Datum) := ⟨fun ρ => Array.map (move ρ)⟩

@[simp] theorem move_unit : move ρ Datum.unit = .unit := rfl
@[simp] theorem move_bool (b : Bool) : move ρ (Datum.bool b) = .bool b := rfl
@[simp] theorem move_int (n : Int64) : move ρ (Datum.int n) = .int n := rfl
@[simp] theorem move_float (x : Float) : move ρ (Datum.float x) = .float x := rfl
@[simp] theorem move_char (c : Char) : move ρ (Datum.char c) = .char c := rfl
@[simp] theorem move_string (s : String) : move ρ (Datum.string s) = .string s := rfl
@[simp] theorem move_record (r : ValueMap) : move ρ (Datum.record r) = .record r := rfl
@[simp] theorem move_cell (i : Nat) : move ρ (Datum.cell i) = .cell i := rfl

@[simp] theorem move_range (a b : Int64) (closed : Bool) :
    move ρ (Datum.range a b closed) = .range a b closed := rfl

@[simp] theorem move_array (xs : List Datum) : move ρ (Datum.array xs) = .array (move ρ xs) := rfl

@[simp] theorem move_map (m : ObjectMap) : move ρ (Datum.map m) = .map (move ρ m) := rfl

@[simp] theorem move_collector (h : CollectorHandle) :
    move ρ (Datum.collector h) = .collector (ρ.handle h) := rfl

@[simp] theorem move_function (name : String) (bound : List Datum) :
    move ρ (Datum.function name bound) = .function name (move ρ bound) := rfl

@[simp] theorem move_nil : move ρ ([] : List Datum) = [] := rfl

@[simp] theorem move_cons (d : Datum) (rest : List Datum) :
    move ρ (d :: rest) = move ρ d :: move ρ rest := rfl

@[simp] theorem move_entries_nil : move ρ ([] : List (String × Datum)) = [] := rfl

@[simp] theorem move_entries_cons (k : String) (d : Datum) (rest : List (String × Datum)) :
    move ρ ((k, d) :: rest) = (k, move ρ d) :: move ρ rest := rfl

theorem movedItems_eq (xs : List Datum) : Datum.movedItems ρ xs = move ρ xs := rfl

theorem movedEntries_eq (m : List (String × Datum)) : Datum.movedEntries ρ m = move ρ m := rfl

section Inversion

variable {d : Datum} {ds : List Datum}

theorem move_eq_nil : move ρ ds = [] ↔ ds = [] := by
  cases ds <;> simp

theorem move_eq_cons {e : Datum} {es : List Datum} :
    move ρ ds = e :: es ↔ ∃ d rest, ds = d :: rest ∧ move ρ d = e ∧ move ρ rest = es := by
  cases ds <;> simp [and_assoc]

theorem move_eq_array {ys : List Datum} :
    move ρ d = .array ys ↔ ∃ xs, d = .array xs ∧ move ρ xs = ys := by
  cases d <;> simp

theorem move_eq_map {n : ObjectMap} : move ρ d = .map n ↔ ∃ m, d = .map m ∧ move ρ m = n := by
  cases d <;> simp

theorem move_eq_record {r : ValueMap} : move ρ d = .record r ↔ d = .record r := by
  cases d <;> simp

theorem move_eq_collector {h : CollectorHandle} :
    move ρ d = .collector h ↔ ∃ h', d = .collector h' ∧ ρ.handle h' = h := by
  cases d <;> simp

theorem move_eq_function {name : String} {bound : List Datum} :
    move ρ d = .function name bound ↔ ∃ own, d = .function name own ∧ move ρ own = bound := by
  cases d <;> simp [and_assoc]

end Inversion

theorem move_items (xs : List Datum) : move ρ xs = xs.map (move ρ) := by
  induction xs with
  | nil => rfl
  | cons x xs ih => rw [move_cons, ih, List.map_cons]

theorem move_entries (m : List (String × Datum)) :
    move ρ m = m.map fun p => (p.1, move ρ p.2) := by
  induction m with
  | nil => rfl
  | cons p m ih =>
    obtain ⟨k, d⟩ := p
    rw [move_entries_cons, ih, List.map_cons]

theorem loadFrom_move (cells : Array Datum) (d : Datum) :
    (move ρ d).loadFrom (move ρ cells) = move ρ (d.loadFrom cells) := by
  cases d with
  | cell i =>
    have item : (move ρ cells)[i]? = move ρ cells[i]? := Array.getElem?_map
    simp only [move_cell, Datum.loadFrom, Array.getD_eq_getD_getElem?, item]
    exact move_getD cells[i]? .unit
  | _ => rfl

mutual

theorem moved_back {back : Relocation} (h : back.Undoes ρ) (d : Datum) :
    move back (move ρ d) = d := by
  cases d with
  | array items => exact congrArg Datum.array (movedItems_back h items)
  | map entries => exact congrArg Datum.map (movedEntries_back h entries)
  | collector handle => exact congrArg Datum.collector (h handle)
  | function name bound => exact congrArg (Datum.function name) (movedItems_back h bound)
  | _ => rfl

theorem movedItems_back {back : Relocation} (h : back.Undoes ρ) (items : List Datum) :
    move back (move ρ items) = items := by
  cases items with
  | nil => rfl
  | cons d rest => rw [move_cons, move_cons, moved_back h d, movedItems_back h rest]

theorem movedEntries_back {back : Relocation} (h : back.Undoes ρ)
    (entries : List (String × Datum)) : move back (move ρ entries) = entries := by
  cases entries with
  | nil => rfl
  | cons p rest =>
    obtain ⟨k, d⟩ := p
    rw [move_entries_cons, move_entries_cons, moved_back h d, movedEntries_back h rest]

end

mutual

/-- A relocation that keeps all handles moves nothing. -/
theorem moved_of_kept (h : ∀ handle, ρ.handle handle = handle) (d : Datum) : move ρ d = d := by
  cases d with
  | array items => exact congrArg Datum.array (movedItems_of_kept h items)
  | map entries => exact congrArg Datum.map (movedEntries_of_kept h entries)
  | collector handle => exact congrArg Datum.collector (h handle)
  | function name bound => exact congrArg (Datum.function name) (movedItems_of_kept h bound)
  | _ => rfl

theorem movedItems_of_kept (h : ∀ handle, ρ.handle handle = handle) (items : List Datum) :
    move ρ items = items := by
  cases items with
  | nil => rfl
  | cons d rest => rw [move_cons, moved_of_kept h d, movedItems_of_kept h rest]

theorem movedEntries_of_kept (h : ∀ handle, ρ.handle handle = handle)
    (entries : List (String × Datum)) : move ρ entries = entries := by
  cases entries with
  | nil => rfl
  | cons p rest =>
    obtain ⟨k, d⟩ := p
    rw [move_entries_cons, moved_of_kept h d, movedEntries_of_kept h rest]

end

/-! ### What values are and how they print -/

namespace Datum

@[simp] theorem kindName_move (d : Datum) : (move ρ d).kindName = d.kindName := by
  cases d <;> rfl

@[simp] theorem signatureName_move (d : Datum) : (move ρ d).signatureName = d.signatureName := by
  cases d <;> rfl

@[simp] theorem isForeign_move (d : Datum) : (move ρ d).isForeign = d.isForeign := by
  cases d <;> rfl

@[simp] theorem isCell_move (d : Datum) : (move ρ d).isCell = d.isCell := by
  cases d <;> rfl

@[simp] theorem sameKind_move (a b : Datum) : (move ρ a).sameKind (move ρ b) = a.sameKind b := by
  simp only [sameKind, kindName_move]

@[simp] theorem signature_move (name : String) (args : List Datum) :
    signature name (move ρ args) = signature name args := by
  have kinds : (move ρ args).map signatureName = args.map signatureName := by
    rw [move_items, List.map_map]
    exact List.map_congr_left fun d _ => signatureName_move d
  rw [signature, signature, kinds]

mutual

@[simp] theorem toValue_move (d : Datum) : (move ρ d).toValue = d.toValue := by
  cases d with
  | array items => exact congrArg Value.array (itemValues_move items)
  | map entries => exact congrArg Value.object (entryValues_move entries)
  | _ => rfl

@[simp] theorem itemValues_move (items : List Datum) :
    itemValues (move ρ items) = itemValues items := by
  cases items with
  | nil => rfl
  | cons d rest => rw [move_cons, itemValues, itemValues, toValue_move d, itemValues_move rest]

theorem entryValues_move (entries : List (String × Datum)) :
    entryValues (move ρ entries) = entryValues entries := by
  cases entries with
  | nil => rfl
  | cons p rest =>
    obtain ⟨k, d⟩ := p
    rw [move_entries_cons, entryValues, entryValues, toValue_move d, entryValues_move rest]

end

/-- A way to print the kinds that the language knows nothing of which does not print numbers of
handles. -/
def Blind (foreign : Datum → String) : Prop :=
  ∀ h h', foreign (.collector h) = foreign (.collector h')

theorem blind_shown : Blind shown := fun _ _ => rfl

theorem blind_foreignName : Blind foreignName := fun _ _ => rfl

section Texts

variable {foreign : Datum → String} (blind : Blind foreign)
include blind

set_option linter.unusedSectionVars false in
mutual

theorem innerText_move (d : Datum) : (move ρ d).innerText foreign = d.innerText foreign := by
  cases d with
  | array items =>
    exact congrArg (fun ts => "[" ++ String.intercalate ", " ts ++ "]") (innerItems_move items)
  | map entries =>
    exact congrArg (fun ts => "#\x7b" ++ String.intercalate ", " ts ++ "\x7d")
      (innerEntries_move entries)
  | collector h => exact blind _ _
  | _ => rfl

theorem innerItems_move (items : List Datum) :
    innerItems foreign (move ρ items) = innerItems foreign items := by
  cases items with
  | nil => rfl
  | cons d rest => rw [move_cons, innerItems, innerItems, innerText_move d, innerItems_move rest]

theorem innerEntries_move (entries : List (String × Datum)) :
    innerEntries foreign (move ρ entries) = innerEntries foreign entries := by
  cases entries with
  | nil => rfl
  | cons p rest =>
    obtain ⟨k, d⟩ := p
    rw [move_entries_cons, innerEntries, innerEntries, innerText_move d, innerEntries_move rest]

end

theorem outerText_move (d : Datum) : (move ρ d).outerText foreign = d.outerText foreign := by
  have inner := innerText_move (ρ := ρ) blind d
  cases d with
  | unit => rfl
  | float x => rfl
  | char c => rfl
  | string s => rfl
  | _ => exact inner

end Texts

@[simp] theorem printText_move (d : Datum) : (move ρ d).printText = d.printText :=
  outerText_move blind_shown d

@[simp] theorem debugText_move (d : Datum) : (move ρ d).debugText = d.debugText :=
  innerText_move blind_shown d

@[simp] theorem errorText_move (d : Datum) : (move ρ d).errorText = d.errorText :=
  outerText_move blind_foreignName d

mutual

@[simp] theorem textSize_move (d : Datum) : (move ρ d).textSize = d.textSize := by
  cases d with
  | array items => exact itemSizes_move items
  | map entries => exact entrySizes_move entries
  | _ => rfl

theorem itemSizes_move (items : List Datum) : itemSizes (move ρ items) = itemSizes items := by
  cases items with
  | nil => rfl
  | cons d rest => rw [move_cons, itemSizes, itemSizes, textSize_move d, itemSizes_move rest]

theorem entrySizes_move (entries : List (String × Datum)) :
    entrySizes (move ρ entries) = entrySizes entries := by
  cases entries with
  | nil => rfl
  | cons p rest =>
    obtain ⟨k, d⟩ := p
    rw [move_entries_cons, entrySizes, entrySizes, textSize_move d, entrySizes_move rest]

end

mutual

@[simp] theorem move_ofValue (v : Value) : move ρ (ofValue v) = ofValue v := by
  cases v with
  | array items => exact congrArg array (move_ofValues items)
  | _ => rfl

@[simp] theorem move_ofValues (vs : List Value) : move ρ (ofValues vs) = ofValues vs := by
  cases vs with
  | nil => rfl
  | cons v rest => rw [ofValues, move_cons, move_ofValue v, move_ofValues rest]

end

end Datum

mutual

@[simp] theorem Literal.move_datum (l : Literal) : move ρ l.datum = l.datum := by
  cases l with
  | array items => exact congrArg Datum.array (Literal.move_itemData items)
  | map entries => exact congrArg Datum.map (Literal.move_entryData entries)
  | _ => rfl

theorem Literal.move_itemData (items : List Literal) :
    move ρ (Literal.itemData items) = Literal.itemData items := by
  cases items with
  | nil => rfl
  | cons l rest =>
    rw [Literal.itemData, move_cons, Literal.move_datum l, Literal.move_itemData rest]

theorem Literal.move_entryData (entries : List (String × Literal)) :
    move ρ (Literal.entryData entries) = Literal.entryData entries := by
  cases entries with
  | nil => rfl
  | cons p rest =>
    obtain ⟨k, l⟩ := p
    rw [Literal.entryData, move_entries_cons, Literal.move_datum l, Literal.move_entryData rest]

end

/-! ### Lists and object maps -/

section Lists

variable (xs ys : List Datum)

@[simp] theorem length_move : (move ρ xs).length = xs.length := by
  rw [move_items, List.length_map]

@[simp] theorem isEmpty_move : (move ρ xs).isEmpty = xs.isEmpty := by
  cases xs <;> rfl

@[simp] theorem move_append : move ρ (xs ++ ys) = move ρ xs ++ move ρ ys := by
  simp only [move_items, List.map_append]

@[simp] theorem move_reverse : move ρ xs.reverse = (move ρ xs).reverse := by
  simp only [move_items, List.map_reverse]

@[simp] theorem move_take (n : Nat) : move ρ (xs.take n) = (move ρ xs).take n := by
  simp only [move_items, List.map_take]

@[simp] theorem move_drop (n : Nat) : move ρ (xs.drop n) = (move ρ xs).drop n := by
  simp only [move_items, List.map_drop]

@[simp] theorem move_set (n : Nat) (d : Datum) :
    move ρ (xs.set n d) = (move ρ xs).set n (move ρ d) := by
  simp only [move_items, List.map_set]

@[simp] theorem move_replicate (n : Nat) (d : Datum) :
    move ρ (List.replicate n d) = List.replicate n (move ρ d) := by
  simp only [move_items, List.map_replicate]

@[simp] theorem move_slice (start count : Int) :
    move ρ (slice xs start count) = slice (move ρ xs) start count := by
  rw [slice, slice, move_take, move_drop, length_move]

@[simp] theorem move_removeAt (n : Nat) : move ρ (removeAt xs n) = removeAt (move ρ xs) n := by
  simp only [removeAt, move_append, move_take, move_drop]

@[simp] theorem move_insertItem (i : Int) (d : Datum) :
    move ρ (insertItem xs i d) = insertItem (move ρ xs) i (move ρ d) := by
  simp only [insertItem, move_append, move_take, move_drop, move_cons, length_move]

@[simp] theorem move_getElem? (n : Nat) : move ρ xs[n]? = (move ρ xs)[n]? := by
  rw [move_items, List.getElem?_map]
  rfl

@[simp] theorem move_getD_unit (n : Nat) :
    move ρ (xs.getD n .unit) = (move ρ xs).getD n .unit := by
  rw [List.getD_eq_getElem?_getD, List.getD_eq_getElem?_getD, ← move_getElem?]
  exact (move_getD _ _).symm

@[simp] theorem move_texts (ss : List String) : move ρ (texts ss) = texts ss := by
  simp only [texts, move_array, move_items, List.map_map]
  rfl

end Lists

section Maps

variable (m n : ObjectMap)

theorem move_insertSorted (k : String) (d : Datum) :
    move ρ (Entries.insertSorted m k d) = Entries.insertSorted (move ρ m) k (move ρ d) := by
  induction m with
  | nil => rfl
  | cons p rest ih =>
    obtain ⟨j, u⟩ := p
    simp only [Entries.insertSorted, move_entries_cons]
    split
    · rfl
    · split
      · rfl
      · rw [move_entries_cons, ih]

theorem move_merge : move ρ (ObjectMap.merge m n) = ObjectMap.merge (move ρ m) (move ρ n) := by
  unfold ObjectMap.merge
  induction n generalizing m with
  | nil => rfl
  | cons p rest ih =>
    obtain ⟨k, d⟩ := p
    rw [List.foldl_cons, ih, move_insertSorted]
    rfl

theorem move_lookup (k : String) : move ρ (m.lookup k) = (move ρ m).lookup k := by
  induction m with
  | nil => rfl
  | cons p rest ih =>
    obtain ⟨j, u⟩ := p
    rw [move_entries_cons, List.lookup_cons, List.lookup_cons]
    split
    · rfl
    · exact ih

theorem move_valueOf (k : String) :
    move ρ ((m.lookup k).getD .unit) = ((move ρ m).lookup k).getD .unit := by
  rw [← move_lookup]
  exact (move_getD _ _).symm

theorem move_erase (k : String) : move ρ (m.erase k) = (move ρ m).erase k := by
  simp only [Entries.erase, move_entries, List.filter_map]
  rfl

theorem move_values : move ρ m.values = (move ρ m).values := by
  simp only [Entries.values, move_entries, move_items, List.map_map]
  rfl

@[simp] theorem keys_move : (move ρ m).keys = m.keys := by
  simp only [Entries.keys, move_entries, List.map_map]
  rfl

@[simp] theorem entries_length_move : (move ρ m).length = m.length := by
  rw [move_entries, List.length_map]

@[simp] theorem entries_isEmpty_move : (move ρ m).isEmpty = m.isEmpty := by
  cases m <;> rfl

@[simp] theorem any_move (k : String) : (move ρ m).any (·.1 == k) = m.any (·.1 == k) := by
  rw [move_entries, List.any_map]
  rfl

end Maps

/-! ### Faults and replies -/

instance : Movable Cause where
  move ρ
    | .thrown d => .thrown (move ρ d)
    | c => c

instance : Movable Fault := ⟨fun ρ f => { f with cause := move ρ f.cause }⟩

instance : Movable Reply := ⟨fun ρ r => ⟨move ρ r.value, move ρ r.self⟩⟩

@[simp] theorem move_reply (value self : Datum) :
    move ρ (⟨value, self⟩ : Reply) = ⟨move ρ value, move ρ self⟩ := rfl

@[simp] theorem isCatchable_move (c : Cause) : (move ρ c).isCatchable = c.isCatchable := by
  cases c <;> rfl

@[simp] theorem message_move (c : Cause) : (move ρ c).message = c.message := by
  cases c with
  | thrown d =>
    have thrown : "Runtime error: " ++ (move ρ d).errorText = "Runtime error: " ++ d.errorText := by
      rw [Datum.errorText_move]
    cases d with
    | unit => rfl
    | string s => rfl
    | _ => exact thrown
  | _ => rfl

namespace Fault

@[simp] theorem cause_move (f : Fault) : (move ρ f).cause = move ρ f.cause := rfl

@[simp] theorem pos_move (f : Fault) : (move ρ f).pos = f.pos := rfl

@[simp] theorem calls_move (f : Fault) : (move ρ f).calls = f.calls := rfl

@[simp] theorem body_move (f : Fault) : (move ρ f).body = f.body := by
  rw [body, body, cause_move, message_move, pos_move, calls_move]

@[simp] theorem message_move (f : Fault) : (move ρ f).message = f.message := by
  rw [message, message, body_move]

theorem move_locate (f : Fault) (pos : Position) :
    move ρ (f.locate pos) = (move ρ f).locate pos := by
  obtain ⟨cause, place, calls⟩ := f
  cases calls <;> rfl

theorem move_leaving (f : Fault) (function : String) (pos : Position) :
    move ρ (f.leaving function pos) = (move ρ f).leaving function pos := by
  simp only [leaving, cause_move, isCatchable_move]
  split <;> rfl

theorem move_described (entries : List (String × Datum)) (m : ObjectMap)
    (plain : ∀ p ∈ entries, move ρ p.2 = p.2) (hm : move ρ m = m) :
    move ρ (entries.foldl (fun m p => Entries.insertSorted m p.1 p.2) m) =
      entries.foldl (fun m p => Entries.insertSorted m p.1 p.2) m := by
  induction entries generalizing m with
  | nil => exact hm
  | cons p rest ih =>
    obtain ⟨head, tail⟩ := List.forall_mem_cons.mp plain
    refine ih _ tail ?_
    rw [move_insertSorted, hm, head]

theorem move_details (c : Cause) : ∀ p ∈ c.details, move ρ p.2 = p.2 := by
  cases c <;> simp [Cause.details]

theorem move_caught (f : Fault) : move ρ f.caught = (move ρ f).caught := by
  obtain ⟨cause, pos, calls⟩ := f
  cases cause with
  | thrown d => rfl
  | _ =>
    refine congrArg Datum.map (move_described _ [] ?_ rfl)
    simp only [List.forall_mem_cons, List.forall_mem_append]
    refine ⟨rfl, ?_, ?_⟩
    · split
      · simp
      · simp
    · split
      · simp
      · exact List.forall_mem_cons.mpr ⟨rfl, move_details _⟩

end Fault

end Script

end RowScript
