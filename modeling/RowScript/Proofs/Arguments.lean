import Mathlib.Data.List.Forall2
import RowScript.Proofs.Columns
import RowScript.Proofs.Feed
import RowScript.Proofs.Tables
import RowScript.Proofs.Warnings

/-!
# From a record to the argument of a script

Places of columns are looked up in a header once, and cells are then read at these places. What comes of
it does not speak of places: the text under a name is that of the first column of the header with this
name (`cellUnder`), and a record is read from the texts under the declared names (`rowOfCells_places`).

* A header is wanting if a declared name is not in it. The first such name is the fault, and no record
  is looked at (`columnPlaces_missing`).
* Cells are read in the order of declaration, and the first that cannot be read is the fault
  (`rowOfTexts_eq_error_iff`), even if a later column of its name would have set the value anew.
* Of columns of one name the last one's type counts (`get?_rowOfTexts`), while the map that a script
  gets has the name where it was declared first.
-/

namespace RowScript

/-! ### Names instead of places -/

/-- The text under a name in a record: that of the first column of the header with this name. -/
def cellUnder (header cells : List String) (name : String) : String :=
  ((header.zip cells).lookup name).getD ""

theorem getD_findIdx? {header : List String} {name : String} {i : Nat}
    (h : header.findIdx? (· == name) = some i) (cells : List String) :
    cells.getD i "" = cellUnder header cells name := by
  induction header generalizing cells i with
  | nil => simp at h
  | cons first rest ih =>
    by_cases hfirst : first = name
    · subst hfirst
      obtain rfl : 0 = i := by simpa [List.findIdx?_cons] using h
      cases cells <;> simp [cellUnder]
    · have hne : (name == first) = false := by simpa using Ne.symm hfirst
      obtain ⟨j, hj, rfl⟩ : ∃ j, rest.findIdx? (· == name) = some j ∧ j + 1 = i := by
        simpa [List.findIdx?_cons, hfirst] using h
      cases cells with
      | nil => simp [cellUnder]
      | cons cell cells =>
        rw [List.getD_cons_succ, ih hj]
        simp [cellUnder, List.lookup_cons, hne]

/-- Read each column from the text under its name. -/
def rowOfTexts (text : String → String) : List InputColumn → Row → Except CellFault Row
  | [], row => .ok row
  | c :: rest, row => do
    let v ← c.type.parse (text c.name)
    rowOfTexts text rest (row.insert c.name v)

theorem rowOfCells_places {header : List String} {inputs : List InputColumn} {places : List Nat}
    (h : columnPlaces header inputs = .ok places) (cells : List String) (row : Row) :
    rowOfCells cells (inputs.zip places) row = rowOfTexts (cellUnder header cells) inputs row := by
  induction inputs generalizing places row with
  | nil => rfl
  | cons c rest ih =>
    rw [columnPlaces] at h
    split at h
    · next i hi =>
      cases hrest : columnPlaces header rest with
      | error fault =>
        rw [hrest] at h
        cases h
      | ok more =>
        rw [hrest] at h
        cases h
        simp only [List.zip_cons_cons, rowOfCells, rowOfTexts, getD_findIdx? hi, ih hrest]
    · cases h

theorem columnPlaces_missing {header : List String} {before : List InputColumn} {c : InputColumn}
    (hbefore : ∀ b ∈ before, b.name ∈ header) (hc : c.name ∉ header) (after : List InputColumn) :
    columnPlaces header (before ++ c :: after) = .error (.missingColumn c.name) := by
  have hnone : header.findIdx? (· == c.name) = none := by
    rw [List.findIdx?_eq_none_iff]
    intro name hname
    have hne : name ≠ c.name := fun heq => hc (heq ▸ hname)
    simpa using hne
  induction before with
  | nil => rw [List.nil_append, columnPlaces, hnone]
  | cons b before ih =>
    have hmore := ih fun b' hb' => hbefore b' (List.mem_cons_of_mem _ hb')
    have hfound : (header.findIdx? (· == b.name)).isSome := by
      rw [List.findIdx?_isSome, List.any_eq_true]
      exact ⟨b.name, hbefore b List.mem_cons_self, beq_self_eq_true _⟩
    obtain ⟨i, hi⟩ := Option.isSome_iff_exists.mp hfound
    rw [List.cons_append, columnPlaces, hi, hmore]
    rfl

theorem exists_first_missing {header : List String} {inputs : List InputColumn}
    (h : ∃ c ∈ inputs, c.name ∉ header) :
    ∃ before c after, inputs = before ++ c :: after ∧ (∀ b ∈ before, b.name ∈ header) ∧
      c.name ∉ header := by
  have hsome : (inputs.find? (·.name ∉ header)).isSome := by simpa using h
  obtain ⟨c, hc⟩ := Option.isSome_iff_exists.mp hsome
  obtain ⟨hmissing, before, after, hinputs, hbefore⟩ := List.find?_eq_some_iff_append.mp hc
  exact ⟨before, c, after, hinputs, by simpa using hbefore, by simpa using hmissing⟩

/-! ### What a record is read as -/

/-- The text under the column's name can be read at the column's type. -/
def InputColumn.Readable (text : String → String) (c : InputColumn) : Prop :=
  ∃ v, c.type.parse (text c.name) = .ok v

section Texts

variable {text : String → String} {c : InputColumn} {inputs : List InputColumn} {row row' : Row}
  {fault : CellFault}

theorem rowOfTexts_cons_eq_ok :
    rowOfTexts text (c :: inputs) row = .ok row' ↔ ∃ v, c.type.parse (text c.name) = .ok v ∧
      rowOfTexts text inputs (row.insert c.name v) = .ok row' := by
  rw [rowOfTexts]
  cases c.type.parse (text c.name) <;> simp [bind, Except.bind]

theorem rowOfTexts_cons_eq_error :
    rowOfTexts text (c :: inputs) row = .error fault ↔ c.type.parse (text c.name) = .error fault ∨
      ∃ v, c.type.parse (text c.name) = .ok v ∧
        rowOfTexts text inputs (row.insert c.name v) = .error fault := by
  rw [rowOfTexts]
  cases c.type.parse (text c.name) <;> simp [bind, Except.bind]

theorem rowOfTexts_eq_error_iff :
    rowOfTexts text inputs row = .error fault ↔
      ∃ before c after, inputs = before ++ c :: after ∧ (∀ b ∈ before, b.Readable text) ∧
        c.type.parse (text c.name) = .error fault := by
  induction inputs generalizing row with
  | nil => simp [rowOfTexts]
  | cons first rest ih =>
    rw [rowOfTexts_cons_eq_error]
    constructor
    · rintro (hfirst | ⟨v, hfirst, hrest⟩)
      · exact ⟨[], first, rest, rfl, by simp, hfirst⟩
      · obtain ⟨before, c, after, rfl, hbefore, hc⟩ := ih.mp hrest
        exact ⟨first :: before, c, after, rfl, List.forall_mem_cons.mpr ⟨⟨v, hfirst⟩, hbefore⟩, hc⟩
    · rintro ⟨before, c, after, hinputs, hbefore, hc⟩
      cases before with
      | nil =>
        cases hinputs
        exact .inl hc
      | cons b before =>
        cases hinputs
        obtain ⟨⟨v, hfirst⟩, hbefore⟩ := List.forall_mem_cons.mp hbefore
        exact .inr ⟨v, hfirst, ih.mpr ⟨before, c, after, rfl, hbefore, hc⟩⟩

theorem readable_of_rowOfTexts (h : rowOfTexts text inputs row = .ok row') :
    ∀ c ∈ inputs, c.Readable text := by
  induction inputs generalizing row with
  | nil => simp
  | cons c rest ih =>
    obtain ⟨v, hparse, hrest⟩ := rowOfTexts_cons_eq_ok.mp h
    exact List.forall_mem_cons.mpr ⟨⟨v, hparse⟩, ih hrest⟩

end Texts

/-- The row has under a name what the last column of the name reads, or what was there before. -/
theorem get?_rowOfTexts {text : String → String} {inputs : List InputColumn} {row row' : Row}
    (h : rowOfTexts text inputs row = .ok row') (name : String) :
    match lastNamed? inputs name with
    | some c => ∃ v, c.type.parse (text name) = .ok v ∧ row'.values.get? name = some v
    | none => row'.values.get? name = row.values.get? name := by
  induction inputs generalizing row with
  | nil =>
    cases h
    rfl
  | cons c rest ih =>
    obtain ⟨v, hparse, hmore⟩ := rowOfTexts_cons_eq_ok.mp h
    have hrest := ih hmore
    rw [lastNamed?_cons]
    cases hlast : lastNamed? rest name with
    | some c' => simpa [hlast] using hrest
    | none =>
      simp only [hlast] at hrest
      by_cases hname : c.name = name
      · subst hname
        have hvalue : (row.insert c.name v).values.get? c.name = some v :=
          Entries.get?_insert_self _ _ _
        simpa using ⟨v, hparse, hrest.trans hvalue⟩
      · have hother : (row.insert c.name v).values.get? name = row.values.get? name :=
          Entries.get?_insert_of_ne (Ne.symm hname) _ _
        simpa [hname] using hrest.trans hother

/-- A map shows a record: it has the declared names where they were declared first, each with the text
under it as read at the type of the last column of the name. -/
def Shows (inputs : List InputColumn) (text : String → String) (m : ValueMap) : Prop :=
  List.Forall₂ (fun name entry => entry.1 = name ∧
    ∃ c, lastNamed? inputs name = some c ∧ c.type.parse (text name) = .ok entry.2)
    (columnNames inputs) m

theorem shows_toValueMap {text : String → String} {inputs : List InputColumn} {row row' : Row}
    (h : rowOfTexts text inputs row = .ok row') : Shows inputs text (toValueMap inputs row') := by
  rw [Shows, toValueMap_eq, List.forall₂_map_right_iff, List.forall₂_same]
  intro name hname
  obtain ⟨c, hc⟩ := Option.isSome_iff_exists.mp (isSome_lastNamed? hname)
  have hvalue := get?_rowOfTexts h name
  rw [hc] at hvalue
  obtain ⟨v, hparse, hget⟩ := hvalue
  refine ⟨rfl, c, hc, ?_⟩
  rw [Row.get, hget]
  exact hparse

/-- What reading a record ends with, told by the texts under the declared names. -/
structure ReadsRecord (inputs : List InputColumn) (text : String → String)
    (result : Except CellFault Row) : Prop where
  /-- A row that is read is shown to a script. -/
  shows : ∀ row, result = .ok row → Shows inputs text (toValueMap inputs row)
  /-- Reading fails if one of the cells cannot be read, and for no other reason. -/
  fails_iff : (∃ fault, result = .error fault) ↔ ∃ c ∈ inputs, ¬ c.Readable text
  /-- The fault is that of the first such cell. -/
  first : ∀ fault, result = .error fault →
    ∃ before c after, inputs = before ++ c :: after ∧ (∀ b ∈ before, b.Readable text) ∧
      c.type.parse (text c.name) = .error fault

theorem readsRecord_rowOfTexts (inputs : List InputColumn) (text : String → String) (row : Row) :
    ReadsRecord inputs text (rowOfTexts text inputs row) where
  shows _ h := shows_toValueMap h
  first _ h := rowOfTexts_eq_error_iff.mp h
  fails_iff := by
    constructor
    · rintro ⟨fault, h⟩
      obtain ⟨before, c, after, rfl, -, hc⟩ := rowOfTexts_eq_error_iff.mp h
      refine ⟨c, by simp, ?_⟩
      rintro ⟨v, hv⟩
      rw [hc] at hv
      cases hv
    · rintro ⟨c, hmem, hunreadable⟩
      cases hresult : rowOfTexts text inputs row with
      | error fault => exact ⟨fault, rfl⟩
      | ok row' => exact absurd (readable_of_rowOfTexts hresult c hmem) hunreadable

/-! ### Headers without a declared name -/

theorem tableRows_missing {header : List String} {inputs : List InputColumn} {fault : InputFault}
    (h : columnPlaces header inputs = .error fault) (onError : OnError)
    (records : List (Except Csv.TableFault (List String))) (tally : Tally) :
    tableRows inputs onError ⟨.ok header, records⟩ tally = (.error fault, tally) := by
  simp only [tableRows, h]
  rfl

theorem Run.readFile_missing {φ σ υ ι : Type} (store : Store φ) (t : Transformer σ υ ι)
    {header : List String} {fault : InputFault} {path : String} {data : ByteArray}
    {r : Running φ σ ι} (hread : store.read r.files path = .ok data)
    (hheader : (Csv.tableOf (glyphs data)).header = .ok header)
    (hplaces : columnPlaces header t.config.inputs = .error fault) (onError : OnError) :
    Run.readFile store t path onError r = (.error (.inputUnread path fault), r) := by
  rw [Run.readFile_eq, fileFeed, hread]
  simp only [Feed.ofTable, hheader, hplaces]
  rfl

/-- **From a record to the argument of a script.** Where a header has all declared names, every record
is read as the texts under them say, and the map of a script shows it. Where a name is missing, the first
such name is the fault whatever is done about records that cannot be read: no record is counted, logged
or looked at, neither in a table nor in a file that a run reads. -/
theorem argument_of_record (header : List String) (inputs : List InputColumn) :
    ((∀ c ∈ inputs, c.name ∈ header) → ∃ places, columnPlaces header inputs = .ok places ∧
      ∀ cells : List String, cells.length = header.length →
        ReadsRecord inputs (cellUnder header cells)
          (rowOfCells cells (inputs.zip places) .empty)) ∧
    ((∃ c ∈ inputs, c.name ∉ header) → ∃ before c after, inputs = before ++ c :: after ∧
      (∀ b ∈ before, b.name ∈ header) ∧ c.name ∉ header ∧
      (∀ (onError : OnError) (records : List (Except Csv.TableFault (List String))) (tally : Tally),
        tableRows inputs onError ⟨.ok header, records⟩ tally =
          (.error (.missingColumn c.name), tally)) ∧
      ∀ {φ σ υ ι : Type} (store : Store φ) (t : Transformer σ υ ι) (path : String)
        (data : ByteArray) (onError : OnError) (r : Running φ σ ι), t.config.inputs = inputs →
        store.read r.files path = .ok data → (Csv.tableOf (glyphs data)).header = .ok header →
        Run.readFile store t path onError r =
          (.error (.inputUnread path (.missingColumn c.name)), r)) := by
  constructor
  · intro hnames
    obtain ⟨places, hplaces⟩ := columnPlaces_ok hnames
    refine ⟨places, hplaces, fun cells _ => ?_⟩
    rw [rowOfCells_places hplaces]
    exact readsRecord_rowOfTexts inputs _ .empty
  · intro hmissing
    obtain ⟨before, c, after, hinputs, hbefore, hc⟩ := exists_first_missing hmissing
    have hplaces := columnPlaces_missing hbefore hc after
    rw [← hinputs] at hplaces
    refine ⟨before, c, after, hinputs, hbefore, hc, tableRows_missing hplaces, ?_⟩
    intro φ σ υ ι store t path data onError r ht hread hheader
    rw [← ht] at hplaces
    exact Run.readFile_missing store t hread hheader hplaces onError

/-- Columns with a name that is declared twice. -/
def repeatedColumns : List InputColumn := [⟨"a", .string⟩, ⟨"b", .integer⟩, ⟨"a", .integer⟩]

/-- The text `b`, `1` in lines: a header that lacks a name, and a record. -/
def lackingData : ByteArray := ⟨#[98, 10, 49, 10]⟩

/-- The first column named `a` is read as an integer, since that is declared last, and stands first,
since it is declared first. A file whose header lacks `a` is not read. -/
theorem argument_of_repeated :
    (∃ places, columnPlaces ["a", "b", "a"] repeatedColumns = .ok places ∧
      ∀ cells : List String, cells.length = 3 →
        ReadsRecord repeatedColumns (cellUnder ["a", "b", "a"] cells)
          (rowOfCells cells (repeatedColumns.zip places) .empty)) ∧
    columnPlaces ["a", "b", "a"] repeatedColumns = .ok [0, 1, 0] ∧
    (rowOfCells ["1", "2", "x"] (repeatedColumns.zip [0, 1, 0]) .empty).map
      (toValueMap repeatedColumns) = .ok [("a", .int 1), ("b", .int 2)] ∧
    (rowOfCells ["x", "2", "1"] (repeatedColumns.zip [0, 1, 0]) .empty).isOk = false ∧
    ∃ before c after, repeatedColumns = before ++ c :: after ∧ (∀ b ∈ before, b.name ∈ ["b"]) ∧
      c.name ∉ ["b"] ∧
      ∀ onError, Run.readFile (.ofData lackingData)
        { Run.refusing with config := { Run.refusing.config with inputs := repeatedColumns } } "in"
        onError (.new { engine := () } "") =
        (.error (.inputUnread "in" (.missingColumn c.name)), .new { engine := () } "") := by
  refine ⟨(argument_of_record _ _).1 (by decide), rfl, rfl, rfl, ?_⟩
  obtain ⟨before, c, after, hinputs, hbefore, hc, -, hrun⟩ :=
    (argument_of_record ["b"] repeatedColumns).2 (by decide)
  exact ⟨before, c, after, hinputs, hbefore, hc, fun onError =>
    hrun _ _ "in" lackingData onError _ rfl rfl (by decide +kernel)⟩

end RowScript
