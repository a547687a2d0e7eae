import Mathlib.Data.List.Forall2
import Mathlib.Data.List.Nodup
import RowScript.Proofs.Cells
import RowScript.Proofs.Outflow
import RowScript.Proofs.Written

/-!
# One output as the next input

A table of values that was written is read back by columns of the same names, if their types are such
that the values fit them (`ColumnType.Fits`): a cell is parsed as the value that it was written from
(`ColumnType.parse_cell`), the cells of a record stand at the places of their columns
(`parse_at_places`), and the text is the table that was written (`Csv.tableOf_written`). Output columns
have distinct names, and their header does not begin with a mark of the byte order.

`output_feeds_input` states this of transformers, and of what runs have written.
-/

namespace RowScript

/-! ### Cells -/

/-- Values that a column of a type can hold in a file and give back. -/
inductive ColumnType.Fits : ColumnType → Value → Prop
  | null (type : ColumnType) : Fits type .null
  | bool (b : Bool) : Fits .boolean (.bool b)
  | int (n : Int64) : Fits .integer (.int n)
  | any {s : String} (h : s ≠ "") : Fits .any (.string s)
  | string {s : String} (h : s ≠ "") : Fits .string (.string s)

/-- The cell that a value is written to. -/
def Value.cell (v : Value) : String := (outputField v).getD ""

theorem ColumnType.parse_cell {type : ColumnType} {v : Value} (h : type.Fits v) :
    type.parse v.cell = .ok v := by
  cases h with
  | null type => rfl
  | bool b => cases b <;> rfl
  | int n =>
    have hcell : (Value.int n).cell = "" ++ (Value.int n).text ++ "" := by
      simp [Value.cell, outputField]
    rw [hcell]
    exact parse_text_int (by decide) (by decide) n
  | any h => simp [ColumnType.parse, Value.cell, outputField, h]
  | string h => simp [ColumnType.parse, Value.cell, outputField, h]

/-! ### Rows -/

theorem columnPlaces_names (before : List String) (inputs : List InputColumn)
    (h : (before ++ inputs.map (·.name)).Nodup) :
    columnPlaces (before ++ inputs.map (·.name)) inputs =
      .ok (List.range' before.length inputs.length) := by
  induction inputs generalizing before with
  | nil => rfl
  | cons c rest ih =>
    have hmore := ih (before ++ [c.name]) (by simpa using h)
    have hnew : ∀ name ∈ before, (name == c.name) = false := by
      rintro name hmem
      rw [List.map_cons, List.nodup_append] at h
      simpa using h.2.2 name hmem c.name List.mem_cons_self
    have hfind : (before ++ c.name :: rest.map (·.name)).findIdx? (· == c.name) =
        some before.length := by
      rw [List.findIdx?_append, List.findIdx?_eq_none_iff.mpr hnew]
      simp [List.findIdx?_cons]
    rw [List.append_assoc, List.singleton_append, List.length_append] at hmore
    rw [List.map_cons, columnPlaces, hfind, hmore]
    rfl

theorem rowOfCells_ok {columns : List (InputColumn × Nat)} {cells : List String}
    {values : List Value} (hnames : (columns.map (·.1.name)).Nodup)
    (hparse : List.Forall₂ (fun c v => c.1.type.parse (cells.getD c.2 "") = .ok v) columns values)
    (row : Row) : ∃ row', rowOfCells cells columns row = .ok row' ∧
      List.Forall₂ (fun c v => row'.values.get? c.1.name = some v) columns values ∧
      ∀ name, name ∉ columns.map (·.1.name) → row'.values.get? name = row.values.get? name := by
  induction hparse generalizing row with
  | nil => exact ⟨row, rfl, .nil, fun _ _ => rfl⟩
  | @cons column v columns values hcell _ ih =>
    obtain ⟨c, i⟩ := column
    rw [List.map_cons, List.nodup_cons] at hnames
    obtain ⟨row', hrow, hvalues, hothers⟩ := ih hnames.2 (row.insert c.name v)
    refine ⟨row', ?_, .cons ?_ hvalues, fun name hname => ?_⟩
    · rw [rowOfCells, hcell]
      exact hrow
    · rw [hothers c.name hnames.1]
      exact Entries.get?_insert_self _ _ _
    · rw [List.map_cons, List.mem_cons, not_or] at hname
      rw [hothers name hname.2]
      exact Entries.get?_insert_of_ne hname.1 _ _

theorem parse_at_places (before : List String) {inputs : List InputColumn} {values : List Value}
    (h : List.Forall₂ (fun c v => c.type.Fits v) inputs values) :
    List.Forall₂
      (fun c v => c.1.type.parse ((before ++ values.map Value.cell).getD c.2 "") = .ok v)
      (inputs.zip (List.range' before.length inputs.length)) values := by
  induction h generalizing before with
  | nil => exact .nil
  | @cons c v inputs values hfit _ ih =>
    have hmore := ih (before ++ [v.cell])
    rw [List.append_assoc, List.singleton_append, List.length_append] at hmore
    refine .cons ?_ hmore
    simpa using ColumnType.parse_cell hfit

/-- A row has these values in these columns. -/
def Row.Carries (inputs : List InputColumn) (values : List Value) (row : Row) : Prop :=
  List.Forall₂ (fun c v => row.values.get? c.name = some v) inputs values

/-- A record of cells of values that fit is read into a row with these values. -/
theorem rowOfCells_written {inputs : List InputColumn} {values : List Value}
    (hnames : (inputs.map (·.name)).Nodup)
    (h : List.Forall₂ (fun c v => c.type.Fits v) inputs values) :
    ∃ row, rowOfCells (values.map Value.cell) (inputs.zip (List.range' 0 inputs.length)) .empty =
      .ok row ∧ row.Carries inputs values := by
  have hzip : (inputs.zip (List.range' 0 inputs.length)).map Prod.fst = inputs :=
    List.map_fst_zip (by simp)
  have hcolumns : ((inputs.zip (List.range' 0 inputs.length)).map (·.1.name)).Nodup := by
    have hmap := congrArg (List.map InputColumn.name) hzip
    rw [List.map_map] at hmap
    exact hmap ▸ hnames
  obtain ⟨row, hrow, hvalues, -⟩ := rowOfCells_ok hcolumns (parse_at_places [] h) .empty
  refine ⟨row, hrow, ?_⟩
  have hcarries : List.Forall₂ (fun c v => row.values.get? c.name = some v)
      ((inputs.zip (List.range' 0 inputs.length)).map Prod.fst) values :=
    List.forall₂_map_left_iff.mpr hvalues
  rwa [hzip] at hcarries

theorem rowsFrom_written {inputs : List InputColumn} {rows : List (List Value)}
    (hnames : (inputs.map (·.name)).Nodup)
    (hrows : ∀ values ∈ rows, List.Forall₂ (fun c v => c.type.Fits v) inputs values)
    (onError : OnError) (number : Nat) (tally : Tally) :
    ∃ read, rowsFrom (inputs.zip (List.range' 0 inputs.length)) onError number
        (rows.map fun values => .ok (values.map Value.cell)) tally = (.ok read, tally) ∧
      List.Forall₂ (Row.Carries inputs) rows read := by
  induction rows generalizing number with
  | nil => exact ⟨[], rfl, .nil⟩
  | cons values rest ih =>
    obtain ⟨row, hrow, hcarries⟩ := rowOfCells_written hnames (hrows values List.mem_cons_self)
    obtain ⟨read, hread, hmore⟩ :=
      ih (fun values hmem => hrows values (List.mem_cons_of_mem _ hmem)) (number + 1)
    refine ⟨row :: read, ?_, .cons hcarries hmore⟩
    simp only [List.map_cons, rowsFrom, hrow]
    exact Attempt.bind_apply_of_ok hread

theorem rowLine_fields (values : List Value) :
    Csv.rowLine (values.map outputField) = Csv.line (values.map Value.cell) := by
  rw [Csv.rowLine, List.map_map]
  rfl

/-- The text is read by the columns as rows with these values, and no record of it is skipped or
warned of. -/
def ReadsAs (inputs : List InputColumn) (text : String) (rows : List (List Value)) : Prop :=
  ∀ (onError : OnError) (tally : Tally), ∃ read,
    tableRows inputs onError (Csv.tableOf (glyphs text.toUTF8)) tally = (.ok read, tally) ∧
      List.Forall₂ (Row.Carries inputs) rows read

/-- A table of values as text. -/
def tableText (columns : List String) (rows : List OutputRow) : String :=
  Csv.line columns ++ String.join (rows.map Csv.rowLine)

/-- A table of values is read back by columns of distinct names and of types that the values fit. -/
theorem readsAs_tableText {inputs : List InputColumn} {rows : List (List Value)}
    (hinputs : inputs ≠ []) (hnames : (inputs.map (·.name)).Nodup)
    (hmark : ∀ g ∈ (textGlyphs (Csv.line (inputs.map (·.name)))).head?,
      g ≠ some Csv.byteOrderMark)
    (hrows : ∀ values ∈ rows, List.Forall₂ (fun c v => c.type.Fits v) inputs values) :
    ReadsAs inputs (tableText (inputs.map (·.name)) (rows.map (·.map outputField))) rows := by
  intro onError tally
  have htable : Csv.tableOf
      (glyphs (tableText (inputs.map (·.name)) (rows.map (·.map outputField))).toUTF8) =
        ⟨.ok (inputs.map (·.name)), rows.map fun values => .ok (values.map Value.cell)⟩ := by
    have hwidths : ∀ fields ∈ rows.map (·.map Value.cell),
        fields.length = (inputs.map (·.name)).length := by
      intro fields hmem
      obtain ⟨values, hvalues, rfl⟩ := List.mem_map.mp hmem
      rw [List.length_map, List.length_map, (hrows values hvalues).length_eq]
    have hwritten := Csv.tableOf_written (by simpa using hinputs) hmark hwidths
    simpa only [tableText, List.map_map, Function.comp_def, rowLine_fields] using hwritten
  obtain ⟨read, hread, hcarries⟩ := rowsFrom_written hnames hrows onError 1 tally
  refine ⟨read, ?_, hcarries⟩
  have hplaces := columnPlaces_names [] inputs hnames
  rw [htable, tableRows]
  simp only [List.nil_append, List.length_nil] at hplaces
  simp only [hplaces, hread]

/-! ### Output columns -/

theorem head_line {s : String} {c : Char} {rest : List Char} (hs : s.toList = c :: rest)
    (more : List String) : ∃ first rest, textGlyphs (Csv.line (s :: more)) = some first :: rest ∧
      (first = '"' ∨ first = c) := by
  have hempty : s ≠ "" := by
    rintro rfl
    cases hs
  have htext : Csv.recordText (s :: more) =
      String.intercalate "," ((s :: more).map Csv.fieldText) := by
    rw [Csv.recordText]
    · simp
    · simp [hempty]
  have hfield : ∃ first rest, textGlyphs (Csv.fieldText s) = some first :: rest ∧
      (first = '"' ∨ first = c) := by
    unfold Csv.fieldText
    split
    · exact ⟨'"', _, by rw [textGlyphs_append, textGlyphs_append]; rfl, .inl rfl⟩
    · exact ⟨c, rest.map some, by rw [textGlyphs, hs]; rfl, .inr rfl⟩
  obtain ⟨first, more', hfirst, hor⟩ := hfield
  rw [Csv.line, textGlyphs_append, htext, Csv.textGlyphs_fields]
  cases more with
  | nil => exact ⟨first, _, by rw [Csv.Reader.fieldGlyphs, hfirst]; rfl, hor⟩
  | cons t more =>
    have hfields : Csv.Reader.fieldGlyphs (s :: t :: more) = textGlyphs (Csv.fieldText s) ++
      some ',' :: Csv.Reader.fieldGlyphs (t :: more) := rfl
    exact ⟨first, _, by rw [hfields, hfirst]; rfl, hor⟩

theorem nodup_outputColumns {σ υ ι : Type} (t : Transformer σ υ ι) : t.outputColumns.Nodup := by
  unfold Transformer.outputColumns
  split
  · simp
  · simp
  · refine List.Nodup.map (fun i j h => ?_) List.nodup_range
    have hrepr : (i + 1).repr = (j + 1).repr := by simpa using h
    rw [Nat.repr_eq_ofList_toDigits, Nat.repr_eq_ofList_toDigits, String.ofList_inj] at hrepr
    have hvalue := congrArg (Nat.ofDigitChars 10 · 0) hrepr
    simpa [Nat.ofDigitChars_ten_toDigits] using hvalue

theorem toList_outputColumns {σ υ ι : Type} (t : Transformer σ υ ι) :
    ∀ name ∈ t.outputColumns, ∃ rest, name.toList = 'S' :: rest := by
  unfold Transformer.outputColumns
  split
  · simp
  · simp
  · intro name hname
    obtain ⟨i, -, rfl⟩ := List.mem_map.mp hname
    exact ⟨_, by rw [String.toList_append, String.toList_append]; rfl⟩

theorem unmarked_outputColumns {σ υ ι : Type} {t : Transformer σ υ ι} (h : t.outputColumns ≠ []) :
    ∀ g ∈ (textGlyphs (Csv.line t.outputColumns)).head?, g ≠ some Csv.byteOrderMark := by
  have hnames := toList_outputColumns t
  obtain ⟨name, more, hcolumns⟩ := List.exists_cons_of_ne_nil h
  rw [hcolumns] at hnames ⊢
  obtain ⟨rest, hname⟩ := hnames name List.mem_cons_self
  obtain ⟨first, more', hline, hor⟩ := head_line hname more
  rw [hline]
  rintro _ ⟨⟩ heq
  rcases hor with rfl | rfl <;> cases heq

/-- Values that fit the types declared for the output columns of a transformer come back. -/
theorem readsAs_outputColumns {σ υ ι : Type} (t : Transformer σ υ ι) {inputs : List InputColumn}
    {rows : List (List Value)} (hcolumns : t.outputColumns ≠ [])
    (hinputs : inputs.map (·.name) = t.outputColumns)
    (hrows : ∀ values ∈ rows, List.Forall₂ (fun c v => c.type.Fits v) inputs values) :
    ReadsAs inputs (tableText t.outputColumns (rows.map (·.map outputField))) rows := by
  have hnames := nodup_outputColumns t
  have hmark := unmarked_outputColumns hcolumns
  rw [← hinputs] at hcolumns hnames hmark ⊢
  exact readsAs_tableText (by simpa using hcolumns) hnames hmark hrows

/-! ### Runs -/

/-- What a field of an output row is when it comes back as text. -/
def fieldValue (field : Option String) : Value :=
  if field.getD "" = "" then .null else .string (field.getD "")

theorem cell_fieldValue (field : Option String) : (fieldValue field).cell = field.getD "" := by
  unfold fieldValue
  split
  · next h =>
    rw [h]
    rfl
  · rfl

theorem fits_fieldValue {type : ColumnType} (h : type = .any ∨ type = .string)
    (field : Option String) : type.Fits (fieldValue field) := by
  unfold fieldValue
  split
  · exact .null type
  · next hne =>
    rcases h with rfl | rfl
    · exact .any hne
    · exact .string hne

theorem rowLine_fieldValue (row : OutputRow) :
    Csv.rowLine ((row.map fieldValue).map outputField) = Csv.rowLine row := by
  rw [rowLine_fields, Csv.rowLine, List.map_map]
  exact congrArg _ (List.map_congr_left fun field _ => cell_fieldValue field)

theorem readsAs_rows {σ υ ι : Type} (t : Transformer σ υ ι) {inputs : List InputColumn}
    {rows : List OutputRow} (hcolumns : t.outputColumns ≠ [])
    (hinputs : inputs.map (·.name) = t.outputColumns)
    (htypes : ∀ c ∈ inputs, c.type = .any ∨ c.type = .string)
    (hrows : ∀ row ∈ rows, row.length = t.outputColumns.length) :
    ReadsAs inputs (tableText t.outputColumns rows) (rows.map (·.map fieldValue)) := by
  have hfits : ∀ values ∈ rows.map (·.map fieldValue),
      List.Forall₂ (fun c v => c.type.Fits v) inputs values := by
    intro values hmem
    obtain ⟨row, hrow, rfl⟩ := List.mem_map.mp hmem
    have hwidth : inputs.length = (row.map fieldValue).length := by
      rw [List.length_map, hrows row hrow, ← hinputs, List.length_map]
    refine List.forall₂_iff_zip.mpr ⟨hwidth, fun {c v} hzip => ?_⟩
    obtain ⟨field, -, rfl⟩ := List.mem_map.mp (List.of_mem_zip hzip).2
    exact fits_fieldValue (htypes c (List.of_mem_zip hzip).1) field
  have htext : tableText t.outputColumns ((rows.map (·.map fieldValue)).map (·.map outputField)) =
      tableText t.outputColumns rows := by
    rw [tableText, tableText, List.map_map, List.map_map]
    exact congrArg (fun lines => Csv.line t.outputColumns ++ String.join lines)
      (List.map_congr_left fun row _ => rowLine_fieldValue row)
  rw [← htext]
  exact readsAs_outputColumns t hcolumns hinputs hfits

/-- **One output is the next input.** Values that fit the types declared for the output columns come
back as they were. And whatever becomes of a run whose output is ready, what it has written is read row
by row, if its configuration keeps all rows at one width. -/
theorem output_feeds_input :
    (∀ {σ υ ι : Type} (t : Transformer σ υ ι) (inputs : List InputColumn)
      (rows : List (List Value)), t.outputColumns ≠ [] →
      inputs.map (·.name) = t.outputColumns →
      (∀ values ∈ rows, List.Forall₂ (fun c v => c.type.Fits v) inputs values) →
      ReadsAs inputs (tableText t.outputColumns (rows.map (·.map outputField))) rows) ∧
    ∀ {φ σ υ ι : Type} {store : Store φ} (whole : store.Whole) (t : Transformer σ υ ι)
      (p : PlacedJob) (options : RunOptions) (world : World σ) (files : φ) (rows : List Row)
      (start : Running φ σ ι), t.config.variant.Regular →
      Run.prepare store t p options (.new world files) = (.ok rows, start) →
      ∃ written : List OutputRow,
        whole.holds (Run.complete store t p options (.new world files)).2.files
            (p.target options) =
          Run.heldBefore whole.toAccount files (p.target options) ++
            (tableText t.outputColumns written).toUTF8 ∧
        ∀ inputs : List InputColumn, inputs.map (·.name) = t.outputColumns →
          (∀ c ∈ inputs, c.type = .any ∨ c.type = .string) →
          ReadsAs inputs (tableText t.outputColumns written)
            (written.map (·.map fieldValue)) := by
  refine ⟨fun t _ _ => readsAs_outputColumns t, ?_⟩
  intro φ σ υ ι store whole t p options world files rows start hregular hprepare
  obtain ⟨⟨written, hwidths, hholds⟩, -⟩ := Run.outflow_complete whole hregular hprepare
  refine ⟨written, hholds, fun inputs hinputs htypes => ?_⟩
  exact readsAs_rows t (Transformer.outputColumns_ne_nil hregular) hinputs htypes hwidths

/-- A number and a null come back, and so does what a run has written that ended at its first record. -/
theorem output_feeds_input_of_stumbling :
    ReadsAs [⟨"Script output", .integer⟩]
      (tableText ["Script output"] ([[.int (-5)], [.null]].map (·.map outputField)))
      [[.int (-5)], [.null]] ∧
    ∃ written : List OutputRow,
      let p : PlacedJob :=
        ⟨{ transformer := Run.stumbling.config, source := some (.inline [[], []]) }, ""⟩
      Files.whole.holds
          (Run.complete Files.store Run.stumbling p {} (.new { engine := 0 } {})).2.files
          .standard =
        Files.whole.holds {} .standard ++ (tableText ["Script output"] written).toUTF8 ∧
      ReadsAs [⟨"Script output", .any⟩] (tableText ["Script output"] written)
        (written.map (·.map fieldValue)) := by
  refine ⟨output_feeds_input.1 Run.stumbling _ _ (by decide) rfl ?_, ?_⟩
  · rintro values hmem
    rcases List.mem_cons.mp hmem with rfl | hmem
    · exact .cons (.int _) .nil
    · rw [List.mem_singleton.mp hmem]
      exact .cons (.null _) .nil
  · let p : PlacedJob :=
      ⟨{ transformer := Run.stumbling.config, source := some (.inline [[], []]) }, ""⟩
    have hprepare : Run.prepare Files.store Run.stumbling p {} (.new { engine := 0 } {}) =
        (.ok [⟨[]⟩, ⟨[]⟩], _) := Prod.ext rfl rfl
    obtain ⟨written, hholds, hreads⟩ :=
      output_feeds_input.2 Files.whole Run.stumbling p {} _ {} _ _ trivial hprepare
    exact ⟨written, hholds, hreads _ rfl (by simp)⟩

end RowScript
