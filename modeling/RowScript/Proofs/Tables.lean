import RowScript.Run.Intake

/-!
# Tables in whole texts

A text without holes is taken apart into fields without holes: the reader holds nothing but
characters that it was given (`Reader.Whole`), and a step keeps this (`Reader.whole_step`). So of
the records of a whole text all can be read that are as wide as the header, and the others are at
fault for their width only (`whole_tableOf`, `uniform_iff`).
-/

namespace RowScript

theorem wholeText?_isSome_iff (gs : List Glyph) : (wholeText? gs).isSome ↔ none ∉ gs := by
  induction gs with
  | nil => simp [wholeText?]
  | cons g rest ih =>
    cases g with
    | none => simp [wholeText?]
    | some c => simp [wholeText?, ih]

namespace Csv

/-- No field has a hole. -/
def RawRecord.Whole (r : RawRecord) : Prop := ∀ field ∈ r.fields, none ∉ field

namespace Reader

/-- There is no hole in what the reader holds. -/
structure Whole (r : Reader) : Prop where
  field : none ∉ r.field
  fields : ∀ field ∈ r.fields, none ∉ field

theorem whole_push {r : Reader} (h : r.Whole) (c : Char) (mode : Mode) :
    (r.push (some c) mode).Whole :=
  ⟨by simpa [push] using h.field, h.fields⟩

theorem whole_endField {r : Reader} (h : r.Whole) : r.endField.Whole := by
  refine ⟨by simp [endField], fun field hfield => ?_⟩
  rcases List.mem_cons.mp hfield with rfl | hfield
  · simpa using h.field
  · exact h.fields field hfield

theorem whole_record {r : Reader} (h : r.Whole) : r.record.Whole := by
  intro field hfield
  exact (whole_endField h).fields field (List.mem_reverse.mp hfield)

theorem whole_endRecord (r : Reader) : r.endRecord.Whole :=
  ⟨by simp [endRecord], by simp [endRecord]⟩

theorem whole_stepPlain {r : Reader} (h : r.Whole) (c : Char) :
    (r.stepPlain (some c)).1.Whole ∧ ∀ record ∈ (r.stepPlain (some c)).2, record.Whole := by
  unfold stepPlain
  split
  · exact ⟨whole_endField h, by simp⟩
  · split
    · refine ⟨whole_endRecord r, ?_⟩
      rintro _ ⟨⟩
      exact whole_record h
    · exact ⟨whole_push h c _, by simp⟩

/-- A reader that is given a character holds no hole, nor does a record that it gives back. -/
theorem whole_step {r : Reader} (h : r.Whole) (c : Char) :
    (r.step (some c)).1.Whole ∧ ∀ record ∈ (r.step (some c)).2, record.Whole := by
  have hhere (place : Place) : { r with here := place }.Whole := ⟨h.field, h.fields⟩
  have hquoted (place : Place) (mode : Mode) : { r with here := place, mode := mode }.Whole :=
    ⟨h.field, h.fields⟩
  unfold step
  simp only
  split
  · split
    · exact ⟨hhere _, by simp⟩
    · split
      · exact ⟨hquoted _ _, by simp⟩
      · exact whole_stepPlain (hhere _) c
  · split
    · exact ⟨hquoted _ _, by simp⟩
    · exact whole_stepPlain (hhere _) c
  · exact whole_stepPlain (hhere _) c
  · split
    · exact ⟨hquoted _ _, by simp⟩
    · exact ⟨whole_push (hhere _) c _, by simp⟩
  · split
    · exact ⟨whole_push (hhere _) c _, by simp⟩
    · exact whole_stepPlain (hhere _) c

theorem whole_records {gs : List Glyph} (hgs : none ∉ gs) {r : Reader} (h : r.Whole) :
    ∀ record ∈ r.records gs, record.Whole := by
  induction gs generalizing r with
  | nil =>
    rw [records]
    split
    · simp
    · simpa using whole_record h
  | cons g rest ih =>
    cases g with
    | none => simp at hgs
    | some c =>
      have hrest : none ∉ rest := fun hmem => hgs (List.mem_cons_of_mem _ hmem)
      obtain ⟨hnext, hrecord⟩ := whole_step h c
      rw [records]
      rcases hstep : r.step (some c) with ⟨next, _ | record⟩
      · rw [hstep] at hnext
        exact ih hrest hnext
      · rw [hstep] at hnext hrecord
        intro record' hmem
        rcases List.mem_cons.mp hmem with rfl | hmem
        · exact hrecord record' rfl
        · exact ih hrest hnext record' hmem

end Reader

theorem whole_records {gs : List Glyph} (hgs : none ∉ gs) :
    ∀ record ∈ records gs, record.Whole := by
  have hempty (place : Place) : ({ here := place } : Reader).Whole := ⟨by simp, by simp⟩
  unfold records
  split
  · next c rest =>
    split
    · exact Reader.whole_records (fun hmem => hgs (List.mem_cons_of_mem _ hmem)) (hempty _)
    · exact Reader.whole_records hgs (hempty _)
  · exact Reader.whole_records hgs (hempty _)

theorem fieldTexts_ok (number : Nat) (start : Place) (i : Nat) {fields : List (List Glyph)}
    (h : ∀ field ∈ fields, none ∉ field) :
    ∃ texts, fieldTexts number start i fields = .ok texts := by
  induction fields generalizing i with
  | nil => exact ⟨[], rfl⟩
  | cons field rest ih =>
    obtain ⟨cs, hcs⟩ :=
      Option.isSome_iff_exists.mp ((wholeText?_isSome_iff field).mpr (h field List.mem_cons_self))
    obtain ⟨texts, htexts⟩ := ih (i + 1) fun f hf => h f (List.mem_cons_of_mem _ hf)
    exact ⟨_, by rw [fieldTexts, hcs, htexts]; rfl⟩

/-- A record is at fault for its width or not at all. -/
def OfWidth : Except TableFault (List String) → Prop
  | .ok _ => True
  | .error fault => ∃ number start actual expected, fault = .width number start actual expected

/-- The header and all records can be read, but for records of another width. -/
structure Table.Whole (table : Table) : Prop where
  header : ∃ header, table.header = .ok header
  records : ∀ record ∈ table.records, OfWidth record

theorem ofWidth_cellsFrom (width number : Nat) {raw : List RawRecord}
    (h : ∀ record ∈ raw, record.Whole) : ∀ record ∈ cellsFrom width number raw, OfWidth record := by
  induction raw generalizing number with
  | nil => simp [cellsFrom]
  | cons r rest ih =>
    intro record hmem
    rcases List.mem_cons.mp hmem with rfl | hmem
    · rw [RawRecord.cells]
      split
      · obtain ⟨texts, htexts⟩ := fieldTexts_ok number r.start 0 (h r List.mem_cons_self)
        rw [RawRecord.texts, htexts]
        trivial
      · exact ⟨number, r.start, r.fields.length, width, rfl⟩
    · exact ih (number + 1) (fun r' hr' => h r' (List.mem_cons_of_mem _ hr')) record hmem

theorem whole_tableOf {gs : List Glyph} (hgs : none ∉ gs) : (tableOf gs).Whole := by
  have hrecords := whole_records hgs
  unfold tableOf
  cases hraw : records gs with
  | nil => exact ⟨⟨[], rfl⟩, by simp⟩
  | cons header rest =>
    rw [hraw] at hrecords
    obtain ⟨texts, htexts⟩ := fieldTexts_ok 0 header.start 0 (hrecords header List.mem_cons_self)
    exact ⟨⟨texts, htexts⟩,
      ofWidth_cellsFrom _ 1 fun r hr => hrecords r (List.mem_cons_of_mem _ hr)⟩

/-- All records are as wide as the header. -/
def Uniform (gs : List Glyph) : Prop :=
  ∀ header ∈ (records gs).head?, ∀ r ∈ (records gs).tail,
    r.fields.length = header.fields.length

instance (gs : List Glyph) : Decidable (Uniform gs) :=
  inferInstanceAs (Decidable (∀ header ∈ (records gs).head?, ∀ r ∈ (records gs).tail,
    r.fields.length = header.fields.length))

theorem uniform_cellsFrom_iff (width number : Nat) {raw : List RawRecord}
    (h : ∀ record ∈ raw, record.Whole) :
    (∀ r ∈ raw, r.fields.length = width) ↔
      ∀ record ∈ cellsFrom width number raw, ∃ cells, record = .ok cells := by
  induction raw generalizing number with
  | nil => simp [cellsFrom]
  | cons r rest ih =>
    rw [cellsFrom, List.forall_mem_cons, List.forall_mem_cons,
      ih (number + 1) fun r' hr' => h r' (List.mem_cons_of_mem _ hr')]
    refine and_congr_left fun _ => ?_
    rw [RawRecord.cells]
    obtain ⟨texts, htexts⟩ := fieldTexts_ok number r.start 0 (h r List.mem_cons_self)
    split
    · next hwidth => exact iff_of_true hwidth ⟨texts, htexts⟩
    · next hwidth => exact iff_of_false hwidth (by simp)

theorem uniform_iff {gs : List Glyph} (hgs : none ∉ gs) :
    Uniform gs ↔ ∀ record ∈ (tableOf gs).records, ∃ cells, record = .ok cells := by
  have hrecords := whole_records hgs
  unfold Uniform tableOf
  cases hraw : records gs with
  | nil => simp
  | cons header rest =>
    rw [hraw] at hrecords
    simp only [List.head?_cons, Option.mem_some_iff, forall_eq', List.tail_cons]
    exact uniform_cellsFrom_iff _ 1 fun r hr => hrecords r (List.mem_cons_of_mem _ hr)

end Csv

theorem columnPlaces_ok {header : List String} {inputs : List InputColumn}
    (h : ∀ c ∈ inputs, c.name ∈ header) : ∃ places, columnPlaces header inputs = .ok places := by
  induction inputs with
  | nil => exact ⟨[], rfl⟩
  | cons c rest ih =>
    obtain ⟨places, hplaces⟩ := ih fun c' hc' => h c' (List.mem_cons_of_mem _ hc')
    have hfound : (header.findIdx? (· == c.name)).isSome := by
      rw [List.findIdx?_isSome, List.any_eq_true]
      exact ⟨c.name, h c List.mem_cons_self, beq_self_eq_true _⟩
    obtain ⟨i, hi⟩ := Option.isSome_iff_exists.mp hfound
    exact ⟨i :: places, by rw [columnPlaces, hi, hplaces]; rfl⟩

end RowScript
