import Mathlib.Data.Fin.Tuple.Basic
import Mathlib.Logic.Equiv.Defs
import RowScript.Proofs.Arguments
import RowScript.Proofs.Concordance

/-!
# Columns in another order, and further columns

Rows are read by name, so it does not matter where in a file a column stands, nor what other columns
are there. A `Sheet` is a table whose columns have distinct names and whose records are as wide as its
header. Its columns can be put in another order (`Sheet.permuted`), and a column that nobody asks for can
be inserted anywhere (`Sheet.inserted`).

Two headers are the same to the declared columns if they have the same of their names, and two records
if they have the same text under each (`Sheet.Same`). One step of rearranging keeps that
(`same_permuted`, `same_inserted`), and it is all that reading depends on (`tableRows_congr`).
-/

namespace RowScript

open List (Forall₂)

/-! ### What reading depends on -/

theorem rowOfTexts_congr {text text' : String → String} {inputs : List InputColumn}
    (h : ∀ c ∈ inputs, text c.name = text' c.name) (row : Row) :
    rowOfTexts text inputs row = rowOfTexts text' inputs row := by
  induction inputs generalizing row with
  | nil => rfl
  | cons c rest ih =>
    obtain ⟨hc, hrest⟩ := List.forall_mem_cons.mp h
    simp only [rowOfTexts, hc, ih hrest]

theorem rowsFrom_congr {columns columns' : List (InputColumn × Nat)}
    {records records' : List (List String)}
    (h : Forall₂ (fun cells cells' => rowOfCells cells columns .empty =
      rowOfCells cells' columns' .empty) records records') (onError : OnError) (number : Nat) :
    rowsFrom columns onError number (records.map .ok) =
      rowsFrom columns' onError number (records'.map .ok) := by
  induction h generalizing number with
  | nil => rfl
  | cons hcells _ ih => simp only [List.map_cons, rowsFrom, hcells, ih]

/-- Reading depends on which declared names the header has, and on the texts under them. -/
theorem tableRows_congr {inputs : List InputColumn} {header header' : List String}
    {records records' : List (List String)}
    (hnames : ∀ c ∈ inputs, c.name ∈ header ↔ c.name ∈ header')
    (hrecords : Forall₂ (fun cells cells' => ∀ c ∈ inputs,
      cellUnder header cells c.name = cellUnder header' cells' c.name) records records')
    (onError : OnError) :
    tableRows inputs onError ⟨.ok header, records.map .ok⟩ =
      tableRows inputs onError ⟨.ok header', records'.map .ok⟩ := by
  by_cases hall : ∀ c ∈ inputs, c.name ∈ header
  · obtain ⟨places, hplaces⟩ := columnPlaces_ok hall
    obtain ⟨places', hplaces'⟩ := columnPlaces_ok fun c hc => (hnames c hc).mp (hall c hc)
    simp only [tableRows, hplaces, hplaces']
    refine rowsFrom_congr (hrecords.imp fun cells cells' htexts => ?_) onError 1
    rw [rowOfCells_places hplaces, rowOfCells_places hplaces', rowOfTexts_congr htexts]
  · obtain ⟨before, c, after, rfl, hbefore, hc⟩ := exists_first_missing (by simpa using hall)
    have hbefore' : ∀ b ∈ before, b.name ∈ header' := fun b hb =>
      (hnames b (List.mem_append_left _ hb)).mp (hbefore b hb)
    have hc' : c.name ∉ header' := fun hmem => hc ((hnames c (by simp)).mpr hmem)
    simp only [tableRows, columnPlaces_missing hbefore hc, columnPlaces_missing hbefore' hc']

theorem cellUnder_of_not_mem {header : List String} {name : String} (h : name ∉ header)
    (cells : List String) : cellUnder header cells name = "" := by
  have hnone : (header.zip cells).lookup name = none := by
    rw [List.lookup_eq_none_iff]
    intro p hp
    have hne : name ≠ p.1 := fun heq => h (heq ▸ (List.of_mem_zip hp).1)
    simpa using hne
  rw [cellUnder, hnone]
  rfl

/-! ### Sheets -/

/-- A table whose columns have distinct names, with records as wide as its header. -/
structure Sheet where
  width : Nat
  header : Fin width → String
  records : List (Fin width → String)
  distinct : Function.Injective header

theorem injective_insertNth {n : Nat} {header : Fin n → String} (h : Function.Injective header)
    {name : String} (hnew : ∀ j, header j ≠ name) (i : Fin (n + 1)) :
    Function.Injective (i.insertNth name header : Fin (n + 1) → String) := by
  intro a b hab
  rcases i.eq_self_or_eq_succAbove a with rfl | ⟨j, rfl⟩
  · rcases a.eq_self_or_eq_succAbove b with rfl | ⟨k, rfl⟩
    · rfl
    · rw [Fin.insertNth_apply_same, Fin.insertNth_apply_succAbove] at hab
      exact absurd hab.symm (hnew k)
  · rcases i.eq_self_or_eq_succAbove b with rfl | ⟨k, rfl⟩
    · rw [Fin.insertNth_apply_same, Fin.insertNth_apply_succAbove] at hab
      exact absurd hab (hnew j)
    · rw [Fin.insertNth_apply_succAbove, Fin.insertNth_apply_succAbove] at hab
      rw [h hab]

theorem forall₂_zipWith {α β γ : Type} {R : α → γ → Prop} {f : α → β → γ} (h : ∀ a b, R a (f a b))
    {as : List α} {bs : List β} (hlength : bs.length = as.length) :
    Forall₂ R as (as.zipWith f bs) := by
  induction as generalizing bs with
  | nil => exact .nil
  | cons a as ih =>
    obtain ⟨b, bs, rfl⟩ := List.exists_cons_of_length_eq_add_one hlength
    exact .cons (h a b) (ih (Nat.succ.inj hlength))

namespace Sheet

/-- The sheet as a table that was read. -/
def table (s : Sheet) : Csv.Table :=
  ⟨.ok (List.ofFn s.header), (s.records.map List.ofFn).map .ok⟩

/-- The columns in another order, in the header and in every record. -/
def permuted (s : Sheet) (σ : Equiv.Perm (Fin s.width)) : Sheet where
  width := s.width
  header := s.header ∘ σ
  records := s.records.map (· ∘ σ)
  distinct := s.distinct.comp σ.injective

/-- A further column at a place, with its cells from the first record to the last. -/
def inserted (s : Sheet) (i : Fin (s.width + 1)) (name : String) (cells : List String)
    (hnew : ∀ j, s.header j ≠ name) : Sheet where
  width := s.width + 1
  header := i.insertNth name s.header
  records := s.records.zipWith (fun record cell => i.insertNth cell record) cells
  distinct := injective_insertNth s.distinct hnew i

/-- One sheet comes from another by permuting columns and inserting columns that nobody asks for. -/
inductive Rearranged (inputs : List InputColumn) (s : Sheet) : Sheet → Prop
  | refl : Rearranged inputs s s
  | permuted {s' : Sheet} (h : Rearranged inputs s s') (σ : Equiv.Perm (Fin s'.width)) :
      Rearranged inputs s (s'.permuted σ)
  | inserted {s' : Sheet} (h : Rearranged inputs s s') (i : Fin (s'.width + 1)) {name : String}
      {cells : List String} (hlength : cells.length = s'.records.length)
      (hnew : ∀ j, s'.header j ≠ name) (hundeclared : ∀ c ∈ inputs, c.name ≠ name) :
      Rearranged inputs s (s'.inserted i name cells hnew)

/-- The texts under the names of the columns, record by record. -/
def texts (inputs : List InputColumn) (s : Sheet) : List (List String) :=
  s.records.map fun record =>
    inputs.map fun c => cellUnder (List.ofFn s.header) (List.ofFn record) c.name

/-- To the columns two sheets are the same: they have the same of the declared names, and the same text
under each in every record. -/
structure Same (inputs : List InputColumn) (s s' : Sheet) : Prop where
  names : ∀ c ∈ inputs, c.name ∈ List.ofFn s.header ↔ c.name ∈ List.ofFn s'.header
  texts : s.texts inputs = s'.texts inputs

variable {inputs : List InputColumn}

theorem Same.trans {s s' s'' : Sheet} (h : s.Same inputs s') (h' : s'.Same inputs s'') :
    s.Same inputs s'' where
  names c hc := (h.names c hc).trans (h'.names c hc)
  texts := h.texts.trans h'.texts

theorem lookup_zip_ofFn {n : Nat} {header : Fin n → String} (h : Function.Injective header)
    (record : Fin n → String) (i : Fin n) :
    ((List.ofFn header).zip (List.ofFn record)).lookup (header i) = some (record i) := by
  induction n with
  | zero => exact i.elim0
  | succ n ih =>
    rw [List.ofFn_succ, List.ofFn_succ, List.zip_cons_cons, List.lookup_cons]
    cases i using Fin.cases with
    | zero => simp
    | succ i =>
      have hne : (header i.succ == header 0) = false := by
        simpa using fun heq => Fin.succ_ne_zero i (h heq)
      rw [hne]
      exact ih (h.comp (Fin.succ_injective n)) (fun j => record j.succ) i

theorem cellUnder_ofFn {n : Nat} {header : Fin n → String} (h : Function.Injective header)
    (record : Fin n → String) (i : Fin n) :
    cellUnder (List.ofFn header) (List.ofFn record) (header i) = record i := by
  rw [cellUnder, lookup_zip_ofFn h]
  rfl

/-- If every column has gone to some place, and only columns that nobody asks for stand elsewhere,
then nothing has changed for the columns. -/
theorem same_of_places {s s' : Sheet} (place : Fin s.width → Fin s'.width)
    (hheader : ∀ j, s'.header (place j) = s.header j)
    (hothers : ∀ c ∈ inputs, ∀ i, s'.header i = c.name → ∃ j, place j = i)
    (hrecords : Forall₂ (fun record record' => ∀ j, record' (place j) = record j)
      s.records s'.records) : s.Same inputs s' := by
  have hnames : ∀ c ∈ inputs, c.name ∈ List.ofFn s.header ↔ c.name ∈ List.ofFn s'.header := by
    intro c hc
    rw [List.mem_ofFn, List.mem_ofFn]
    constructor
    · rintro ⟨j, hj⟩
      exact ⟨place j, (hheader j).trans hj⟩
    · rintro ⟨i, hi⟩
      obtain ⟨j, rfl⟩ := hothers c hc i hi
      exact ⟨j, (hheader j).symm.trans hi⟩
  refine ⟨hnames, ?_⟩
  rw [texts, texts, ← List.forall₂_eq_eq_eq, List.forall₂_map_left_iff, List.forall₂_map_right_iff]
  refine hrecords.imp fun record record' hrecord => List.map_congr_left fun c hc => ?_
  by_cases hmem : c.name ∈ List.ofFn s.header
  · obtain ⟨j, hj⟩ := List.mem_ofFn.mp hmem
    rw [← hj, cellUnder_ofFn s.distinct, ← hheader, cellUnder_ofFn s'.distinct, hrecord]
  · rw [cellUnder_of_not_mem hmem, cellUnder_of_not_mem fun h => hmem ((hnames c hc).mpr h)]

theorem same_permuted (s : Sheet) (σ : Equiv.Perm (Fin s.width)) : s.Same inputs (s.permuted σ) := by
  refine same_of_places σ.symm (fun j => ?_) (fun c hc i hi => ⟨σ i, σ.symm_apply_apply i⟩) ?_
  · exact congrArg s.header (σ.apply_symm_apply j)
  · refine List.forall₂_map_right_iff.mpr (List.forall₂_same.mpr fun record _ j => ?_)
    exact congrArg record (σ.apply_symm_apply j)

theorem same_inserted (s : Sheet) (i : Fin (s.width + 1)) {name : String} {cells : List String}
    (hlength : cells.length = s.records.length) (hnew : ∀ j, s.header j ≠ name)
    (hundeclared : ∀ c ∈ inputs, c.name ≠ name) :
    s.Same inputs (s.inserted i name cells hnew) := by
  have hplaced {record : Fin s.width → String} (cell : String) (j : Fin s.width) :
      (i.insertNth cell record : Fin (s.width + 1) → String) (i.succAbove j) = record j := by
    rw [Fin.insertNth_apply_succAbove]
  refine same_of_places i.succAbove (hplaced name) (fun c hc k hk => ?_) ?_
  · rcases i.eq_self_or_eq_succAbove k with hki | ⟨j, hj⟩
    · have hname : (s.inserted i name cells hnew).header i = name := by
        simp only [inserted, Fin.insertNth_apply_same]
      rw [hki, hname] at hk
      exact absurd hk.symm (hundeclared c hc)
    · exact ⟨j, hj.symm⟩
  · exact forall₂_zipWith (fun record cell => hplaced cell) hlength

theorem Rearranged.same {s s' : Sheet} (h : Rearranged inputs s s') : s.Same inputs s' := by
  induction h with
  | refl => exact ⟨fun _ _ => .rfl, rfl⟩
  | permuted _ σ ih => exact ih.trans (same_permuted _ σ)
  | inserted _ i hlength hnew hundeclared ih =>
    exact ih.trans (same_inserted _ i hlength hnew hundeclared)

theorem Same.tableRows_eq {s s' : Sheet} (h : s.Same inputs s') (onError : OnError) :
    tableRows inputs onError s.table = tableRows inputs onError s'.table := by
  have htexts := h.texts
  simp only [Sheet.texts] at htexts
  rw [← List.forall₂_eq_eq_eq, List.forall₂_map_left_iff,
    List.forall₂_map_right_iff] at htexts
  refine tableRows_congr h.names ?_ onError
  rw [List.forall₂_map_left_iff, List.forall₂_map_right_iff]
  exact htexts.imp fun record record' hrecord => List.map_inj_left.mp hrecord

end Sheet

/-- **Neither the order of columns nor further columns matter.** If one sheet comes from another by
permuting columns and inserting columns that nobody asks for, then both are read alike: the same rows or
the same fault, the same counts and the same warnings. And runs that read files of the two, on stores
that write alike, end alike: in the same pipeline, with the same counts, and with related files. -/
theorem rearranged_alike {inputs : List InputColumn} {s s' : Sheet} (h : s.Rearranged inputs s') :
    (∀ onError, tableRows inputs onError s.table = tableRows inputs onError s'.table) ∧
    ∀ {φ φ' σ υ ι : Type} {store : Store φ} {store' : Store φ'} {R : φ → φ' → Prop}
      (t : Transformer σ υ ι) (p : PlacedJob) (options : RunOptions) (world : World σ) {files : φ}
      {files' : φ'} {path : String} {data data' : ByteArray}, store.WritesAlike store' R →
      t.config.inputs = inputs → p.inputPath? options = some path →
      store.read files path = .ok data → Csv.tableOf (glyphs data) = s.table →
      store'.read files' path = .ok data' → Csv.tableOf (glyphs data') = s'.table →
      R files files' →
      (Run.complete store t p options (.new world files)).1 =
        (Run.complete store' t p options (.new world files')).1 ∧
      Running.Concordant R (Run.complete store t p options (.new world files)).2
        (Run.complete store' t p options (.new world files')).2 := by
  have hrows := h.same.tableRows_eq
  refine ⟨hrows, ?_⟩
  rintro φ φ' σ υ ι store store' R t p options world files files' path data data' writes rfl hpath
    hdata htable hdata' htable' hfiles
  have hnew : Running.Concordant R (.new world files : Running φ σ ι) (.new world files') :=
    ⟨rfl, hfiles, rfl⟩
  have hread := Run.readRows_file t (r := .new world files) hpath hdata
  have hread' := Run.readRows_file t (r := .new world files') hpath hdata'
  rw [htable, hrows] at hread
  rw [htable'] at hread'
  have halike := (Running.onTally_sim (R := R) (σ := σ) (ι := ι) (tableRows t.config.inputs
    options.onError s'.table)).mapError (RunFault.inputUnread path) _ _ hnew
  rw [← hread, ← hread'] at halike
  obtain ⟨ho, hend⟩ := Run.complete_alike writes t halike
  exact ⟨ho.eq, hend⟩

/-- The sheet of `Run.unevenData`. -/
def unevenSheet : Sheet where
  width := 1
  header := fun _ => "n"
  records := [fun _ => "x", fun _ => "0"]
  distinct a b _ := Subsingleton.elim a b

/-- The text `m,n`, `1,x`, `2,0` in lines. -/
def widenedData : ByteArray :=
  ⟨#[109, 44, 110, 10, 49, 44, 120, 10, 50, 44, 48, 10]⟩

/-- The sheet of `widenedData`: a column `m` was inserted behind the column `n`, and then the two have
changed places. -/
def widenedSheet : Sheet :=
  (unevenSheet.inserted (1 : Fin 2) "m" ["1", "2"] (by decide)).permuted
    (Equiv.swap (0 : Fin 2) (1 : Fin 2))

theorem table_uneven : Csv.tableOf (glyphs Run.unevenData) = unevenSheet.table := by
  have hheader : (Csv.tableOf (glyphs Run.unevenData)).header = unevenSheet.table.header := by
    decide +kernel
  have hrecords : (Csv.tableOf (glyphs Run.unevenData)).records = unevenSheet.table.records := by
    decide +kernel
  exact congrArg₂ Csv.Table.mk hheader hrecords

theorem table_widened : Csv.tableOf (glyphs widenedData) = widenedSheet.table := by
  have hheader : (Csv.tableOf (glyphs widenedData)).header = widenedSheet.table.header := by
    decide +kernel
  have hrecords : (Csv.tableOf (glyphs widenedData)).records = widenedSheet.table.records := by
    decide +kernel
  exact congrArg₂ Csv.Table.mk hheader hrecords

/-- A run that skips the first record and fails at the second ends with the column `m` as it does
without. -/
theorem rearranged_widened :
    (∀ onError, tableRows [⟨"n", .integer⟩] onError unevenSheet.table =
      tableRows [⟨"n", .integer⟩] onError widenedSheet.table) ∧
    let result := Run.complete (.ofData Run.unevenData) Run.refusing Run.refusingJob
      { onError := .skip } (.new { engine := () } "")
    let result' := Run.complete (.ofData widenedData) Run.refusing Run.refusingJob
      { onError := .skip } (.new { engine := () } "")
    result.1 = result'.1 ∧ Running.Concordant Eq result.2 result'.2 := by
  have hinserted : unevenSheet.Rearranged [⟨"n", .integer⟩]
      (unevenSheet.inserted (1 : Fin 2) "m" ["1", "2"] (by decide)) :=
    .inserted .refl _ rfl _ (by decide)
  have hrearranged : unevenSheet.Rearranged [⟨"n", .integer⟩] widenedSheet := hinserted.permuted _
  refine ⟨(rearranged_alike hrearranged).1, ?_⟩
  exact (rearranged_alike hrearranged).2 Run.refusing Run.refusingJob { onError := .skip } _
    (Store.writesAlike_reading (.ofData Run.unevenData) _) rfl rfl rfl table_uneven rfl
    table_widened rfl

end RowScript
