import RowScript.Csv.Table
import RowScript.Csv.Write

/-!
# Written tables

What is written as a table is read as that table, whatever characters its cells hold
(`tableOf_written`). `Reader.Passes` says that a reader gets through a part of a text without a record
coming to an end. It gets so through a field as it is written, and has the field in hand behind it
(`passes_field`); a comma or a line feed then ends it. The only record whose fields would leave no trace
in the text is that of one empty field, which is written as a pair of quotes.
-/

namespace RowScript.Csv

def Place.afterAll (p : Place) (gs : List Glyph) : Place := gs.foldl Place.after p

namespace Reader

/-- A reader that reads characters and then is another, without a record on the way. -/
def Passes (r : Reader) (gs : List Glyph) (r' : Reader) : Prop :=
  ∀ rest, r.records (gs ++ rest) = r'.records rest

namespace Passes

theorem nil (r : Reader) : Passes r [] r := fun _ => rfl

theorem append {a b c : Reader} {gs hs : List Glyph} (first : Passes a gs b)
    (second : Passes b hs c) : Passes a (gs ++ hs) c := by
  intro rest
  rw [List.append_assoc, first, second]

theorem step {r r' : Reader} {g : Glyph} (h : r.step g = (r', none)) : Passes r [g] r' := by
  intro rest
  rw [List.singleton_append, records, h]

end Passes

/-! ### Fields -/

theorem ne_of_needsQuotes {c : Char} (h : needsQuotes c = false) :
    c ≠ ',' ∧ c ≠ '"' ∧ c ≠ '\n' ∧ c ≠ '\r' := by
  simpa [needsQuotes, and_assoc] using h

theorem isNewline_some {c : Char} (h : c ≠ '\n') (h' : c ≠ '\r') : isNewline (some c) = false := by
  unfold isNewline
  split <;> simp_all

theorem stepPlain_of_plain (r : Reader) {c : Char} (h : needsQuotes c = false) :
    r.stepPlain (some c) = (r.push (some c) .plain, none) := by
  obtain ⟨hcomma, -, hfeed, hreturn⟩ := ne_of_needsQuotes h
  simp [stepPlain, hcomma, isNewline_some hfeed hreturn]

theorem passes_plain {cs : List Char} (hcs : ∀ c ∈ cs, needsQuotes c = false) {r : Reader}
    (hmode : r.mode = .plain) :
    Passes r (cs.map some) { r with
      field := (cs.map some).reverse ++ r.field
      here := r.here.afterAll (cs.map some) } := by
  induction cs generalizing r with
  | nil => exact .nil r
  | cons c rest ih =>
    have first : r.step (some c) =
        ({ r with field := some c :: r.field, here := r.here.after (some c) }, none) := by
      simp only [Reader.step, hmode, stepPlain_of_plain _ (hcs c List.mem_cons_self), push]
    have more := ih (fun c hc => hcs c (List.mem_cons_of_mem _ hc))
      (r := { r with field := some c :: r.field, here := r.here.after (some c) }) hmode
    simpa [Place.afterAll] using (Passes.step first).append more

theorem step_of_plain {r : Reader} (hmode : r.mode = .outside ∨ r.mode = .fieldStart) {c : Char}
    (h : needsQuotes c = false) : r.step (some c) =
      ({ r with mode := .plain, field := some c :: r.field, here := r.here.after (some c) }, none) := by
  obtain ⟨-, hquote, hfeed, hreturn⟩ := ne_of_needsQuotes h
  rcases hmode with hmode | hmode <;>
    simp [Reader.step, hmode, hquote, isNewline_some hfeed hreturn, stepPlain_of_plain _ h, push]

theorem passes_quoted (cs : List Char) {r : Reader} (hmode : r.mode = .quoted) :
    Passes r ((cs.flatMap doubled).map some) { r with
      field := (cs.map some).reverse ++ r.field
      here := r.here.afterAll ((cs.flatMap doubled).map some) } := by
  induction cs generalizing r with
  | nil => exact .nil r
  | cons c rest ih =>
    have first : Passes r ((doubled c).map some) { r with
        field := some c :: r.field
        here := r.here.afterAll ((doubled c).map some) } := by
      by_cases hc : c = '"'
      · subst hc
        have seen : r.step (some '"') =
            ({ r with mode := .quoteSeen, here := r.here.after (some '"') }, none) := by
          simp [Reader.step, hmode]
        have twice : Reader.step { r with mode := .quoteSeen, here := r.here.after (some '"') }
            (some '"') = ({ r with
              field := some '"' :: r.field
              here := (r.here.after (some '"')).after (some '"') }, none) := by
          simp [Reader.step, push, hmode]
        exact (Passes.step seen).append (Passes.step twice)
      · have pushed : r.step (some c) =
            ({ r with field := some c :: r.field, here := r.here.after (some c) }, none) := by
          simp [Reader.step, hmode, hc, push]
        rw [doubled, if_neg (by simpa using hc)]
        exact .step pushed
    have more := ih
      (r := { r with
        field := some c :: r.field
        here := r.here.afterAll ((doubled c).map some) }) hmode
    simpa [Place.afterAll] using first.append more

/-- A reader that has read a field and not yet its end: outside of quotes, and with something in hand
unless nothing was read. -/
structure Holds (r : Reader) (s : String) (r' : Reader) : Prop where
  field : r'.field = (textGlyphs s).reverse
  fields : r'.fields = r.fields
  start : r'.start = r.start
  unquoted : r'.mode ≠ .quoted
  outside : r'.mode = .outside → s = "" ∧ r.mode = .outside

theorem passes_field {r : Reader} (hmode : r.mode = .outside ∨ r.mode = .fieldStart)
    (hfield : r.field = []) (s : String) :
    ∃ r', Passes r (textGlyphs (fieldText s)) r' ∧ r.Holds s r' := by
  unfold fieldText
  split
  · have opened : r.step (some '"') =
        ({ r with mode := .quoted, here := r.here.after (some '"') }, none) := by
      rcases hmode with hmode | hmode <;> simp [Reader.step, hmode, isNewline]
    have between := passes_quoted s.toList
      (r := { r with mode := .quoted, here := r.here.after (some '"') }) rfl
    let inside : Reader := { r with
      mode := .quoted
      field := (s.toList.map some).reverse ++ r.field
      here := (r.here.after (some '"')).afterAll ((s.toList.flatMap doubled).map some) }
    let done : Reader :=
      { inside with mode := .quoteSeen, here := inside.here.after (some '"') }
    have closed : inside.step (some '"') = (done, none) := by
      simp [Reader.step, inside, done]
    refine ⟨done, ?_, ?_, rfl, rfl, by simp [done], by simp [done]⟩
    · simpa [textGlyphs] using ((Passes.step opened).append between).append (.step closed)
    · simp [done, inside, textGlyphs, hfield]
  · next hplain =>
    have hneeds : ∀ c ∈ s.toList, needsQuotes c = false := by
      rw [show s.any needsQuotes = s.toList.any needsQuotes from String.contains_bool_eq] at hplain
      simpa using hplain
    rcases hs : s.toList with _ | ⟨c, rest⟩
    · obtain rfl : s = "" := by simpa using hs
      refine ⟨r, .nil r, hfield, rfl, rfl, ?_, fun h => ⟨rfl, h⟩⟩
      rcases hmode with h | h <;> simp [h]
    · rw [hs] at hneeds
      have first := step_of_plain hmode (hneeds c List.mem_cons_self)
      let begun : Reader := { r with
        mode := .plain
        field := some c :: r.field
        here := r.here.after (some c) }
      have more := passes_plain (fun c hc => hneeds c (List.mem_cons_of_mem _ hc)) (r := begun) rfl
      let done : Reader := { begun with
        field := (rest.map some).reverse ++ begun.field
        here := begun.here.afterAll (rest.map some) }
      refine ⟨done, ?_, ?_, rfl, rfl, by simp [done, begun], by simp [done, begun]⟩
      · simpa [textGlyphs, hs] using (Passes.step first).append more
      · simp [done, begun, textGlyphs, hs, hfield]

/-! ### Records -/

theorem passes_comma {r : Reader} (hmode : r.mode ≠ .quoted) :
    ∃ place, Passes r [some ','] { r.endField with here := place } := by
  have hstep : r.step (some ',') =
      ({ r.endField with here := r.here.after (some ',') }, none) := by
    cases hr : r.mode <;> simp_all [Reader.step, stepPlain, endField, isNewline]
  exact ⟨_, .step hstep⟩

theorem records_newline {r : Reader} (hquoted : r.mode ≠ .quoted) (houtside : r.mode ≠ .outside)
    (rest : List Glyph) : ∃ place,
    r.records (some '\n' :: rest) = r.record :: records { start := place, here := place } rest := by
  refine ⟨r.here.after (some '\n'), ?_⟩
  have hstep : r.step (some '\n') =
      ({ start := r.here.after (some '\n'), here := r.here.after (some '\n') }, some r.record) := by
    cases hr : r.mode <;> simp_all [Reader.step, stepPlain, endRecord, isNewline, record, endField]
  rw [records, hstep]

/-- A record of at least one field as the fields that are written. -/
def fieldGlyphs : List String → List Glyph
  | [] => []
  | [s] => textGlyphs (fieldText s)
  | s :: rest => textGlyphs (fieldText s) ++ some ',' :: fieldGlyphs rest

/-- Fields with commas between them and a line feed behind them are the fields of one record, unless
they leave an empty line. -/
theorem records_fields (s : String) (more : List String) {r : Reader} (hfield : r.field = [])
    (hmode : r.mode = .fieldStart ∨ r.mode = .outside ∧ s :: more ≠ [""]) (rest : List Glyph) :
    ∃ place, r.records (fieldGlyphs (s :: more) ++ some '\n' :: rest) =
      ⟨r.start, r.fields.reverse ++ (s :: more).map textGlyphs⟩ ::
        records { start := place, here := place } rest := by
  induction more generalizing s r with
  | nil =>
    obtain ⟨r', hpasses, held⟩ := passes_field (hmode.symm.imp And.left id) hfield s
    have houtside : r'.mode ≠ .outside := by
      intro h
      obtain ⟨rfl, hr⟩ := held.outside h
      rcases hmode with hmode | ⟨-, hne⟩
      · rw [hr] at hmode
        cases hmode
      · exact hne rfl
    obtain ⟨place, hrecords⟩ := records_newline held.unquoted houtside rest
    refine ⟨place, ?_⟩
    rw [fieldGlyphs, hpasses, hrecords]
    simp [record, endField, held.field, held.fields, held.start]
  | cons t more ih =>
    obtain ⟨r', hpasses, held⟩ := passes_field (hmode.symm.imp And.left id) hfield s
    obtain ⟨here, hcomma⟩ := passes_comma held.unquoted
    obtain ⟨place, hrecords⟩ := ih t (r := { r'.endField with here }) rfl (.inl rfl)
    refine ⟨place, ?_⟩
    rw [fieldGlyphs, List.append_assoc, hpasses]
    · rw [List.cons_append, ← List.singleton_append, hcomma, hrecords]
      simp [endField, held.field, held.fields, held.start]
    · simp

end Reader

theorem textGlyphs_fields (s : String) (more : List String) :
    textGlyphs (String.intercalate "," ((s :: more).map fieldText)) =
      Reader.fieldGlyphs (s :: more) := by
  induction more generalizing s with
  | nil => simp [textGlyphs, Reader.fieldGlyphs]
  | cons t more ih =>
    have hmore := ih t
    have hfields : Reader.fieldGlyphs (s :: t :: more) =
      textGlyphs (fieldText s) ++ some ',' :: Reader.fieldGlyphs (t :: more) := rfl
    simp only [textGlyphs, String.toList_intercalate, List.map_cons] at hmore ⊢
    rw [List.intercalate_cons_cons, List.map_append, hmore, hfields]
    simp [textGlyphs]

/-- A line is read as the record that was written, if that has any fields. -/
theorem records_line {fields : List String} (hfields : fields ≠ []) (here : Place)
    (rest : List Glyph) : ∃ place,
    Reader.records { start := here, here } (textGlyphs (line fields) ++ rest) =
      ⟨here, fields.map textGlyphs⟩ :: Reader.records { start := place, here := place } rest := by
  obtain ⟨s, more, rfl⟩ := List.exists_cons_of_ne_nil hfields
  have hend : textGlyphs "\n" = [some '\n'] := rfl
  rw [line, textGlyphs_append, hend, List.append_assoc, List.singleton_append]
  by_cases hempty : s :: more = [""]
  · rw [hempty]
    -- a pair of quotes is what is left of the record
    have opened : ({ start := here, here } : Reader).step (some '"') =
        ({ mode := .quoted, start := here, here := here.after (some '"') }, none) := rfl
    have closed : ({ mode := .quoted, start := here, here := here.after (some '"') } : Reader).step
        (some '"') =
        ({ mode := .quoteSeen, start := here, here := (here.after (some '"')).after (some '"') },
          none) := rfl
    have quotes := (Reader.Passes.step opened).append (.step closed)
    obtain ⟨place, hrecords⟩ := Reader.records_newline
      (r := { mode := .quoteSeen, start := here, here := (here.after (some '"')).after (some '"') })
      (by simp) (by simp) rest
    exact ⟨place, (quotes _).trans hrecords⟩
  · have htext : recordText (s :: more) = String.intercalate "," ((s :: more).map fieldText) := by
      rw [recordText]
      · simp
      · simpa using hempty
    obtain ⟨place, hrecords⟩ := Reader.records_fields s more
      (r := { start := here, here }) rfl (.inr ⟨rfl, hempty⟩) rest
    refine ⟨place, ?_⟩
    rw [htext, textGlyphs_fields, hrecords]
    rfl

/-! ### Tables -/

theorem records_lines {rows : List (List String)} (hrows : ∀ fields ∈ rows, fields ≠ [])
    (here : Place) :
    (Reader.records { start := here, here } (textGlyphs (String.join (rows.map line)))).map
      RawRecord.fields = rows.map (·.map textGlyphs) := by
  induction rows generalizing here with
  | nil => rfl
  | cons fields rest ih =>
    obtain ⟨place, hrecords⟩ := records_line (hrows fields List.mem_cons_self) here
      (textGlyphs (String.join (rest.map line)))
    have hmore := ih (fun f hf => hrows f (List.mem_cons_of_mem _ hf)) place
    rw [List.map_cons, String.join_cons, textGlyphs_append, hrecords, List.map_cons, hmore,
      List.map_cons]

theorem fieldTexts_textGlyphs (number : Nat) (start : Place) (i : Nat) (fields : List String) :
    fieldTexts number start i (fields.map textGlyphs) = .ok fields := by
  induction fields generalizing i with
  | nil => rfl
  | cons s rest ih =>
    rw [List.map_cons, fieldTexts, textGlyphs, wholeText?_map_some]
    simp only [ih, String.ofList_toList]
    rfl

theorem cellsFrom_textGlyphs {width : Nat} (number : Nat) {raw : List RawRecord}
    {rows : List (List String)} (hraw : raw.map RawRecord.fields = rows.map (·.map textGlyphs))
    (hrows : ∀ fields ∈ rows, fields.length = width) :
    cellsFrom width number raw = rows.map .ok := by
  induction rows generalizing raw number with
  | nil =>
    obtain rfl : raw = [] := by simpa using hraw
    rfl
  | cons fields rest ih =>
    obtain ⟨record, raw, rfl, hfields, hraw⟩ := List.map_eq_cons_iff.mp hraw
    have hwidth : record.fields.length = width := by
      rw [hfields, List.length_map]
      exact hrows fields List.mem_cons_self
    rw [cellsFrom, RawRecord.cells, if_pos hwidth, RawRecord.texts, hfields, fieldTexts_textGlyphs,
      ih (number + 1) hraw fun f hf => hrows f (List.mem_cons_of_mem _ hf)]
    rfl

theorem records_of_unmarked {gs : List Glyph} (h : ∀ g ∈ gs.head?, g ≠ some byteOrderMark) :
    records gs = Reader.records {} gs := by
  unfold records
  split
  · next c rest => rw [if_neg fun hc => h (some c) rfl (congrArg some hc)]
  · rfl

/-- **What is written as a table is read as that table.** -/
theorem tableOf_written {header : List String} {rows : List (List String)} (hheader : header ≠ [])
    (hmark : ∀ g ∈ (textGlyphs (line header)).head?, g ≠ some byteOrderMark)
    (hrows : ∀ fields ∈ rows, fields.length = header.length) :
    tableOf (glyphs (line header ++ String.join (rows.map line)).toUTF8) =
      ⟨.ok header, rows.map .ok⟩ := by
  have hne : ∀ fields ∈ rows, fields ≠ [] := by
    rintro fields hmem rfl
    exact hheader (List.length_eq_zero_iff.mp (hrows [] hmem).symm)
  have hunmarked : ∀ g ∈ (textGlyphs (line header ++ String.join (rows.map line))).head?,
      g ≠ some byteOrderMark := by
    intro g hg
    rw [textGlyphs_append, List.head?_append] at hg
    cases hhead : (textGlyphs (line header)).head? with
    | some g' =>
      rw [hhead] at hg
      exact hmark g (by rw [hhead]; exact hg)
    | none => simp [line, textGlyphs] at hhead
  obtain ⟨place, hrecords⟩ := records_line hheader {} (textGlyphs (String.join (rows.map line)))
  have hlines := records_lines hne place
  rw [glyphs_toUTF8, tableOf, records_of_unmarked hunmarked, textGlyphs_append, hrecords]
  simp only [RawRecord.texts, fieldTexts_textGlyphs, List.length_map,
    cellsFrom_textGlyphs 1 hlines hrows]

end RowScript.Csv
