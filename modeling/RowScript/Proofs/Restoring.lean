import RowScript.Job.Text
import RowScript.Proofs.Gathering
import RowScript.Proofs.Legible

/-!
# Jobs are restored from JSON

A job that is written as JSON is read back as the same job (`Job.readAs_writeAs`). Documents of fields
have the fields that a structure reads (`Layer.fields?_fieldTable`), and each structure is read from the
document that it is written as. Rows are kept with the order of their names and of the names of nested
objects, and numbers keep their kind.
-/

namespace RowScript

/-! ### Values -/

/-- Values that a JSON text keeps: the text of every float is read back, and an object is a map. -/
inductive Value.Lasting : Value → Prop
  | null : Lasting .null
  | bool (b : Bool) : Lasting (.bool b)
  | int (n : Int64) : Lasting (.int n)
  | float {x : Float} (h : Json.ReadsBack x) : Lasting (.float x)
  | string (s : String) : Lasting (.string s)
  | array {items : List Value} (h : ∀ v ∈ items, Lasting v) : Lasting (.array items)
  | object {entries : Entries Value} (hnames : entries.Distinct) (h : ∀ e ∈ entries, Lasting e.2) :
    Lasting (.object entries)

namespace Entries

variable {α : Type}

theorem ofPairs_of_distinct {m : Entries α} (h : m.Distinct) : ofPairs m = m := by
  have hfold : ∀ (pairs before : Entries α), (before ++ pairs).Distinct →
      pairs.foldl (fun m p => insert m p.1 p.2) before = before ++ pairs := by
    intro pairs
    induction pairs with
    | nil => simp
    | cons p rest ih =>
      intro before hdistinct
      have hnew : p.1 ∉ before.keys := by
        rw [Distinct, keys, List.map_append, List.nodup_append] at hdistinct
        exact fun hmem => hdistinct.2.2 p.1 hmem p.1 (by simp) rfl
      rw [List.foldl_cons, insert_of_not_mem hnew, ih _ (by simpa using hdistinct)]
      simp
  exact hfold m [] h

end Entries

theorem Value.ofInt_toInt (n : Int64) : Value.ofInt n.toInt = .int n := by
  rw [Value.ofInt, if_pos ⟨Int64.minValue_le_toInt n, Int64.toInt_le n⟩, Int64.ofInt_toInt]

namespace Document

theorem ofValues_eq_map (items : List Value) : ofValues items = items.map ofValue := by
  induction items with
  | nil => rfl
  | cons v rest ih => rw [ofValues, ih, List.map_cons]

theorem ofEntries_eq_map (entries : List (String × Value)) :
    ofEntries entries = (entries.map fun e => (e.1, ofValue e.2)).map fun m => (.name m.1, m.2) := by
  induction entries with
  | nil => rfl
  | cons e rest ih =>
    obtain ⟨k, v⟩ := e
    rw [ofEntries, ih]
    rfl

theorem legible_ofValue {v : Value} (h : v.Lasting) : (ofValue v).Legible := by
  induction h with
  | null => exact .null
  | bool b => exact .bool b
  | int n =>
    have hlo := Int64.le_toInt n
    have hhi := Int64.toInt_lt n
    rw [ofValue]
    exact .int hlo (Int.lt_trans hhi (by decide))
  | float hx => exact .float hx
  | string s => exact .string s
  | array h ih =>
    rw [ofValue, ofValues_eq_map]
    refine .list fun d hd => ?_
    obtain ⟨v, hv, rfl⟩ := List.mem_map.mp hd
    exact ih v hv
  | object hnames h ih =>
    rw [ofValue, ofEntries_eq_map]
    refine .table fun m hm => ?_
    obtain ⟨e, he, rfl⟩ := List.mem_map.mp hm
    exact ih e he

theorem itemValues?_ofValues {items : List Value}
    (h : ∀ v ∈ items, (ofValue v).toValue? = some v) :
    itemValues? (ofValues items) = some items := by
  induction items with
  | nil => rfl
  | cons v rest ih =>
    have hrest := ih fun w hw => h w (List.mem_cons_of_mem _ hw)
    simp [ofValues, itemValues?, h v List.mem_cons_self, hrest]

theorem memberValues?_ofEntries {entries : List (String × Value)}
    (h : ∀ e ∈ entries, (ofValue e.2).toValue? = some e.2) :
    memberValues? (ofEntries entries) = some entries := by
  induction entries with
  | nil => rfl
  | cons e rest ih =>
    have hrest := ih fun e' he' => h e' (List.mem_cons_of_mem _ he')
    simp [ofEntries, memberValues?, h e List.mem_cons_self, hrest]

/-- A value is read back from its document. -/
theorem toValue?_ofValue {v : Value} (h : v.Lasting) : (ofValue v).toValue? = some v := by
  induction h with
  | null => rfl
  | bool b => rfl
  | int n => rw [ofValue, toValue?, Value.ofInt_toInt]
  | float hx => rfl
  | string s => rfl
  | array h ih => rw [ofValue, toValue?, itemValues?_ofValues ih, Option.map_some]
  | object hnames h ih =>
    rw [ofValue, toValue?, memberValues?_ofEntries ih, Option.map_some,
      Entries.ofPairs_of_distinct hnames]

theorem asValueMap?_ofValue {r : ValueMap} (h : (Value.object r).Lasting) :
    (ofValue (.object r)).asValueMap? = some r := by
  rw [asValueMap?, toValue?_ofValue h]
  rfl

section Option

variable {α : Type} {write : α → Document} {read? : Document → Option α} {o : Option α}

theorem legible_ofOption (h : ∀ a ∈ o, (write a).Legible) : (ofOption write o).Legible := by
  cases o with
  | none => exact .null
  | some a => exact h a rfl

theorem optional?_ofOption (hnull : ∀ a, write a ≠ .null)
    (hread : ∀ a ∈ o, read? (write a) = some a) :
    optional? read? (ofOption write o) = some o := by
  cases o with
  | none => rfl
  | some a =>
    rw [ofOption, Option.map_some, Option.getD_some, optional?, hread a rfl]
    · rfl
    · exact hnull a

end Option

theorem legible_ofUInt64 (n : UInt64) : (ofUInt64 n).Legible := by
  have hlt : (n.toNat : Int) < Nat.pow 2 64 := by exact_mod_cast n.toNat_lt
  exact .int (by omega) hlt

theorem asUInt64?_ofUInt64 (n : UInt64) : asUInt64? (ofUInt64 n) = some n := by
  have hlt : (n.toNat : Int) < Nat.pow 2 64 := by exact_mod_cast n.toNat_lt
  rw [ofUInt64, asUInt64?, if_pos ⟨by omega, hlt⟩, Int.toNat_natCast, UInt64.ofNat_toNat]

theorem optional?_count (n : Option UInt64) :
    optional? asUInt64? (ofOption ofUInt64 n) = some n :=
  optional?_ofOption nofun fun n _ => asUInt64?_ofUInt64 n

theorem mapM_map_eq_some {α β : Type} {write : α → β} {read? : β → Option α} {as : List α}
    (h : ∀ a ∈ as, read? (write a) = some a) : (as.map write).mapM read? = some as := by
  induction as with
  | nil => rfl
  | cons a rest ih =>
    have hrest := ih fun b hb => h b (List.mem_cons_of_mem _ hb)
    rw [List.map_cons, List.mapM_cons, h a List.mem_cons_self, hrest]
    rfl

end Document

/-! ### Fields -/

theorem fieldTable_false (fields : List (String × Document)) :
    fieldTable false fields = .table (fields.map fun m => (.name m.1, m.2)) := by
  rw [fieldTable, List.filter_eq_self.mpr]
  rintro ⟨name, d⟩ -
  cases d <;> rfl

theorem legible_fieldTable {fields : List (String × Document)} (h : ∀ m ∈ fields, m.2.Legible) :
    (fieldTable false fields).Legible := by
  rw [fieldTable_false]
  exact .table h

namespace Layer

theorem gather?_of_names {names : List String} {strict : Bool} {fields : Entries Document}
    (hdistinct : fields.Distinct) (hknown : ∀ name ∈ fields.keys, name ∈ names) :
    gather? names strict (fields.map fun m => (.name m.1, some m.2)) = some fields := by
  induction fields with
  | nil => rfl
  | cons m rest ih =>
    obtain ⟨name, d⟩ := m
    rw [Entries.Distinct, Entries.keys_cons, List.nodup_cons] at hdistinct
    have hrest := ih hdistinct.2 fun n hn => hknown n (List.mem_cons_of_mem _ hn)
    have hnew : Entries.contains rest name = false := Entries.contains_of_not_mem hdistinct.1
    rw [List.map_cons, gather?, field?_of_mem (hknown name List.mem_cons_self)]
    · simp [hrest, hnew]
    · simp

theorem fields?_fieldTable {dialect : Dialect} {names : List String} {strict : Bool}
    {fields : Entries Document} (hkeys : fields.keys.Sublist names) (hnames : names.Nodup) :
    (fieldTable false fields).layer.fields? dialect names strict = some fields := by
  have hlayer : (fieldTable false fields).layer =
      .table (fields.map fun m => (.name m.1, some m.2)) := by
    simp [fieldTable_false, Document.layer]
  rw [hlayer]
  exact gather?_of_names (hkeys.nodup hnames) fun name hname => hkeys.subset hname

end Layer

/-! ### Configurations -/

namespace InputColumn

theorem legible_document (c : InputColumn) : c.document.Legible := by
  refine legible_fieldTable fun m hm => ?_
  simp only [List.mem_cons, List.not_mem_nil, or_false] at hm
  rcases hm with rfl | rfl <;> exact .string _

theorem ofDocument?_document (c : InputColumn) : ofDocument? c.document = some c := by
  have htype : ColumnType.ofDocument? .nested (.string c.type.id) = some c.type := by
    cases c.type <;> rfl
  rw [ofDocument?, ofLayer?, document, Layer.fields?_fieldTable]
  · simp [Entries.required?, Entries.optional?, Entries.get?, List.lookup_cons,
      Document.asString?, htype]
  · exact List.Sublist.refl _
  · decide

end InputColumn

namespace Limits

theorem legible_document (l : Limits) : (l.document false).Legible := by
  refine legible_fieldTable fun m hm => ?_
  simp only [List.mem_cons, List.not_mem_nil, or_false] at hm
  rcases hm with rfl | rfl | rfl | rfl
  · exact Document.legible_ofOption fun n _ => Document.legible_ofUInt64 n
  · exact Document.legible_ofUInt64 _
  · exact Document.legible_ofOption fun n _ => Document.legible_ofUInt64 n
  · exact Document.legible_ofOption fun n _ => Document.legible_ofUInt64 n

theorem ofLayer?_document (dialect : Dialect) (l : Limits) :
    ofLayer? dialect (l.document false).layer = some l := by
  rw [ofLayer?, document, Layer.fields?_fieldTable]
  · simp [Entries.optional?, Entries.get?, List.lookup_cons, Document.optional?_count,
      Document.asUInt64?_ofUInt64]
  · exact List.Sublist.refl _
  · decide

end Limits

namespace TransformerConfig

theorem legible_variantFields (v : Variant) : ∀ m ∈ variantFields v, m.2.Legible := by
  intro m hm
  cases v with
  | simple => cases hm
  | standard concurrent =>
    obtain rfl := List.mem_singleton.mp hm
    exact .bool concurrent
  | advanced c =>
    simp only [variantFields, List.mem_cons, List.not_mem_nil, or_false] at hm
    rcases hm with rfl | rfl | rfl | rfl
    · exact .bool _
    · exact Document.legible_ofUInt64 _
    · exact .string _
    · exact .bool _

theorem legible_document (c : TransformerConfig) : (c.document false).Legible := by
  refine legible_fieldTable fun m hm => ?_
  simp only [List.mem_append, List.mem_cons, List.not_mem_nil, or_false] at hm
  rcases hm with ((rfl | rfl) | hm) | rfl
  · exact .string _
  · refine .list fun d hd => ?_
    obtain ⟨c, -, rfl⟩ := List.mem_map.mp hd
    exact c.legible_document
  · exact legible_variantFields _ m hm
  · exact Document.legible_ofOption fun code _ => .string code

/-- The fields of a transformer apart from its kind. -/
def fields (c : TransformerConfig) : Entries Document :=
  [("inputs", .list (c.inputs.map InputColumn.document))] ++ variantFields c.variant ++
    [("code", .ofOption .string c.code)]

theorem keys_fields (c : TransformerConfig) : c.fields.keys = fieldNames c.kind := by
  obtain ⟨inputs, code, variant⟩ := c
  cases variant <;> rfl

theorem ofFields?_fields (c : TransformerConfig) :
    ofFields? c.kind (fieldTable false c.fields).layer = some c := by
  have hcolumns : (c.inputs.map InputColumn.document).mapM InputColumn.ofDocument? =
      some c.inputs := Document.mapM_map_eq_some fun c _ => InputColumn.ofDocument?_document c
  have hcode : Document.optional? Document.asString? (.ofOption .string c.code) = some c.code :=
    Document.optional?_ofOption nofun fun _ _ => rfl
  have hshape (shape : ShapePolicy) :
      ShapePolicy.ofDocument? .nested (.string shape.id) = some shape := by
    cases shape <;> rfl
  rw [ofFields?, Layer.fields?_fieldTable]
  · obtain ⟨inputs, code, variant⟩ := c
    cases variant <;>
      simp [fields, variantFields, variantOf?, kind, Variant.kind, Entries.required?,
        Entries.optional?, Entries.get?, List.lookup_cons, Document.asList?, Document.asBool?,
        Document.asUInt64?_ofUInt64, hcolumns, hcode, hshape]
  · rw [keys_fields]
  · cases c.kind <;> decide

theorem ofDocument?_kind {kind : Kind} {fields : Entries Document} (h : "kind" ∉ fields.keys) :
    ofDocument? (fieldTable false (("kind", .string kind.id) :: fields)) =
      ofFields? kind (fieldTable false fields).layer := by
  have hkind : kindOf? (.string kind.id) = some kind := by cases kind <;> rfl
  have hothers : ∀ m ∈ fields.map fun m => (Key.name m.1, m.2), (m.1 == Key.name "kind") = false := by
    intro m hm
    obtain ⟨f, hf, rfl⟩ := List.mem_map.mp hm
    refine beq_eq_false_iff_ne.mpr fun heq => h ?_
    exact List.mem_map.mpr ⟨f, hf, Key.name.inj heq⟩
  have hpartition : (((Key.name "kind", Document.string kind.id) ::
      fields.map fun m => (Key.name m.1, m.2)).partition (·.1 == .name "kind")) =
      ([(.name "kind", .string kind.id)], fields.map fun m => (.name m.1, m.2)) := by
    rw [List.partition_eq_filter_filter, List.filter_cons_of_pos (by simp),
      List.filter_eq_nil_iff.mpr fun m hm => by simp [hothers m hm],
      List.filter_cons_of_neg (by simp), List.filter_eq_self.mpr fun m hm => by simp [hothers m hm]]
  rw [fieldTable_false, fieldTable_false, List.map_cons, ofDocument?, hpartition]
  simp [hkind]

theorem ofDocument?_document (c : TransformerConfig) : ofDocument? (c.document false) = some c := by
  have hfields : c.document false = fieldTable false (("kind", .string c.kind.id) :: c.fields) := rfl
  rw [hfields, ofDocument?_kind, ofFields?_fields]
  rw [keys_fields]
  cases c.kind <;> decide

end TransformerConfig

/-! ### Jobs -/

/-- Rows that a JSON text keeps. -/
def Source.Lasting : Source → Prop
  | .file _ => True
  | .inline rows => ∀ r ∈ rows, (Value.object r).Lasting

namespace Source

theorem legible_document {s : Source} (h : s.Lasting) : s.document.Legible := by
  cases s with
  | file path =>
    refine legible_fieldTable fun m hm => ?_
    obtain rfl := List.mem_singleton.mp hm
    exact .string path
  | inline rows =>
    refine legible_fieldTable fun m hm => ?_
    obtain rfl := List.mem_singleton.mp hm
    refine .list fun d hd => ?_
    obtain ⟨r, hr, rfl⟩ := List.mem_map.mp hd
    exact Document.legible_ofValue (h r hr)

theorem ofDocument?_document {s : Source} (h : s.Lasting) : ofDocument? s.document = some s := by
  have horder : ofDocument? s.document =
      (fileOf? s.document.layer).orElse fun _ => rowsOf? s.document.layer := by
    cases s <;> rfl
  rw [horder]
  cases s with
  | file path =>
    have hfile : fileOf? (document (.file path)).layer = some (.file path) := rfl
    rw [hfile]
    rfl
  | inline rows =>
    have hfile : fileOf? (document (.inline rows)).layer = none := rfl
    have hrows : rowsOf? (document (.inline rows)).layer = some (.inline rows) := by
      have hread := Document.mapM_map_eq_some fun r hr => Document.asValueMap?_ofValue (h r hr)
      rw [rowsOf?, document, Layer.fields?_fieldTable]
      · simp [Entries.required?, Entries.get?, Document.asList?, hread]
      · exact List.Sublist.refl _
      · decide
    rw [hfile, hrows]
    rfl

end Source

theorem legible_sinkDocument (path : String) : (sinkDocument path).Legible := by
  refine legible_fieldTable fun m hm => ?_
  obtain rfl := List.mem_singleton.mp hm
  exact .string path

theorem sinkPath?_sinkDocument (path : String) : sinkPath? (sinkDocument path) = some path := rfl

namespace Job

/-- The fields of a job. -/
def fields (j : Job) : Entries Document :=
  [("transformer", j.transformer.document false)] ++
    (match j.limits with
      | some l => [("engine", l.document false)]
      | none => []) ++
    [("source", .ofOption Source.document j.source), ("sink", .ofOption sinkDocument j.sink)]

theorem document_false (j : Job) : j.document false = fieldTable false j.fields := rfl

theorem keys_fields (j : Job) : j.fields.keys.Sublist fieldNames := by
  obtain ⟨transformer, limits, source, sink⟩ := j
  cases limits <;> simp [fields, fieldNames]

theorem legible_document {j : Job} (h : ∀ s ∈ j.source, s.Lasting) :
    (j.document false).Legible := by
  rw [document_false]
  refine legible_fieldTable fun m hm => ?_
  simp only [fields, List.mem_append, List.mem_cons, List.not_mem_nil, or_false] at hm
  rcases hm with (rfl | hm) | rfl | rfl
  · exact j.transformer.legible_document
  · cases hlimits : j.limits with
    | none => simp [hlimits] at hm
    | some l =>
      simp only [hlimits, List.mem_singleton] at hm
      subst hm
      exact l.legible_document
  · exact Document.legible_ofOption fun s hs => Source.legible_document (h s hs)
  · exact Document.legible_ofOption fun path _ => legible_sinkDocument path

theorem ofLayer?_document {j : Job} (h : ∀ s ∈ j.source, s.Lasting) (dialect : Dialect) :
    ofLayer? dialect (j.document false).layer = some j := by
  have hsource : Document.optional? Source.ofDocument? (.ofOption Source.document j.source) =
      some j.source :=
    Document.optional?_ofOption (fun s => by cases s <;> nofun)
      fun s hs => Source.ofDocument?_document (h s hs)
  have hsink : Document.optional? sinkPath? (.ofOption sinkDocument j.sink) = some j.sink :=
    Document.optional?_ofOption nofun fun path _ => sinkPath?_sinkDocument path
  have hlimits (l : Limits) : Document.optional? (fun d => Limits.ofLayer? dialect d.layer)
      (l.document false) = some (some l) := by
    rw [Document.optional?, Limits.ofLayer?_document]
    · rfl
    · nofun
  rw [document_false, ofLayer?, Layer.fields?_fieldTable j.keys_fields (by decide)]
  obtain ⟨transformer, limits, source, sink⟩ := j
  cases limits <;>
    simp [fields, Entries.required?, Entries.optional?, Entries.get?, List.lookup_cons,
      TransformerConfig.ofDocument?_document, hsource, hsink, hlimits]

/-- **A job is read back from its JSON text.** Writing succeeds, and what is read is the same job: the
variant and all settings, the limits, where its rows come from and where they go, and the rows it holds
with their names in order and the kinds of their numbers. The rows may hold all values whose floats are
read back from their texts (`Value.Lasting`), and the document may be nested as deep as is read. -/
theorem readAs_writeAs {job : Job} (hrows : ∀ s ∈ job.source, s.Lasting)
    (hdepth : (job.document false).depth ≤ 127) :
    ∃ text, job.writeAs "json" = .ok text ∧ readAs "json" text.toUTF8 = .ok job := by
  refine ⟨Json.pretty 0 (job.document false), rfl, ?_⟩
  have hlayer := Json.layer?_pretty (legible_document hrows) hdepth
  have hread : ofGlyphs? .json (textGlyphs (Json.pretty 0 (job.document false))) = some job := by
    rw [ofGlyphs?, Format.layer?, hlayer]
    exact ofLayer?_document hrows _
  have hformat : Format.ofId? "json" = some .json := rfl
  rw [readAs, hformat]
  simp only [read, glyphs_toUTF8, hread]

/-- A row whose names do not ascend, with an object in a list and with numbers of both kinds. -/
def crate : ValueMap :=
  [("weight", .float 12.5), ("tags", .array [.null, .object [("z", .int (-3)), ("a", .bool true)]]),
    ("label", .string "a\t\"b\"\\ \x01é")]

theorem lasting_crate : (Value.object crate).Lasting := by
  have hmarks : (Value.object [("z", .int (-3)), ("a", .bool true)]).Lasting := by
    refine .object (by decide) fun e he => ?_
    simp only [List.mem_cons, List.not_mem_nil, or_false] at he
    rcases he with rfl | rfl
    · exact .int _
    · exact .bool _
  have htags : (Value.array [.null, .object [("z", .int (-3)), ("a", .bool true)]]).Lasting := by
    refine .array fun v hv => ?_
    simp only [List.mem_cons, List.not_mem_nil, or_false] at hv
    rcases hv with rfl | rfl
    · exact .null
    · exact hmarks
  refine .object (by decide) fun e he => ?_
  simp only [crate, List.mem_cons, List.not_mem_nil, or_false] at he
  rcases he with rfl | rfl | rfl
  · exact .float (by decide +kernel)
  · exact htags
  · exact .string _

/-- A job with limits, one row of its own and a sink. -/
def shipping : Job where
  transformer :=
    { inputs := [⟨"weight", .float⟩, ⟨"label", .string⟩]
      variant := .advanced { concurrent := false, outputFields := 3, shape := .fit } }
  limits := some { maxOperations := some 18446744073709551615, timeoutMs := some 0 }
  source := some (.inline [crate, []])
  sink := some "out/crates.csv"

theorem readAs_writeAs_shipping :
    (shipping.document false).depth ≤ 127 ∧
    ∃ text, shipping.writeAs "json" = .ok text ∧ readAs "json" text.toUTF8 = .ok shipping := by
  have hdepth : (shipping.document false).depth ≤ 127 := by decide
  have hrows : ∀ s ∈ shipping.source, s.Lasting := by
    rintro s ⟨⟩ r hr
    simp only [List.mem_cons, List.not_mem_nil, or_false] at hr
    rcases hr with rfl | rfl
    · exact lasting_crate
    · exact .object (by decide) nofun
  exact ⟨hdepth, readAs_writeAs hrows hdepth⟩

end Job

end RowScript
