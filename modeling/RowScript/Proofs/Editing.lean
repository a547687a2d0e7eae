import Mathlib.Logic.Relation
import RowScript.Proofs.Grammar
import RowScript.Proofs.Parts

/-!
# Edits of a JSON job

Which edits of the text of a job matter. The members of any object of a job can be reordered, and where
members are passed over, one more that the object does not know can be added (`Harmless`): the text is
read as the same job, after any number of such edits. A member that a transformer or an engine does not
know, or one more member of a known field, makes a text that is read as no job (`Refused`).

An edit is one of the tree of a text (`Part.Edits`), wherever it is made, and a text of the edited tree
is any text that the grammar derives from it. What is read of the job follows what is read of the edited
object (`Part.Edits.reads`); what the edit does there is known of every object (`Part.read_perm`,
`Part.read_pass`, `Part.read_refuse`, `Part.read_once`). `Job.readAs_edited` puts these together.
-/

namespace RowScript

open Json

/-! ### Limits of the reader -/

namespace Json.Tree

/-- Lists and tables are nested at most so deep, and each number can be held. -/
inductive Fits : Nat → Tree → Prop
  | null {levels} : Fits levels .null
  | bool {levels} (b : Bool) : Fits levels (.bool b)
  | number {levels n} (h : n.document?.isSome) : Fits levels (.number n)
  | string {levels} (pieces : List Piece) : Fits levels (.string pieces)
  | list {levels items} (h : ∀ t ∈ items, Fits levels t) : Fits (levels + 1) (.list items)
  | table {levels ms} (h : ∀ m ∈ ms, Fits levels m.2) : Fits (levels + 1) (.table ms)

/-- Strings and names are texts: no half of a character stands alone. -/
inductive Texts : Tree → Prop
  | null : Texts .null
  | bool (b : Bool) : Texts (.bool b)
  | number (n : NumberText) : Texts (.number n)
  | string {pieces} (h : (textOf? pieces).isSome) : Texts (.string pieces)
  | list {items} (h : ∀ t ∈ items, Texts t) : Texts (.list items)
  | table {ms} (hnames : ∀ m ∈ ms, (textOf? m.1).isSome) (h : ∀ m ∈ ms, Texts m.2) :
    Texts (.table ms)

variable {levels : Nat}

theorem itemDocuments?_isSome {items : List Tree}
    (h : ∀ t ∈ items, (t.document? levels).isSome) : (itemDocuments? levels items).isSome := by
  induction items with
  | nil => rfl
  | cons t items ih =>
    obtain ⟨ht, hitems⟩ := List.forall_mem_cons.mp h
    obtain ⟨d, hd⟩ := Option.isSome_iff_exists.mp ht
    obtain ⟨ds, hds⟩ := Option.isSome_iff_exists.mp (ih hitems)
    simp [itemDocuments?, hd, hds]

theorem memberDocuments?_isSome {ms : List Member}
    (hnames : ∀ m ∈ ms, (textOf? m.1).isSome) (h : ∀ m ∈ ms, (m.2.document? levels).isSome) :
    (memberDocuments? levels ms).isSome := by
  induction ms with
  | nil => rfl
  | cons m ms ih =>
    obtain ⟨key, v⟩ := m
    obtain ⟨hname, hrest⟩ := List.forall_mem_cons.mp hnames
    obtain ⟨hm, hms⟩ := List.forall_mem_cons.mp h
    obtain ⟨cs, hcs⟩ := Option.isSome_iff_exists.mp hname
    obtain ⟨d, hd⟩ := Option.isSome_iff_exists.mp hm
    obtain ⟨ds, hds⟩ := Option.isSome_iff_exists.mp (ih hrest hms)
    dsimp only at hcs hd
    simp [memberDocuments?, hcs, hd, hds]

/-- Within these limits everything can be read. -/
theorem Fits.document?_isSome {t : Tree} (h : Fits levels t) (ht : Texts t) :
    (t.document? levels).isSome := by
  induction h with
  | null => rfl
  | bool => rfl
  | number h => exact h
  | string pieces =>
    cases ht with
    | string h => simpa [document?] using h
  | @list levels items h ih =>
    cases ht with
    | list ht =>
      have hitems := itemDocuments?_isSome fun t hmem => ih t hmem (ht t hmem)
      simpa [document?] using hitems
  | @table levels ms h ih =>
    cases ht with
    | table hnames ht =>
      have hms := memberDocuments?_isSome hnames fun m hmem => ih m hmem (ht m hmem)
      simpa [document?] using hms

end Json.Tree

/-! ### Edits -/

/-- The members of one object of a job are edited by `edit`, and everything else is left. -/
inductive Part.Edits (edit : List Member → List Member → Prop) : Part → Tree → Tree → Prop
  | job {ms ms'} (h : edit ms ms') : Edits edit .job (.table ms) (.table ms')
  | member {part name key pre post ms ms'} (hpart : Part.member? part = some name)
    (hkey : Names key name) (h : edit ms ms') :
    Edits edit part (.table (pre ++ (key, .table ms) :: post))
      (.table (pre ++ (key, .table ms') :: post))
  | column {tkey ikey pre post tpre tpost items items' ms ms'} (htkey : Names tkey "transformer")
    (hikey : Names ikey "inputs") (h : edit ms ms') :
    Edits edit .column
      (.table (pre ++
        (tkey, .table (tpre ++ (ikey, .list (items ++ .table ms :: items')) :: tpost)) :: post))
      (.table (pre ++
        (tkey, .table (tpre ++ (ikey, .list (items ++ .table ms' :: items')) :: tpost)) :: post))

/-- One more member, wherever it stands. -/
inductive Adds (member : Member → Prop) : List Member → List Member → Prop
  | mk {pre post : List Member} {m : Member} (h : member m) :
    Adds member (pre ++ post) (pre ++ m :: post)

/-- One more member of a field that is there. -/
inductive Repeats (names : List String) : List Member → List Member → Prop
  | mk {pre post : List Member} {m m' : Member} {name : String} (hname : name ∈ names)
    (hkey : Names m.1 name) (hmem : m' ∈ pre ++ post) (hkey' : Names m'.1 name) :
    Repeats names (pre ++ post) (pre ++ m :: post)

/-- A member that is none of the fields. -/
def Unknown (names : List String) (m : Member) : Prop := ∀ name ∈ names, ¬ Names m.1 name

instance (names : List String) (m : Member) : Decidable (Unknown names m) :=
  inferInstanceAs (Decidable (∀ name ∈ names, ¬ Names m.1 name))

/-- What a part passes over: a member that it does not know, with a value within the limits of the
reader. The job itself passes over any value. -/
structure Part.Passes (part : Part) (kind : Kind) (m : Member) : Prop where
  unknown : Unknown (part.fieldNames kind) m
  text : (textOf? m.1).isSome
  limits : part = .job ∨ m.2.Fits (Tree.maxLevels - part.depth) ∧ m.2.Texts

theorem Part.Passes.readable {part : Part} {kind : Kind} {m : Member} (h : part.Passes kind m) :
    (part.value? m.2).isSome := by
  cases part with
  | job => rfl
  | transformer | engine | column | source | sink =>
    obtain ⟨hfits, htexts⟩ := h.limits.resolve_left (by decide)
    simpa [Part.value?, nested?] using hfits.document?_isSome htexts

/-- An edit that leaves the job as it is. -/
inductive Harmless (kind : Kind) : Tree → Tree → Prop
  | reordered {part : Part} {t t'} (h : part.Edits List.Perm t t') : Harmless kind t t'
  | added {part : Part} {t t'} (hpart : part.Lenient)
    (h : part.Edits (Adds (part.Passes kind)) t t') : Harmless kind t t'

/-- An edit behind which there is no job. -/
inductive Refused (kind : Kind) : Tree → Tree → Prop
  | added {part : Part} {t t'} (hpart : ¬ part.Lenient)
    (h : part.Edits (Adds (Unknown (part.fieldNames kind))) t t') : Refused kind t t'
  | repeated {part : Part} {t t'} (hpart : part.Single)
    (h : part.Edits (Repeats (part.fieldNames kind)) t t') : Refused kind t t'

section Read

variable {edit : List Member → List Member → Prop} {part : Part} {t t' : Tree} {job : Job}
  {kind : Kind}

theorem Part.Edits.follows (h : part.Edits edit t t') : ∃ ms ms', edit ms ms' ∧
    Follows (part.read (.table ms)) (part.read (.table ms')) (Part.job.read t) (Part.job.read t') ∧
      ∀ {job c}, Part.job.read t = some job → part.read (.table ms) = some c →
        part.OfKind job.transformer.kind c := by
  cases h with
  | job hms => exact ⟨_, _, hms, ⟨id, id, id⟩, fun _ _ => trivial⟩
  | @member _ name key pre post ms ms' hpart hkey hms =>
    refine ⟨ms, ms', hms, follows_member part hpart hkey pre post ms ms', fun {job c} hjob hc => ?_⟩
    cases part with
    | transformer =>
      cases hpart
      cases (transformer_of_read hkey hjob).symm.trans hc
      rfl
    | job | engine | column | source | sink => trivial
  | column htkey hikey hms =>
    exact ⟨_, _, hms, follows_column htkey hikey _ _ _ _ _ _ _ _, fun _ _ => trivial⟩

/-- In a text of a job the edited object was read, and it decides about the job. -/
theorem Part.Edits.reads (h : part.Edits edit t t') (hjob : Part.job.read t = some job) :
    ∃ ms ms' c, edit ms ms' ∧ part.read (.table ms) = some c ∧ part.OfKind job.transformer.kind c ∧
      (part.read (.table ms') = some c → Part.job.read t' = some job) ∧
      (part.read (.table ms') = none → Part.job.read t' = none) := by
  obtain ⟨ms, ms', hms, hfollows, hkind⟩ := h.follows
  cases hc : part.read (.table ms) with
  | none => cases hjob.symm.trans (hfollows.before hc)
  | some c =>
    exact ⟨ms, ms', c, hms, hc, hkind hjob hc,
      fun hc' => (hfollows.same (hc.trans hc'.symm)).symm.trans hjob, hfollows.behind⟩

theorem Harmless.read (h : Harmless kind t t') (hjob : Part.job.read t = some job) :
    Part.job.read t' = some job := by
  cases h with
  | @reordered part _ _ h =>
    obtain ⟨ms, ms', c, hperm, hc, -, hsame, -⟩ := h.reads hjob
    exact hsame (part.read_perm hperm ▸ hc)
  | @added part _ _ hpart h =>
    obtain ⟨_, _, c, @⟨pre, post, m, hm⟩, hc, -, hsame, -⟩ := h.reads hjob
    obtain ⟨cs, hcs⟩ := Option.isSome_iff_exists.mp hm.text
    have hkey : Names m.1 (String.ofList cs) := by rw [Names, hcs, String.toList_ofList]
    have hname : String.ofList cs ∉ part.fieldNames kind := fun hmem => hm.unknown _ hmem hkey
    exact hsame ((part.read_pass hpart hkey hname hm.readable).trans hc)

theorem Refused.read (h : Refused job.transformer.kind t t') (hjob : Part.job.read t = some job) :
    Part.job.read t' = none := by
  cases h with
  | added hpart h =>
    obtain ⟨_, _, c, ⟨hunknown⟩, hc, hkind, -, hnone⟩ := h.reads hjob
    exact hnone (Part.read_refuse hpart hc hkind hunknown _)
  | repeated hpart h =>
    obtain ⟨_, _, c, ⟨hname, hkey, hmem, hkey'⟩, hc, hkind, -, hnone⟩ := h.reads hjob
    exact hnone (Part.read_once hpart hc hkind hname hkey hmem hkey' _)

end Read

/-! ### Texts -/

namespace Job

theorem readAs_json {data : ByteArray} {t : Tree} (h : Grammar.Text (glyphs data) t) :
    readAs "json" data = match Part.job.read t with
      | some job => .ok job
      | none => .error (.malformed .json) := by
  have hread : ofGlyphs? .json (glyphs data) = Part.job.read t := by
    rw [ofGlyphs?, Format.layer?, Grammar.text_iff.mp h]
    rfl
  show read .json data = _
  rw [read, hread]
  rfl

theorem exists_text_of_readAs {data : ByteArray} {job : Job} (h : readAs "json" data = .ok job) :
    ∃ t, Grammar.Text (glyphs data) t ∧ Part.job.read t = some job := by
  have hread : read .json data = .ok job := h
  rw [read] at hread
  split at hread
  · next job' hjob =>
    cases hread
    obtain ⟨l, hl, hlayer⟩ := Option.bind_eq_some_iff.mp hjob
    obtain ⟨t, ht, hl⟩ := Option.bind_eq_some_iff.mp hl
    exact ⟨t, Grammar.text_iff.mpr ht, by rw [Part.read, hl]; exact hlayer⟩
  · cases hread

/-- A JSON text that is read as a job is read as that job behind any edits that reorder members or add
members that are passed over, and as no job behind one more edit that adds a member where none is passed
over or repeats a field. -/
theorem readAs_edited {data : ByteArray} {job : Job} (h : readAs "json" data = .ok job) :
    ∃ t, (∀ t', Grammar.Text (glyphs data) t' ↔ t' = t) ∧
      ∀ t', Relation.ReflTransGen (Harmless job.transformer.kind) t t' →
        (∀ data', Grammar.Text (glyphs data') t' → readAs "json" data' = .ok job) ∧
        ∀ t'' data'', Refused job.transformer.kind t' t'' → Grammar.Text (glyphs data'') t'' →
          readAs "json" data'' = .error (.malformed .json) := by
  obtain ⟨t, ht, hjob⟩ := exists_text_of_readAs h
  refine ⟨t, fun t' => ⟨fun ht' => ht'.eq ht, fun heq => heq ▸ ht⟩, fun t' hedits => ?_⟩
  have hjob' : Part.job.read t' = some job := by
    induction hedits with
    | refl => exact hjob
    | tail _ hedit ih => exact hedit.read ih
  refine ⟨fun data' ht' => ?_, fun t'' data'' hedit ht'' => ?_⟩
  · rw [readAs_json ht', hjob']
  · rw [readAs_json ht'', hedit.read hjob']

/-! ### A job of one column -/

namespace Edited

/-- A name that is written without escapes. -/
def key (name : String) : List Piece := name.toList.map .char

def named (name : String) (v : Tree) : Member := (key name, v)

def kind : Member := named "kind" (.string ("simple".toList.map .char))

def name : Member := named "name" (.string [.char 'a'])

def inputs (column : List Member) : Member := named "inputs" (.list [.table column])

/-- A job that is a transformer of these members. -/
def tree (transformer : List Member) : Tree := .table [named "transformer" (.table transformer)]

/-- The text of a job, from the text between the braces of its transformer. -/
def text (transformer : String) : String :=
  "\x7b\"transformer\":\x7b" ++ transformer ++ "\x7d\x7d"

def plain : String := text "\"kind\":\"simple\",\"inputs\":[\x7b\"name\":\"a\"\x7d]"

/-- As `plain`, with a unit of the column and the kind behind the columns. -/
def reordered : String :=
  text "\"inputs\":[\x7b\"unit\":[],\"name\":\"a\"\x7d],\"kind\":\"simple\""

/-- As `reordered`, with another kind. -/
def repeated : String :=
  text "\"inputs\":[\x7b\"unit\":[],\"name\":\"a\"\x7d],\"kind\":\"simple\",\"kind\":0"

/-- As `plain`, with a unit of the column that is half a character. -/
def unpaired : String :=
  text "\"kind\":\"simple\",\"inputs\":[\x7b\"unit\":\"\\ud800\",\"name\":\"a\"\x7d]"

theorem text_plain : Grammar.Text (glyphs plain.toUTF8) (tree [kind, inputs [name]]) := by
  rw [glyphs_toUTF8]
  decide +kernel

theorem text_reordered : Grammar.Text (glyphs reordered.toUTF8)
    (tree [inputs [named "unit" (.list []), name], kind]) := by
  rw [glyphs_toUTF8]
  decide +kernel

theorem text_repeated : Grammar.Text (glyphs repeated.toUTF8)
    (tree [inputs [named "unit" (.list []), name], kind,
      named "kind" (.number ⟨false, ['0'], none, none⟩)]) := by
  rw [glyphs_toUTF8]
  decide +kernel

theorem text_unpaired : Grammar.Text (glyphs unpaired.toUTF8)
    (tree [kind, inputs [named "unit" (.string [.unit 0xd800]), name]]) := by
  rw [glyphs_toUTF8]
  decide +kernel

theorem names_key (name : String) : Names (key name) name := by
  have hchars (cs : List Char) : textOf? (cs.map .char) = some cs := by
    induction cs with
    | nil => rfl
    | cons c cs ih => rw [List.map_cons, textOf?, ih]; rfl
  exact hchars _

theorem edits_transformer {edit : List Member → List Member → Prop} {ms ms' : List Member}
    (h : edit ms ms') : Part.transformer.Edits edit (tree ms) (tree ms') :=
  @Part.Edits.member edit .transformer "transformer" _ [] [] ms ms' rfl (names_key _) h

theorem edits_column {edit : List Member → List Member → Prop} {ms ms' : List Member}
    (h : edit ms ms') :
    Part.column.Edits edit (tree [kind, inputs ms]) (tree [kind, inputs ms']) :=
  @Part.Edits.column edit _ _ [] [] [kind] [] [] [] ms ms' (names_key _) (names_key _) h

/-- What `plain` is read as. -/
def job : Job where
  transformer := { inputs := [{ name := "a", type := .any }], variant := .simple }

theorem readAs_plain : readAs "json" plain.toUTF8 = .ok job := by
  rw [readAs_json text_plain]
  rfl

end Edited

open Edited

theorem readAs_edited_column : readAs "json" plain.toUTF8 = .ok job ∧
    readAs "json" reordered.toUTF8 = .ok job ∧
    readAs "json" repeated.toUTF8 = .error (.malformed .json) := by
  obtain ⟨t, ht, hedits⟩ := readAs_edited readAs_plain
  obtain rfl := (ht _).mp text_plain
  have hunit : Part.column.Passes .simple (named "unit" (.list [])) :=
    ⟨by decide, rfl, .inr ⟨.list nofun, .list nofun⟩⟩
  have hadded : Harmless .simple (tree [kind, inputs [name]])
      (tree [kind, inputs [named "unit" (.list []), name]]) :=
    .added (.inr (.inl rfl)) (edits_column (@Adds.mk _ [] [name] _ hunit))
  have hmoved : Harmless .simple (tree [kind, inputs [named "unit" (.list []), name]])
      (tree [inputs [named "unit" (.list []), name], kind]) :=
    .reordered (edits_transformer (List.Perm.swap ..))
  have hrepeated : Refused .simple (tree [inputs [named "unit" (.list []), name], kind])
      (tree [inputs [named "unit" (.list []), name], kind,
        named "kind" (.number ⟨false, ['0'], none, none⟩)]) :=
    .repeated (.inr (.inl rfl)) (edits_transformer (@Repeats.mk _ [_, kind] [] _ kind "kind"
      List.mem_cons_self (names_key _) (by simp) (names_key _)))
  obtain ⟨hsame, hnone⟩ := hedits _ ((Relation.ReflTransGen.single hadded).tail hmoved)
  exact ⟨readAs_plain, hsame _ text_reordered, hnone _ _ hrepeated text_repeated⟩

/-- Limits of depth and of numbers are not all that a value has to keep: half a character is within both,
and yet a column that holds it is not read. -/
theorem unpaired_refused : readAs "json" plain.toUTF8 = .ok job ∧
    (∃ t t', Grammar.Text (glyphs plain.toUTF8) t ∧ Grammar.Text (glyphs unpaired.toUTF8) t' ∧
      Part.column.Edits (Adds fun m => Unknown InputColumn.fieldNames m ∧
        m.2.Fits (Tree.maxLevels - Part.column.depth)) t t') ∧
    readAs "json" unpaired.toUTF8 = .error (.malformed .json) := by
  have hadds : Adds (fun m => Unknown InputColumn.fieldNames m ∧
      m.2.Fits (Tree.maxLevels - Part.column.depth)) [name]
        [named "unit" (.string [.unit 0xd800]), name] :=
    @Adds.mk _ [] [name] _ ⟨by decide, .string _⟩
  refine ⟨readAs_plain, ⟨_, _, text_plain, text_unpaired, edits_column hadds⟩, ?_⟩
  rw [readAs_json text_unpaired]
  rfl

end Job

end RowScript
