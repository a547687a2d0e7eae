import RowScript.Job.Text
import RowScript.Proofs.Gathering

/-!
# The objects of a JSON job

How each object of a job that is written as JSON is read from its members (`Part.read_table`): the members
one by one, then the structure that gathers its fields from them (`Part.gathered?`). The transformer has
its kind taken out first (`TransformerConfig.ofMembers?`), and a source is tried as a file, then as rows.

So the order of the members does not matter in any part (`Part.read_perm`). Members of other names are
passed over or refused (`Part.read_pass`, `Part.read_refuse`), and fields may be repeated nowhere but in
sources and sinks (`Part.read_once`). What is read of a job follows what is read of its parts
(`Follows`): a part that is read as before leaves the job as it was, and a part that cannot be read is a
job that cannot be read (`follows_member`, `follows_column`).
-/

namespace RowScript

open Json

/-! ### Parts and wholes -/

section Follows

variable {α β γ : Type}

/-- What is read of a whole, once before (`b`) and once behind (`b'`) an edit of one part of it, follows
what is read of the part (`a` and `a'`). -/
structure Follows (a a' : Option α) (b b' : Option β) : Prop where
  same : a = a' → b = b'
  before : a = none → b = none
  behind : a' = none → b' = none

namespace Follows

variable {a a' : Option α} {b b' : Option β} {c c' : Option γ}

theorem trans (h : Follows a a' b b') (h' : Follows b b' c c') : Follows a a' c c' where
  same ha := h'.same (h.same ha)
  before ha := h'.before (h.before ha)
  behind ha := h'.behind (h.behind ha)

theorem bind_self (next : α → Option β) : Follows a a' (a.bind next) (a'.bind next) where
  same ha := by rw [ha]
  before ha := by rw [ha]; rfl
  behind ha := by rw [ha]; rfl

/-- What is read first, and does not change, has no part in it. -/
theorem bind {next next' : γ → Option β} (h : ∀ x, Follows a a' (next x) (next' x)) :
    Follows a a' (c.bind next) (c.bind next') := by
  cases c with
  | none => exact ⟨fun _ => rfl, fun _ => rfl, fun _ => rfl⟩
  | some x => exact h x

theorem lift {part : γ → Option α} {whole : γ → Option β}
    (h : ∀ x x', Follows (part x) (part x') (whole x) (whole x')) :
    Follows (c.bind part) (c'.bind part) (c.bind whole) (c'.bind whole) := by
  cases c with
  | none =>
    cases c' with
    | none => exact ⟨fun _ => rfl, fun _ => rfl, fun _ => rfl⟩
    | some x' => exact ⟨fun h' => ((h x' x').before h'.symm).symm, fun _ => rfl, (h x' x').before⟩
  | some x =>
    cases c' with
    | none => exact ⟨(h x x).before, (h x x).before, fun _ => rfl⟩
    | some x' => exact h x x'

end Follows

end Follows

namespace Layer

variable {α β : Type} {names : List String} {strict : Bool} {key : Key} {name : String}

/-- A structure that gathers its fields, asks for the others by name and follows what it reads of the
field `name`. -/
def ReadsField (names : List String) (strict : Bool) (name : String)
    (field : Document → Option β) (read? : List (Key × Option Document) → Option α) : Prop :=
  ∃ ask? : Entries Document → Option α,
    (∀ f f' d d', f.get? name = some d → f'.get? name = some d' →
      (∀ other, other ≠ name → f.get? other = f'.get? other) →
        Follows (field d) (field d') (ask? f) (ask? f')) ∧
    ∀ ms, read? ms = (gather? names strict ms).bind ask?

/-- The member of a field matters only for what is read of it. -/
theorem ReadsField.follows {field : Document → Option β}
    {read? : List (Key × Option Document) → Option α}
    (h : ReadsField names strict name field read?) (hfield : field? names key = some name)
    (pre post : List (Key × Option Document)) (d? d'? : Option Document) :
    Follows (d?.bind field) (d'?.bind field) (read? (pre ++ (key, d?) :: post))
      (read? (pre ++ (key, d'?) :: post)) := by
  obtain ⟨ask?, hask, hread⟩ := h
  simp only [hread]
  have hnone (d? : Option Document) (hd : d?.bind field = none) :
      (gather? names strict (pre ++ (key, d?) :: post)).bind ask? = none := by
    rw [Option.bind_eq_none_iff]
    intro f hf
    obtain ⟨-, d, -, rfl, -⟩ := (gather?_eq_some_iff.mp hf).split hfield
    have hget := get?_of_gather? hfield hf
    exact (hask f f d d hget hget fun _ _ => rfl).before hd
  refine ⟨fun hsame => ?_, hnone d?, hnone d'?⟩
  cases hd : d?.bind field with
  | none => rw [hnone d? hd, hnone d'? (hsame ▸ hd)]
  | some c =>
    obtain ⟨d, rfl, hc⟩ := Option.bind_eq_some_iff.mp hd
    obtain ⟨d', rfl, hc'⟩ := Option.bind_eq_some_iff.mp (hsame ▸ hd)
    cases hf : gather? names strict (pre ++ (key, some d) :: post) with
    | none =>
      have hf' : gather? names strict (pre ++ (key, some d') :: post) = none := by
        refine Option.eq_none_iff_forall_ne_some.mpr fun f' hf' => ?_
        obtain ⟨f₁, -, f₂, -, -, -, hall⟩ := (gather?_eq_some_iff.mp hf').split hfield
        cases hf.symm.trans (gather?_eq_some_iff.mpr (hall d))
      rw [hf']
    | some f =>
      obtain ⟨f₁, _, f₂, heq, rfl, hnew, hall⟩ := (gather?_eq_some_iff.mp hf).split hfield
      cases heq
      rw [gather?_eq_some_iff.mpr (hall d')]
      refine (hask _ _ d d' (Entries.get?_append_cons hnew d) (Entries.get?_append_cons hnew d')
        fun other hother => ?_).same (hc.trans hc'.symm)
      rw [Entries.get?_append_cons_of_ne hother, Entries.get?_append_cons_of_ne hother]

end Layer

/-! ### Structures -/

open Layer

namespace InputColumn

theorem readsFields (dialect : Dialect) :
    ReadsFields fieldNames false fun ms => ofLayer? dialect (.table ms) := by
  refine ⟨_, fun f f' h => ?_, fun ms => rfl⟩
  simp only [Entries.required?, Entries.optional?, h]

end InputColumn

namespace Limits

theorem readsFields (dialect : Dialect) :
    ReadsFields fieldNames true fun ms => ofLayer? dialect (.table ms) := by
  refine ⟨_, fun f f' h => ?_, fun ms => rfl⟩
  simp only [Entries.optional?, h]

end Limits

namespace Source

theorem fileOf?_readsFields : ReadsFields ["path"] false fun ms => fileOf? (.table ms) := by
  refine ⟨_, fun f f' h => ?_, fun ms => rfl⟩
  simp only [Entries.required?, h]

theorem rowsOf?_readsFields : ReadsFields ["rows"] false fun ms => rowsOf? (.table ms) := by
  refine ⟨_, fun f f' h => ?_, fun ms => rfl⟩
  simp only [Entries.required?, h]

/-- A source whose members are these. -/
def ofMembers? (ms : List (Key × Option Document)) : Option Source :=
  (fileOf? (.table ms)).orElse fun _ => rowsOf? (.table ms)

variable {pre post ms ms' : List (Key × Option Document)}

theorem ofMembers?_perm (hperm : ms.Perm ms') : ofMembers? ms = ofMembers? ms' := by
  have hfile : fileOf? (.table ms) = fileOf? (.table ms') := fileOf?_readsFields.perm hperm
  have hrows : rowsOf? (.table ms) = rowsOf? (.table ms') := rowsOf?_readsFields.perm hperm
  rw [ofMembers?, ofMembers?, hfile, hrows]

theorem ofMembers?_pass {name : String} {d? : Option Document} (hname : name ∉ ["path", "rows"]) :
    ofMembers? (pre ++ (.name name, d?) :: post) = ofMembers? (pre ++ post) := by
  have hpath : name ∉ ["path"] := fun h => hname (List.mem_append_left ["rows"] h)
  have hrows : name ∉ ["rows"] := fun h => hname (List.mem_append_right ["path"] h)
  have hfile : fileOf? (.table (pre ++ (.name name, d?) :: post)) = fileOf? (.table (pre ++ post)) :=
    fileOf?_readsFields.pass nofun (field?_of_not_mem hpath)
  have hinline : rowsOf? (.table (pre ++ (.name name, d?) :: post)) =
      rowsOf? (.table (pre ++ post)) := rowsOf?_readsFields.pass nofun (field?_of_not_mem hrows)
  rw [ofMembers?, ofMembers?, hfile, hinline]

end Source

/-- The path of a sink whose members are these. -/
def sinkOfMembers? (ms : List (Key × Option Document)) : Option String :=
  (gather? ["path"] false ms).bind fun fields => Entries.required? fields "path" Document.asString?

theorem sinkOfMembers?_readsFields : ReadsFields ["path"] false sinkOfMembers? := by
  refine ⟨_, fun f f' h => ?_, fun ms => rfl⟩
  simp only [Entries.required?, h]

namespace Job

theorem readsFields (dialect : Dialect) :
    ReadsFields fieldNames false fun ms => ofLayer? dialect (.table ms) := by
  refine ⟨_, fun f f' h => ?_, fun ms => rfl⟩
  simp only [Entries.required?, Entries.optional?, h]

theorem readsField_transformer (dialect : Dialect) :
    ReadsField fieldNames false "transformer" TransformerConfig.ofDocument?
      fun ms => ofLayer? dialect (.table ms) := by
  refine ⟨_, fun f f' d d' hd hd' hothers => ?_, fun ms => rfl⟩
  simp only [Entries.required?, Entries.optional?, hd, hd', hothers "engine" (by decide),
    hothers "source" (by decide), hothers "sink" (by decide)]
  exact .bind_self _

theorem readsField_engine (dialect : Dialect) :
    ReadsField fieldNames false "engine"
      (Document.optional? fun d => Limits.ofLayer? dialect d.layer)
      fun ms => ofLayer? dialect (.table ms) := by
  refine ⟨_, fun f f' d d' hd hd' hothers => ?_, fun ms => rfl⟩
  simp only [Entries.required?, Entries.optional?, hd, hd', hothers "transformer" (by decide),
    hothers "source" (by decide), hothers "sink" (by decide)]
  exact .bind fun c => .bind_self _

theorem readsField_source (dialect : Dialect) :
    ReadsField fieldNames false "source" (Document.optional? Source.ofDocument?)
      fun ms => ofLayer? dialect (.table ms) := by
  refine ⟨_, fun f f' d d' hd hd' hothers => ?_, fun ms => rfl⟩
  simp only [Entries.required?, Entries.optional?, hd, hd', hothers "transformer" (by decide),
    hothers "engine" (by decide), hothers "sink" (by decide)]
  exact .bind fun c => .bind fun l => .bind_self _

theorem readsField_sink (dialect : Dialect) :
    ReadsField fieldNames false "sink" (Document.optional? sinkPath?)
      fun ms => ofLayer? dialect (.table ms) := by
  refine ⟨_, fun f f' d d' hd hd' hothers => ?_, fun ms => rfl⟩
  simp only [Entries.required?, Entries.optional?, hd, hd', hothers "transformer" (by decide),
    hothers "engine" (by decide), hothers "source" (by decide)]
  exact .bind fun c => .bind fun l => .bind fun s => .bind_self _

end Job

namespace TransformerConfig

def inputs? (d : Document) : Option (List InputColumn) :=
  d.asList?.bind fun columns => columns.mapM InputColumn.ofDocument?

theorem readsFields (kind : Kind) :
    ReadsFields (fieldNames kind) true fun ms => ofFields? kind (.table ms) := by
  refine ⟨_, fun f f' h => ?_, fun ms => rfl⟩
  cases kind <;> simp only [variantOf?, Entries.required?, Entries.optional?, h]

theorem readsField_inputs (kind : Kind) :
    ReadsField (fieldNames kind) true "inputs" inputs? fun ms => ofFields? kind (.table ms) := by
  refine ⟨_, fun f f' d d' hd hd' hothers => ?_, fun ms => rfl⟩
  have hvariant : variantOf? kind f = variantOf? kind f' := by
    cases kind <;> simp only [variantOf?, Entries.optional?, hothers "concurrent" (by decide),
      hothers "output_fields" (by decide), hothers "shape" (by decide),
      hothers "emit_returned" (by decide)]
  simp only [Entries.required?, Entries.optional?, hd, hd', hothers "code" (by decide), hvariant]
  exact .lift fun columns columns' => .bind_self _

theorem kind_of_ofFields? {kind : Kind} {l : Layer} {c : TransformerConfig}
    (h : ofFields? kind l = some c) : c.kind = kind := by
  simp only [ofFields?, Option.bind_eq_bind, Option.bind_eq_some_iff] at h
  obtain ⟨fields, -, columns, -, inputs, -, code, -, variant, hvariant, h⟩ := h
  cases h
  cases kind with
  | simple =>
    cases hvariant
    rfl
  | standard =>
    obtain ⟨concurrent, -, h⟩ := Option.bind_eq_some_iff.mp hvariant
    cases h
    rfl
  | advanced =>
    simp only [variantOf?, Option.bind_eq_bind, Option.bind_eq_some_iff] at hvariant
    obtain ⟨concurrent, -, outputFields, -, shape, -, emitReturned, -, h⟩ := hvariant
    cases h
    rfl

def isKind (m : Key × Option Document) : Bool := m.1 == .name "kind"

/-- A transformer whose members these are: its kind is taken out before the fields are gathered. -/
def ofMembers? (ms : List (Key × Option Document)) : Option TransformerConfig :=
  match ms.filter isKind with
  | [(_, kind)] => (kind.bind kindOf?).bind fun k => ofFields? k (.table (ms.filter (!isKind ·)))
  | _ => none

theorem ofDocument?_table (ds : List (Key × Document)) :
    ofDocument? (.table ds) = ofMembers? (ds.map fun (k, d) => (k, some d)) := by
  have hkind : (ds.map fun (k, d) => (k, some d)).filter isKind =
      (ds.filter (·.1 == .name "kind")).map fun (k, d) => (k, some d) := List.filter_map
  have hrest : (ds.map fun (k, d) => (k, some d)).filter (!isKind ·) =
      (ds.filter (not ∘ (·.1 == .name "kind"))).map fun (k, d) => (k, some d) := List.filter_map
  rw [ofMembers?, hkind, hrest, ofDocument?, List.partition_eq_filter_filter]
  generalize ds.filter (·.1 == .name "kind") = kinds
  rcases kinds with _ | ⟨m, _ | ⟨m', more⟩⟩ <;> rfl

variable {pre post ms ms' : List (Key × Option Document)} {c : TransformerConfig} {name : String}
  {d? : Option Document}

theorem ofMembers?_eq_some_iff : ofMembers? ms = some c ↔
    ∃ key d, ms.filter isKind = [(key, some d)] ∧ kindOf? d = some c.kind ∧
      ofFields? c.kind (.table (ms.filter (!isKind ·))) = some c := by
  constructor
  · intro h
    rw [ofMembers?] at h
    split at h
    · next key kind hkind =>
      obtain ⟨k, hk, hfields⟩ := Option.bind_eq_some_iff.mp h
      obtain ⟨d, rfl, hd⟩ := Option.bind_eq_some_iff.mp hk
      obtain rfl := kind_of_ofFields? hfields
      exact ⟨key, d, hkind, hd, hfields⟩
    · cases h
  · rintro ⟨key, d, hkind, hd, h⟩
    rw [ofMembers?, hkind]
    simp only [Option.bind_some, hd, h]

theorem ofMembers?_perm (hperm : ms.Perm ms') : ofMembers? ms = ofMembers? ms' := by
  have hsome {ms ms' : List (Key × Option Document)} (hperm : ms.Perm ms') {c : TransformerConfig}
      (h : ofMembers? ms = some c) : ofMembers? ms' = some c := by
    obtain ⟨key, d, hkind, hd, h⟩ := ofMembers?_eq_some_iff.mp h
    have hkind' := hperm.filter isKind
    rw [hkind, List.singleton_perm] at hkind'
    refine ofMembers?_eq_some_iff.mpr ⟨key, d, hkind'.symm, hd, ?_⟩
    rw [← h]
    exact ((readsFields c.kind).perm (hperm.filter _)).symm
  exact Option.ext fun c => ⟨hsome hperm, hsome hperm.symm⟩

theorem ofMembers?_middle (pre post : List (Key × Option Document)) (m : Key × Option Document) :
    ofMembers? (pre ++ m :: post) = ofMembers? (m :: (pre ++ post)) :=
  ofMembers?_perm List.perm_middle

theorem ofMembers?_cons_field (h : ofMembers? ms = some c) (hname : name ≠ "kind")
    (hnone : ofFields? c.kind (.table ((.name name, d?) :: ms.filter (!isKind ·))) = none) :
    ofMembers? ((.name name, d?) :: ms) = none := by
  obtain ⟨key, d, hkind, hd, -⟩ := ofMembers?_eq_some_iff.mp h
  have hnot : isKind (.name name, d?) = false := by simpa [isKind] using hname
  rw [ofMembers?, List.filter_cons_of_neg (by simp [hnot]), hkind,
    List.filter_cons_of_pos (by simp [hnot])]
  simp only [Option.bind_some, hd, hnone]

theorem ofMembers?_refuse (h : ofMembers? (pre ++ post) = some c)
    (hname : name ∉ "kind" :: fieldNames c.kind) :
    ofMembers? (pre ++ (.name name, d?) :: post) = none := by
  rw [List.mem_cons, not_or] at hname
  rw [ofMembers?_middle]
  exact ofMembers?_cons_field h hname.1
    ((readsFields c.kind).refuse List.mem_cons_self (field?_of_not_mem hname.2))

theorem ofMembers?_once (h : ofMembers? (pre ++ post) = some c)
    (hname : name ∈ "kind" :: fieldNames c.kind) {m : Key × Option Document}
    (hm : m ∈ pre ++ post) (hkey : m.1 = .name name) :
    ofMembers? (pre ++ (.name name, d?) :: post) = none := by
  rw [ofMembers?_middle]
  by_cases hkind : name = "kind"
  · subst hkind
    have hmem : m ∈ (pre ++ post).filter isKind := List.mem_filter.mpr ⟨hm, by simp [isKind, hkey]⟩
    obtain ⟨m', more, hms⟩ := List.exists_cons_of_ne_nil (List.ne_nil_of_mem hmem)
    rw [ofMembers?, List.filter_cons_of_pos rfl, hms]
  · have hfield := field?_of_mem (List.mem_of_ne_of_mem hkind hname)
    have hmem : m ∈ (pre ++ post).filter (!isKind ·) :=
      List.mem_filter.mpr ⟨hm, by simpa [isKind, hkey] using hkind⟩
    exact ofMembers?_cons_field h hkind
      ((readsFields c.kind).once [] _ hfield hmem (hkey ▸ hfield))

theorem ofMembers?_follows (pre post : List (Key × Option Document)) (d? d'? : Option Document) :
    Follows (d?.bind inputs?) (d'?.bind inputs?) (ofMembers? (pre ++ (.name "inputs", d?) :: post))
      (ofMembers? (pre ++ (.name "inputs", d'?) :: post)) := by
  have hkind (d? : Option Document) : (pre ++ (.name "inputs", d?) :: post).filter isKind =
      pre.filter isKind ++ post.filter isKind := by
    rw [List.filter_append, List.filter_cons_of_neg (by simp [isKind])]
  have hrest (d? : Option Document) : (pre ++ (.name "inputs", d?) :: post).filter (!isKind ·) =
      pre.filter (!isKind ·) ++ (.name "inputs", d?) :: post.filter (!isKind ·) := by
    rw [List.filter_append, List.filter_cons_of_pos (by simp [isKind])]
  rw [ofMembers?, ofMembers?, hkind, hkind, hrest, hrest]
  rcases pre.filter isKind ++ post.filter isKind with _ | ⟨m, _ | ⟨m', more⟩⟩
  · exact ⟨fun _ => rfl, fun _ => rfl, fun _ => rfl⟩
  · exact .bind fun k => (readsField_inputs k).follows
      (field?_of_mem (by cases k <;> exact List.mem_cons_self)) _ _ d? d'?
  · exact ⟨fun _ => rfl, fun _ => rfl, fun _ => rfl⟩

end TransformerConfig

/-! ### Members -/

namespace Json

/-- A member of a table: the pieces of its name, and its value. -/
abbrev Member := List Piece × Tree

def Names (key : List Piece) (name : String) : Prop := textOf? key = some name.toList

instance (key : List Piece) (name : String) : Decidable (Names key name) :=
  inferInstanceAs (Decidable (textOf? key = some name.toList))

/-- What a member says, given how its value is read. -/
def keyed? (value? : Tree → Option (Option Document)) (m : Member) :
    Option (Key × Option Document) := do
  let cs ← textOf? m.1
  return (.name (String.ofList cs), ← value? m.2)

/-- A value in the outermost table need not be readable. -/
def outermost? (t : Tree) : Option (Option Document) := some (t.document? (Tree.maxLevels - 1))

/-- A value in a table that is read as a whole. -/
def nested? (levels : Nat) (t : Tree) : Option (Option Document) := (t.document? levels).map some

variable {value? : Tree → Option (Option Document)} {levels : Nat} {key : List Piece} {name : String}
  {v : Tree} {pre post ms : List Member} {α β : Type}

theorem keyed?_of_names (h : Names key name) (v : Tree) :
    keyed? value? (key, v) = (value? v).map fun d? => (.name name, d?) := by
  have hname : textOf? key = some name.toList := h
  cases hv : value? v <;> simp [keyed?, hname, hv]

theorem layer?_table (ms : List Member) :
    (Tree.table ms).layer? = (ms.mapM (keyed? outermost?)).map .table := by
  have hkeyed : keyed? outermost? = fun m => do
      return (Key.name (String.ofList (← textOf? m.1)), m.2.document? (Tree.maxLevels - 1)) := rfl
  rw [hkeyed, Tree.layer?]
  cases (ms.mapM _ : Option (List (Key × Option Document))) <;> rfl

theorem nested?_bind (field : Document → Option α) (levels : Nat) (v : Tree) :
    (nested? levels v).bind (·.bind field) = (v.document? levels).bind field := by
  rw [nested?]
  cases v.document? levels <;> rfl

theorem layer?_bind (read? : Layer → Option α) (ms : List Member) :
    (Tree.table ms).layer?.bind read? =
      (ms.mapM (keyed? outermost?)).bind fun l => read? (.table l) := by
  rw [layer?_table]
  cases ms.mapM (keyed? outermost?) <;> rfl

theorem memberDocuments?_map (levels : Nat) (ms : List Member) :
    (Tree.memberDocuments? levels ms).map (List.map fun (k, d) => (k, some d)) =
      ms.mapM (keyed? (nested? levels)) := by
  induction ms with
  | nil => rfl
  | cons m ms ih =>
    obtain ⟨key, v⟩ := m
    rw [List.mapM_cons, ← ih, Tree.memberDocuments?]
    cases hkey : textOf? key <;> cases hv : v.document? levels <;>
      cases Tree.memberDocuments? levels ms <;> simp [keyed?, nested?, hkey, hv]

theorem document?_bind {read? : Document → Option α}
    {gathered? : List (Key × Option Document) → Option α}
    (h : ∀ ds, read? (.table ds) = gathered? (ds.map fun (k, d) => (k, some d)))
    (levels : Nat) (ms : List Member) : ((Tree.table ms).document? (levels + 1)).bind read? =
      (ms.mapM (keyed? (nested? levels))).bind gathered? := by
  rw [← memberDocuments?_map, Tree.document?, if_neg (by omega), Nat.add_sub_cancel]
  cases Tree.memberDocuments? levels ms with
  | none => rfl
  | some ds => exact h ds

section Members

variable {gathered? : List (Key × Option Document) → Option α} {ms' : List Member}

theorem keyed?_perm (h : ∀ {l l'}, l.Perm l' → gathered? l = gathered? l') (hperm : ms.Perm ms') :
    (ms.mapM (keyed? value?)).bind gathered? = (ms'.mapM (keyed? value?)).bind gathered? := by
  cases hms : ms.mapM (keyed? value?) with
  | some l =>
    obtain ⟨l', hms', hl⟩ := mapM_perm hperm hms
    rw [hms']
    exact h hl
  | none =>
    have hms' : ms'.mapM (keyed? value?) = none :=
      Option.eq_none_iff_forall_ne_some.mpr fun l' hl' => by
        obtain ⟨l, hl, -⟩ := mapM_perm hperm.symm hl'
        cases hms.symm.trans hl
    rw [hms']

theorem keyed?_pass (h : ∀ {l l' d?}, gathered? (l ++ (.name name, d?) :: l') = gathered? (l ++ l'))
    (hkey : Names key name) (hv : (value? v).isSome) :
    ((pre ++ (key, v) :: post).mapM (keyed? value?)).bind gathered? =
      ((pre ++ post).mapM (keyed? value?)).bind gathered? := by
  obtain ⟨d?, hd⟩ := Option.isSome_iff_exists.mp hv
  rw [mapM_append_cons, List.mapM_append, keyed?_of_names hkey, hd]
  cases pre.mapM (keyed? value?) with
  | none => rfl
  | some l =>
    cases post.mapM (keyed? value?) with
    | none => rfl
    | some l' => exact h

theorem keyed?_refuse
    (h : ∀ {l l' d?}, (pre ++ post).mapM (keyed? value?) = some (l ++ l') →
      gathered? (l ++ (.name name, d?) :: l') = none)
    (hkey : Names key name) (v : Tree) :
    ((pre ++ (key, v) :: post).mapM (keyed? value?)).bind gathered? = none := by
  rw [List.mapM_append] at h
  rw [mapM_append_cons, keyed?_of_names hkey]
  cases hpre : pre.mapM (keyed? value?) with
  | none => rfl
  | some l =>
    cases value? v with
    | none => rfl
    | some d? =>
      cases hpost : post.mapM (keyed? value?) with
      | none => rfl
      | some l' => exact h (by rw [hpre, hpost]; rfl)

theorem keyed?_unnamed (hkey : textOf? key = none) (v : Tree) :
    ((pre ++ (key, v) :: post).mapM (keyed? value?)).bind gathered? = none := by
  have hnone : keyed? value? (key, v) = none := by rw [keyed?, hkey]; rfl
  rw [mapM_append_cons, hnone]
  cases pre.mapM (keyed? value?) <;> rfl

theorem keyed?_follows {field : Document → Option β} (hkey : Names key name)
    (h : ∀ l l' d? d'?, Follows (d?.bind field) (d'?.bind field)
      (gathered? (l ++ (.name name, d?) :: l')) (gathered? (l ++ (.name name, d'?) :: l')))
    (pre post : List Member) (v v' : Tree) :
    Follows ((value? v).bind (·.bind field)) ((value? v').bind (·.bind field))
      (((pre ++ (key, v) :: post).mapM (keyed? value?)).bind gathered?)
      (((pre ++ (key, v') :: post).mapM (keyed? value?)).bind gathered?) := by
  simp only [mapM_append_cons, keyed?_of_names hkey, Option.bind_assoc, Option.bind_map,
    Function.comp_def]
  exact .bind fun l => .lift fun d? d'? => .bind fun l' => h l l' d? d'?

end Members

end Json

/-! ### Parts -/

/-- An object of a job. -/
inductive Part
  | job
  | transformer
  | engine
  | column
  | source
  | sink
  deriving DecidableEq

namespace Part

/-- What is read of a part. -/
def Content : Part → Type
  | job => Job
  | transformer => TransformerConfig
  | engine => Limits
  | column => InputColumn
  | source => Source
  | sink => String

/-- The fields of a part in a job with a transformer of that kind. -/
def fieldNames (kind : Kind) : Part → List String
  | job => Job.fieldNames
  | transformer => "kind" :: TransformerConfig.fieldNames kind
  | engine => Limits.fieldNames
  | column => InputColumn.fieldNames
  | source => ["path", "rows"]
  | sink => ["path"]

/-- How many lists and tables the members of a part are in. -/
def depth : Part → Nat
  | job => 1
  | transformer | engine | source | sink => 2
  | column => 4

/-- How the reader reads a part. -/
def read : (part : Part) → Tree → Option part.Content
  | job, t => t.layer?.bind (Job.ofLayer? .json)
  | transformer, t => (t.document? (Tree.maxLevels - 1)).bind TransformerConfig.ofDocument?
  | engine, t => (t.document? (Tree.maxLevels - 1)).bind fun d => Limits.ofLayer? .json d.layer
  | column, t => (t.document? (Tree.maxLevels - 3)).bind InputColumn.ofDocument?
  | source, t => (t.document? (Tree.maxLevels - 1)).bind Source.ofDocument?
  | sink, t => (t.document? (Tree.maxLevels - 1)).bind sinkPath?

/-- How the value of a member of a part is read. -/
def value? : Part → Tree → Option (Option Document)
  | job => outermost?
  | part => nested? (Tree.maxLevels - part.depth)

/-- What a part with these members is. -/
def gathered? : (part : Part) → List (Key × Option Document) → Option part.Content
  | job, ms => Job.ofLayer? .json (.table ms)
  | transformer, ms => TransformerConfig.ofMembers? ms
  | engine, ms => Limits.ofLayer? .json (.table ms)
  | column, ms => InputColumn.ofLayer? .nested (.table ms)
  | source, ms => Source.ofMembers? ms
  | sink, ms => sinkOfMembers? ms

theorem read_table (part : Part) (ms : List Member) :
    part.read (.table ms) = (ms.mapM (keyed? part.value?)).bind part.gathered? := by
  cases part with
  | job => exact layer?_bind _ ms
  | transformer => exact document?_bind TransformerConfig.ofDocument?_table _ ms
  | engine => exact document?_bind (fun ds => rfl) _ ms
  | column => exact document?_bind (fun ds => rfl) _ ms
  | source => exact document?_bind (fun ds => rfl) _ ms
  | sink => exact document?_bind (fun ds => rfl) _ ms

/-- Parts that pass over members they do not know. -/
def Lenient (part : Part) : Prop := part = job ∨ part = column ∨ part = source ∨ part = sink

/-- Parts in which no field can be repeated. -/
def Single (part : Part) : Prop :=
  part = job ∨ part = transformer ∨ part = engine ∨ part = column

/-- A part is of a kind if it is no transformer of another kind. -/
def OfKind (kind : Kind) : (part : Part) → part.Content → Prop
  | transformer, c => TransformerConfig.kind c = kind
  | _, _ => True

variable {part : Part} {kind : Kind} {name : String} {ms ms' pre post : List (Key × Option Document)}
  {d? : Option Document} {c : part.Content}

theorem gathered?_perm (hperm : ms.Perm ms') : part.gathered? ms = part.gathered? ms' := by
  cases part with
  | job => exact (Job.readsFields _).perm hperm
  | transformer => exact TransformerConfig.ofMembers?_perm hperm
  | engine => exact (Limits.readsFields _).perm hperm
  | column => exact (InputColumn.readsFields _).perm hperm
  | source => exact Source.ofMembers?_perm hperm
  | sink => exact sinkOfMembers?_readsFields.perm hperm

theorem gathered?_pass (hpart : part.Lenient) (hname : name ∉ part.fieldNames kind) :
    part.gathered? (pre ++ (.name name, d?) :: post) = part.gathered? (pre ++ post) := by
  rcases hpart with rfl | rfl | rfl | rfl
  · exact (Job.readsFields _).pass nofun (field?_of_not_mem hname)
  · exact (InputColumn.readsFields _).pass nofun (field?_of_not_mem hname)
  · exact Source.ofMembers?_pass hname
  · exact sinkOfMembers?_readsFields.pass nofun (field?_of_not_mem hname)

theorem gathered?_refuse (hpart : ¬ part.Lenient) (h : part.gathered? (pre ++ post) = some c)
    (hkind : part.OfKind kind c) (hname : name ∉ part.fieldNames kind) :
    part.gathered? (pre ++ (.name name, d?) :: post) = none := by
  cases part with
  | transformer =>
    obtain rfl := hkind
    exact TransformerConfig.ofMembers?_refuse h hname
  | engine =>
    have hm : (.name name, d?) ∈ pre ++ (.name name, d?) :: post := by simp
    exact (Limits.readsFields _).refuse hm (field?_of_not_mem hname)
  | job | column | source | sink => exact absurd (by simp [Lenient]) hpart

theorem gathered?_once (hpart : part.Single) (h : part.gathered? (pre ++ post) = some c)
    (hkind : part.OfKind kind c) (hname : name ∈ part.fieldNames kind)
    {m : Key × Option Document} (hm : m ∈ pre ++ post) (hkey : m.1 = .name name) :
    part.gathered? (pre ++ (.name name, d?) :: post) = none := by
  rcases hpart with rfl | rfl | rfl | rfl
  · have hfield := field?_of_mem hname
    exact (Job.readsFields _).once pre post hfield hm (hkey ▸ hfield)
  · obtain rfl := hkind
    exact TransformerConfig.ofMembers?_once h hname hm hkey
  · have hfield := field?_of_mem hname
    exact (Limits.readsFields _).once pre post hfield hm (hkey ▸ hfield)
  · have hfield := field?_of_mem hname
    exact (InputColumn.readsFields _).once pre post hfield hm (hkey ▸ hfield)

section Read

variable {ms ms' pre post : List Member} {key : List Piece} {v : Tree}

theorem read_perm (part : Part) (hperm : ms.Perm ms') :
    part.read (.table ms) = part.read (.table ms') := by
  rw [read_table, read_table]
  exact keyed?_perm gathered?_perm hperm

theorem read_pass (hpart : part.Lenient) (hkey : Names key name) (hname : name ∉ part.fieldNames kind)
    (hv : (part.value? v).isSome) :
    part.read (.table (pre ++ (key, v) :: post)) = part.read (.table (pre ++ post)) := by
  rw [read_table, read_table]
  exact keyed?_pass (gathered?_pass hpart hname) hkey hv

theorem read_refuse (hpart : ¬ part.Lenient) (h : part.read (.table (pre ++ post)) = some c)
    (hkind : part.OfKind kind c) (hkey : ∀ name ∈ part.fieldNames kind, ¬ Names key name)
    (v : Tree) : part.read (.table (pre ++ (key, v) :: post)) = none := by
  rw [read_table] at h ⊢
  obtain ⟨l, hl, hc⟩ := Option.bind_eq_some_iff.mp h
  cases hcs : textOf? key with
  | none => exact keyed?_unnamed hcs v
  | some cs =>
    have hnames : Names key (String.ofList cs) := by rw [Names, hcs, String.toList_ofList]
    refine keyed?_refuse (fun {l₁ l₂ _} hms => ?_) hnames v
    cases hl.symm.trans hms
    exact gathered?_refuse hpart hc hkind fun hmem => hkey _ hmem hnames

theorem read_once (hpart : part.Single) (h : part.read (.table (pre ++ post)) = some c)
    (hkind : part.OfKind kind c) (hname : name ∈ part.fieldNames kind) (hkey : Names key name)
    {m : Member} (hm : m ∈ pre ++ post) (hmkey : Names m.1 name) (v : Tree) :
    part.read (.table (pre ++ (key, v) :: post)) = none := by
  rw [read_table] at h ⊢
  obtain ⟨l, hl, hc⟩ := Option.bind_eq_some_iff.mp h
  refine keyed?_refuse (fun {l₁ l₂ _} hms => ?_) hkey v
  cases hl.symm.trans hms
  obtain ⟨hall, hlist⟩ := mapM_eq_some_iff.mp hms
  obtain ⟨e, he⟩ := Option.isSome_iff_exists.mp (hall m hm)
  have hmem : e ∈ l₁ ++ l₂ := hlist ▸ List.mem_filterMap.mpr ⟨m, hm, he⟩
  have hekey : e.1 = .name name := by
    rw [keyed?_of_names hmkey] at he
    obtain ⟨d?, -, rfl⟩ := Option.map_eq_some_iff.mp he
    rfl
  exact gathered?_once hpart hc hkind hname hmem hekey

end Read

end Part

/-! ### The job follows its parts -/

section Whole

variable {key : List Piece} {name : String} {α : Type}

theorem job_follows {field : Document → Option α}
    (h : ReadsField Job.fieldNames false name field fun ms => Job.ofLayer? .json (.table ms))
    (hname : name ∈ Job.fieldNames) (hkey : Names key name) (pre post : List Member) (v v' : Tree) :
    Follows ((v.document? (Tree.maxLevels - 1)).bind field)
      ((v'.document? (Tree.maxLevels - 1)).bind field)
      (Part.job.read (.table (pre ++ (key, v) :: post)))
      (Part.job.read (.table (pre ++ (key, v') :: post))) := by
  rw [Part.read_table, Part.read_table]
  show Follows ((Part.job.value? v).bind (·.bind field)) ((Part.job.value? v').bind (·.bind field)) _ _
  exact keyed?_follows hkey (fun l l' => h.follows (field?_of_mem hname) l l') pre post v v'

theorem optional?_table (read? : Document → Option α) (levels : Nat) (ms : List Member) :
    ((Tree.table ms).document? levels).bind (Document.optional? read?) =
      (((Tree.table ms).document? levels).bind read?).bind fun a => some (some a) := by
  cases hd : (Tree.table ms).document? levels with
  | none => rfl
  | some d =>
    rw [Tree.document?] at hd
    split at hd
    · cases hd
    · obtain ⟨ds, -, rfl⟩ := Option.map_eq_some_iff.mp hd
      rw [Option.bind_some, Option.bind_some, Document.optional?]
      · cases read? (.table ds) <;> rfl
      · nofun

theorem job_follows_optional {read? : Document → Option α}
    (h : ReadsField Job.fieldNames false name (Document.optional? read?)
      fun ms => Job.ofLayer? .json (.table ms))
    (hname : name ∈ Job.fieldNames) (hkey : Names key name) (pre post ms ms' : List Member) :
    Follows (((Tree.table ms).document? (Tree.maxLevels - 1)).bind read?)
      (((Tree.table ms').document? (Tree.maxLevels - 1)).bind read?)
      (Part.job.read (.table (pre ++ (key, .table ms) :: post)))
      (Part.job.read (.table (pre ++ (key, .table ms') :: post))) := by
  have hjob := job_follows h hname hkey pre post (.table ms) (.table ms')
  rw [optional?_table, optional?_table] at hjob
  exact (Follows.bind_self _).trans hjob

/-- Where a part stands in a job. -/
def Part.member? : Part → Option String
  | transformer => some "transformer"
  | engine => some "engine"
  | source => some "source"
  | sink => some "sink"
  | job | column => none

theorem follows_member (part : Part) (hpart : part.member? = some name) (hkey : Names key name)
    (pre post ms ms' : List Member) :
    Follows (part.read (.table ms)) (part.read (.table ms'))
      (Part.job.read (.table (pre ++ (key, .table ms) :: post)))
      (Part.job.read (.table (pre ++ (key, .table ms') :: post))) := by
  cases part with
  | job | column => cases hpart
  | transformer =>
    cases hpart
    exact job_follows (Job.readsField_transformer _) (by decide) hkey pre post _ _
  | engine =>
    cases hpart
    exact job_follows_optional (Job.readsField_engine _) (by decide) hkey pre post ms ms'
  | source =>
    cases hpart
    exact job_follows_optional (Job.readsField_source _) (by decide) hkey pre post ms ms'
  | sink =>
    cases hpart
    exact job_follows_optional (Job.readsField_sink _) (by decide) hkey pre post ms ms'

theorem transformer_of_read {job : Job} {pre post : List Member} {v : Tree}
    (hkey : Names key "transformer")
    (h : Part.job.read (.table (pre ++ (key, v) :: post)) = some job) :
    Part.transformer.read v = some job.transformer := by
  rw [Part.read_table, mapM_append_cons, keyed?_of_names hkey] at h
  obtain ⟨l, hl, h⟩ := Option.bind_eq_some_iff.mp h
  obtain ⟨before, -, hl⟩ := Option.bind_eq_some_iff.mp hl
  obtain ⟨behind, -, rfl⟩ := Option.map_eq_some_iff.mp hl
  obtain ⟨fields, hfields, h⟩ := Option.bind_eq_some_iff.mp h
  obtain ⟨c, hc, h⟩ := Option.bind_eq_some_iff.mp h
  have hget : fields.get? "transformer" = v.document? (Tree.maxLevels - 1) :=
    get?_of_gather? (field?_of_mem List.mem_cons_self) hfields
  simp only [Option.bind_eq_bind, Option.bind_eq_some_iff] at h
  obtain ⟨limits, -, source, -, sink, -, h⟩ := h
  cases h
  rwa [Entries.required?, hget] at hc

theorem itemDocuments?_bind (levels : Nat) (items : List Tree) :
    (Tree.itemDocuments? levels items).bind (·.mapM InputColumn.ofDocument?) =
      items.mapM fun t => (t.document? levels).bind InputColumn.ofDocument? := by
  induction items with
  | nil => rfl
  | cons t items ih =>
    rw [List.mapM_cons, ← ih, Tree.itemDocuments?]
    cases t.document? levels with
    | none => rfl
    | some d =>
      cases Tree.itemDocuments? levels items with
      | none => cases hd : InputColumn.ofDocument? d <;> simp [hd]
      | some ds => simp

theorem inputs_follow (items items' : List Tree) (t t' : Tree) :
    Follows (Part.column.read t) (Part.column.read t')
      (((Tree.list (items ++ t :: items')).document? (Tree.maxLevels - 2)).bind
        TransformerConfig.inputs?)
      (((Tree.list (items ++ t' :: items')).document? (Tree.maxLevels - 2)).bind
        TransformerConfig.inputs?) := by
  have hlist (items : List Tree) :
      ((Tree.list items).document? (Tree.maxLevels - 2)).bind TransformerConfig.inputs? =
        items.mapM Part.column.read := by
    refine Eq.trans ?_ (itemDocuments?_bind (Tree.maxLevels - 3) items)
    show ((Tree.itemDocuments? (Tree.maxLevels - 3) items).map Document.list).bind _ = _
    cases Tree.itemDocuments? (Tree.maxLevels - 3) items <;> rfl
  rw [hlist, hlist, mapM_append_cons, mapM_append_cons]
  exact .bind fun before => .bind_self _

theorem follows_column {tkey ikey : List Piece} (htkey : Names tkey "transformer")
    (hikey : Names ikey "inputs") (pre post tpre tpost : List Member) (items items' : List Tree)
    (t t' : Tree) : Follows (Part.column.read t) (Part.column.read t')
      (Part.job.read (.table (pre ++
        (tkey, .table (tpre ++ (ikey, .list (items ++ t :: items')) :: tpost)) :: post)))
      (Part.job.read (.table (pre ++
        (tkey, .table (tpre ++ (ikey, .list (items ++ t' :: items')) :: tpost)) :: post))) := by
  refine .trans ?_ (follows_member .transformer rfl htkey pre post _ _)
  refine (inputs_follow items items' t t').trans ?_
  rw [Part.read_table, Part.read_table, ← nested?_bind, ← nested?_bind]
  exact keyed?_follows hikey TransformerConfig.ofMembers?_follows tpre tpost _ _

end Whole

end RowScript
