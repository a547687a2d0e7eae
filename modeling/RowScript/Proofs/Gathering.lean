import RowScript.Document
import RowScript.Proofs.Ascending

/-!
# Fields gathered from the members of a table

What `Layer.gather?` finds in a table, told by `Gathers`: all names are names of fields, or may be passed
over, and every field that occurs is there once and can be read (`gather?_eq_some_iff`). Nothing there
speaks of the order of the members, so it does not matter for a structure that asks for its fields by
name (`ReadsFields.perm`). A member of another name does not matter either, unless the structure is strict
(`ReadsFields.pass`, `ReadsFields.refuse`), and no field can stand there twice (`ReadsFields.once`).
-/

namespace RowScript

variable {α β : Type}

/-! ### Lists whose items can be read -/

theorem mapM_eq_some_iff {f : α → Option β} {as : List α} {bs : List β} :
    as.mapM f = some bs ↔ (∀ a ∈ as, (f a).isSome) ∧ as.filterMap f = bs := by
  induction as generalizing bs with
  | nil => simp
  | cons a as ih =>
    rw [List.mapM_cons, List.forall_mem_cons]
    cases ha : f a with
    | none => simp
    | some b =>
      rw [List.filterMap_cons_some ha]
      constructor
      · intro h
        obtain ⟨bs', hread, hbs⟩ : ∃ bs', as.mapM f = some bs' ∧ b :: bs' = bs := by
          simpa [Option.bind_eq_some_iff] using h
        subst hbs
        obtain ⟨hall, rfl⟩ := ih.mp hread
        exact ⟨⟨rfl, hall⟩, rfl⟩
      · rintro ⟨⟨-, hall⟩, rfl⟩
        rw [ih.mpr ⟨hall, rfl⟩]
        rfl

/-- Items that can be read can be read in any order. -/
theorem mapM_perm {f : α → Option β} {as as' : List α} {bs : List β} (hperm : as.Perm as')
    (h : as.mapM f = some bs) : ∃ bs', as'.mapM f = some bs' ∧ bs.Perm bs' := by
  obtain ⟨hall, rfl⟩ := mapM_eq_some_iff.mp h
  exact ⟨_, mapM_eq_some_iff.mpr ⟨fun a ha => hall a (hperm.mem_iff.mpr ha), rfl⟩,
    hperm.filterMap f⟩

theorem mapM_append_cons {f : α → Option β} (as as' : List α) (a : α) :
    (as ++ a :: as').mapM f =
      (as.mapM f).bind fun bs => (f a).bind fun b => (as'.mapM f).map (bs ++ b :: ·) := by
  rw [List.mapM_append, List.mapM_cons]
  cases f a <;> cases as'.mapM f <;> rfl

namespace Entries

theorem contains_eq (m : Entries α) (name : String) : m.contains name = decide (name ∈ m.keys) := by
  by_cases h : name ∈ m.keys
  · obtain ⟨e, he, rfl⟩ := List.mem_map.mp h
    rw [decide_eq_true h]
    exact List.any_eq_true.mpr ⟨e, he, beq_self_eq_true _⟩
  · rw [decide_eq_false h]
    exact contains_of_not_mem h

theorem get?_append_cons {m n : Entries α} {name : String} (h : name ∉ m.keys) (v : α) :
    get? (m ++ (name, v) :: n) name = some v := by
  induction m with
  | nil => simp [get?_cons]
  | cons e m ih =>
    rw [keys_cons, List.mem_cons, not_or] at h
    rw [List.cons_append, get?_cons, if_neg h.1, ih h.2]

theorem get?_append_cons_of_ne {m n : Entries α} {name other : String} (h : other ≠ name) (v : α) :
    get? (m ++ (name, v) :: n) other = get? (m ++ n) other := by
  induction m with
  | nil => rw [List.nil_append, get?_cons, if_neg h, List.nil_append]
  | cons e m ih => rw [List.cons_append, List.cons_append, get?_cons, get?_cons, ih]

end Entries

namespace Layer

variable {names : List String} {strict : Bool} {pre post ms ms' : List (Key × Option Document)}
  {f : Entries Document} {key : Key} {name : String} {d? : Option Document}

theorem field?_of_mem (h : name ∈ names) : field? names (.name name) = some name := by
  rw [field?]
  cases hfind : names.find? (· == name) with
  | some s => rw [eq_of_beq (List.find?_some (p := (· == name)) hfind)]
  | none => exact absurd (beq_self_eq_true name) (List.find?_eq_none.mp hfind name h)

theorem field?_of_not_mem (h : name ∉ names) : field? names (.name name) = none := by
  rw [field?, List.find?_eq_none]
  intro s hs heq
  exact h (eq_of_beq heq ▸ hs)

/-! ### What is gathered -/

/-- The members of a table that are fields. -/
def known (names : List String) (ms : List (Key × Option Document)) :
    List (String × Option Document) :=
  ms.filterMap fun m => (field? names m.1).map (·, m.2)

/-- `f` are the fields in a table. -/
structure Gathers (names : List String) (strict : Bool) (ms : List (Key × Option Document))
    (f : Entries Document) : Prop where
  /-- A member is passed over only if it has a name and nothing is strict. -/
  named : ∀ m ∈ ms, m.1 ≠ .other ∧ (strict = true → (field? names m.1).isSome)
  found : known names ms = f.map fun e => (e.1, some e.2)
  distinct : f.Distinct

theorem known_cons_of_field (h : field? names key = some name) (d? : Option Document)
    (ms : List (Key × Option Document)) :
    known names ((key, d?) :: ms) = (name, d?) :: known names ms :=
  List.filterMap_cons_some (by rw [h]; rfl)

theorem known_cons_of_none (h : field? names key = none) (d? : Option Document)
    (ms : List (Key × Option Document)) : known names ((key, d?) :: ms) = known names ms :=
  List.filterMap_cons_none (by rw [h]; rfl)

theorem known_append : known names (pre ++ post) = known names pre ++ known names post :=
  List.filterMap_append

theorem gather?_cons_of_field (h : field? names key = some name) (d? : Option Document)
    (ms : List (Key × Option Document)) : gather? names strict ((key, d?) :: ms) =
      (gather? names strict ms).bind fun found =>
        if found.contains name then none else d?.map fun d => (name, d) :: found := by
  rw [gather?, h]
  · cases gather? names strict ms with
    | none => rfl
    | some found => cases d? <;> rfl
  · rintro rfl
    cases h

theorem gather?_cons_of_none (hkey : key ≠ .other) (h : field? names key = none)
    (d? : Option Document) (ms : List (Key × Option Document)) :
    gather? names strict ((key, d?) :: ms) = if strict then none else gather? names strict ms := by
  rw [gather?, h]
  exact hkey

theorem gathers_cons_of_field (h : field? names key = some name) :
    Gathers names strict ((key, d?) :: ms) f ↔
      ∃ d found, d? = some d ∧ f = (name, d) :: found ∧ name ∉ Entries.keys found ∧
        Gathers names strict ms found := by
  constructor
  · rintro ⟨hnamed, hfound, hdistinct⟩
    rw [known_cons_of_field h] at hfound
    cases f with
    | nil => cases hfound
    | cons e found =>
      rw [List.map_cons, List.cons.injEq, Prod.mk.injEq] at hfound
      obtain ⟨⟨rfl, hd⟩, hfound⟩ := hfound
      obtain ⟨hnew, hdistinct⟩ := List.nodup_cons.mp hdistinct
      exact ⟨e.2, found, hd, rfl, hnew, fun m hm => hnamed m (List.mem_cons_of_mem _ hm), hfound,
        hdistinct⟩
  · rintro ⟨d, found, rfl, rfl, hnew, hnamed, hfound, hdistinct⟩
    refine ⟨List.forall_mem_cons.mpr ⟨⟨?_, fun _ => by simp [h]⟩, hnamed⟩, ?_,
      List.nodup_cons.mpr ⟨hnew, hdistinct⟩⟩
    · rintro rfl
      cases h
    · rw [known_cons_of_field h, hfound, List.map_cons]

theorem gathers_cons_of_none (hkey : key ≠ .other) (h : field? names key = none) :
    Gathers names strict ((key, d?) :: ms) f ↔ strict = false ∧ Gathers names strict ms f := by
  constructor
  · rintro ⟨hnamed, hfound, hdistinct⟩
    obtain ⟨hfirst, hnamed⟩ := List.forall_mem_cons.mp hnamed
    rw [known_cons_of_none h] at hfound
    refine ⟨Bool.eq_false_iff.mpr fun hstrict => ?_, hnamed, hfound, hdistinct⟩
    simpa [h] using hfirst.2 hstrict
  · rintro ⟨rfl, hnamed, hfound, hdistinct⟩
    exact ⟨List.forall_mem_cons.mpr ⟨⟨hkey, nofun⟩, hnamed⟩, by rwa [known_cons_of_none h], hdistinct⟩

theorem gather?_eq_some_iff : gather? names strict ms = some f ↔ Gathers names strict ms f := by
  induction ms generalizing f with
  | nil =>
    constructor
    · rintro ⟨⟩
      exact ⟨nofun, rfl, List.nodup_nil⟩
    · rintro ⟨-, hfound, -⟩
      cases f with
      | nil => rfl
      | cons e f => cases hfound
  | cons m ms ih =>
    obtain ⟨key, d?⟩ := m
    cases hfield : field? names key with
    | some name =>
      rw [gather?_cons_of_field hfield, gathers_cons_of_field hfield, Option.bind_eq_some_iff]
      constructor
      · rintro ⟨found, hfound, h⟩
        rw [Entries.contains_eq] at h
        split at h
        · cases h
        · next hnew =>
          obtain ⟨d, rfl, rfl⟩ := Option.map_eq_some_iff.mp h
          exact ⟨d, found, rfl, rfl, by simpa using hnew, ih.mp hfound⟩
      · rintro ⟨d, found, rfl, rfl, hnew, hfound⟩
        exact ⟨found, ih.mpr hfound, by simp [Entries.contains_eq, hnew]⟩
    | none =>
      by_cases hkey : key = .other
      · subst hkey
        refine ⟨fun h => ?_, fun h => ?_⟩
        · cases h
        · exact absurd rfl (h.named _ List.mem_cons_self).1
      · rw [gather?_cons_of_none hkey hfield, gathers_cons_of_none hkey hfield]
        cases strict <;> simp [ih]

/-! ### Other members -/

/-- All that can be read among members. -/
def readable (ms : List (String × Option Document)) : Entries Document :=
  ms.filterMap fun m => m.2.map (m.1, ·)

theorem readable_map (f : Entries Document) :
    readable (f.map fun e => (e.1, some e.2)) = f := by
  rw [readable, List.filterMap_map]
  exact List.filterMap_some

theorem map_readable {ms : List (String × Option Document)} (h : ∀ m ∈ ms, m.2.isSome) :
    (readable ms).map (fun e => (e.1, some e.2)) = ms := by
  induction ms with
  | nil => rfl
  | cons m ms ih =>
    obtain ⟨hm, hms⟩ := List.forall_mem_cons.mp h
    obtain ⟨d, hd⟩ := Option.isSome_iff_exists.mp hm
    rw [readable, List.filterMap_cons_some (by rw [hd]; rfl), List.map_cons, ← readable, ih hms, ← hd]

theorem Gathers.perm (h : Gathers names strict ms f) (hperm : ms.Perm ms') :
    ∃ f', Gathers names strict ms' f' ∧ f.Perm f' := by
  have hknown : (known names ms).Perm (known names ms') := hperm.filterMap _
  have hf : (readable (known names ms)).Perm (readable (known names ms')) := hknown.filterMap _
  rw [h.found, readable_map] at hf
  refine ⟨_, ⟨fun m hm => h.named m (hperm.mem_iff.mpr hm), ?_, h.distinct.perm hf⟩, hf⟩
  refine (map_readable fun m hm => ?_).symm
  rw [← hknown.mem_iff, h.found] at hm
  obtain ⟨e, -, rfl⟩ := List.mem_map.mp hm
  rfl

theorem gathers_pass (hkey : key ≠ .other) (h : field? names key = none) :
    Gathers names false (pre ++ (key, d?) :: post) f ↔ Gathers names false (pre ++ post) f := by
  have hperm : (pre ++ (key, d?) :: post).Perm ((key, d?) :: (pre ++ post)) := List.perm_middle
  have hknown : known names (pre ++ (key, d?) :: post) = known names (pre ++ post) := by
    rw [known_append, known_append, known_cons_of_none h]
  constructor
  · rintro ⟨hnamed, hfound, hdistinct⟩
    exact ⟨fun m hm => hnamed m (hperm.mem_iff.mpr (List.mem_cons_of_mem _ hm)), hknown ▸ hfound,
      hdistinct⟩
  · rintro ⟨hnamed, hfound, hdistinct⟩
    refine ⟨fun m hm => ?_, hknown ▸ hfound, hdistinct⟩
    rcases List.mem_cons.mp (hperm.mem_iff.mp hm) with rfl | hm
    · exact ⟨hkey, nofun⟩
    · exact hnamed m hm

theorem not_gathers_of_none {m : Key × Option Document} (hm : m ∈ ms) (h : field? names m.1 = none) :
    ¬ Gathers names true ms f := by
  intro hf
  simpa [h] using (hf.named m hm).2 rfl

theorem not_gathers_twice (h : field? names key = some name) {m : Key × Option Document}
    (hm : m ∈ pre ++ post) (hname : field? names m.1 = some name) :
    ¬ Gathers names strict (pre ++ (key, d?) :: post) f := by
  intro hf
  have hperm : (pre ++ (key, d?) :: post).Perm ((key, d?) :: (pre ++ post)) := List.perm_middle
  obtain ⟨f', hf', -⟩ := hf.perm hperm
  obtain ⟨d, found, -, -, hnew, hfound⟩ := (gathers_cons_of_field h).mp hf'
  have hmem : (name, m.2) ∈ known names (pre ++ post) :=
    List.mem_filterMap.mpr ⟨m, hm, by rw [hname]; rfl⟩
  rw [hfound.found] at hmem
  obtain ⟨e, he, heq⟩ := List.mem_map.mp hmem
  exact hnew (List.mem_map.mpr ⟨e, he, congrArg Prod.fst heq⟩)

/-! ### One field -/

theorem Gathers.split (h : field? names key = some name)
    (hf : Gathers names strict (pre ++ (key, d?) :: post) f) :
    ∃ f₁ d f₂, d? = some d ∧ f = f₁ ++ (name, d) :: f₂ ∧ name ∉ Entries.keys f₁ ∧
      ∀ d', Gathers names strict (pre ++ (key, some d') :: post) (f₁ ++ (name, d') :: f₂) := by
  obtain ⟨hnamed, hfound, hdistinct⟩ := hf
  rw [known_append, known_cons_of_field h] at hfound
  obtain ⟨f₁, f', rfl, hpre, hf'⟩ := List.map_eq_append_iff.mp hfound.symm
  obtain ⟨⟨name', d⟩, f₂, rfl, hd, hpost⟩ := List.map_eq_cons_iff.mp hf'
  rw [Prod.mk.injEq] at hd
  obtain ⟨rfl, rfl⟩ := hd
  have hkeys (d' : Document) : Entries.keys (f₁ ++ (name', d') :: f₂) =
      Entries.keys f₁ ++ name' :: Entries.keys f₂ := by
    simp [Entries.keys]
  have hnodup : (Entries.keys f₁ ++ name' :: Entries.keys f₂).Nodup := hkeys d ▸ hdistinct
  have hnew : name' ∉ Entries.keys f₁ := fun hmem =>
    (List.nodup_append.mp hnodup).2.2 name' hmem name' List.mem_cons_self rfl
  refine ⟨f₁, d, f₂, rfl, rfl, hnew, fun d' => ⟨fun m hm => ?_, ?_, ?_⟩⟩
  · rcases List.mem_append.mp hm with hm | hm
    · exact hnamed m (List.mem_append_left _ hm)
    · rcases List.mem_cons.mp hm with rfl | hm
      · exact hnamed (key, some d) (by simp)
      · exact hnamed m (List.mem_append_right _ (List.mem_cons_of_mem _ hm))
  · rw [known_append, known_cons_of_field h, List.map_append, List.map_cons, hpre, hpost]
  · rw [Entries.Distinct, hkeys]
    exact hnodup

/-! ### Structures -/

/-- A structure that gathers its fields and asks for them by name. -/
def ReadsFields (names : List String) (strict : Bool)
    (read? : List (Key × Option Document) → Option α) : Prop :=
  ∃ ask? : Entries Document → Option α,
    (∀ f f', (∀ name, f.get? name = f'.get? name) → ask? f = ask? f') ∧
    ∀ ms, read? ms = (gather? names strict ms).bind ask?

namespace ReadsFields

variable {read? : List (Key × Option Document) → Option α}

theorem eq_none (h : ReadsFields names strict read?) (hnone : ∀ f, ¬ Gathers names strict ms f) :
    read? ms = none := by
  obtain ⟨ask?, -, hread⟩ := h
  rw [hread, Option.bind_eq_none_iff]
  exact fun f hf => absurd (gather?_eq_some_iff.mp hf) (hnone f)

theorem perm (h : ReadsFields names strict read?) (hperm : ms.Perm ms') : read? ms = read? ms' := by
  obtain ⟨ask?, hask, hread⟩ := id h
  cases hms : gather? names strict ms with
  | some f =>
    have hf := gather?_eq_some_iff.mp hms
    obtain ⟨f', hf', hff'⟩ := hf.perm hperm
    rw [hread, hread, hms, gather?_eq_some_iff.mpr hf']
    exact hask f f' (hf.distinct.get?_perm hff')
  | none =>
    have hnone : ∀ f, ¬ Gathers names strict ms' f := fun f hf => by
      obtain ⟨f', hf', -⟩ := hf.perm hperm.symm
      cases hms.symm.trans (gather?_eq_some_iff.mpr hf')
    rw [h.eq_none hnone, hread, hms]
    rfl

theorem pass (h : ReadsFields names false read?) (hkey : key ≠ .other)
    (hfield : field? names key = none) : read? (pre ++ (key, d?) :: post) = read? (pre ++ post) := by
  obtain ⟨ask?, -, hread⟩ := h
  rw [hread, hread]
  refine congrArg (·.bind ask?) (Option.ext fun f => ?_)
  rw [gather?_eq_some_iff, gather?_eq_some_iff, gathers_pass hkey hfield]

theorem refuse (h : ReadsFields names true read?) {m : Key × Option Document} (hm : m ∈ ms)
    (hfield : field? names m.1 = none) : read? ms = none :=
  h.eq_none fun _ => not_gathers_of_none hm hfield

theorem once (h : ReadsFields names strict read?) (pre post : List (Key × Option Document))
    (hfield : field? names key = some name) {m : Key × Option Document} (hm : m ∈ pre ++ post)
    (hname : field? names m.1 = some name) : read? (pre ++ (key, d?) :: post) = none :=
  h.eq_none fun _ => not_gathers_twice hfield hm hname

end ReadsFields

/-- A field of a table is what its member holds. -/
theorem get?_of_gather? (hfield : field? names key = some name)
    (h : gather? names strict (pre ++ (key, d?) :: post) = some f) : f.get? name = d? := by
  obtain ⟨f₁, d, f₂, rfl, rfl, hnew, -⟩ := (gather?_eq_some_iff.mp h).split hfield
  exact Entries.get?_append_cons hnew d

end Layer

end RowScript
