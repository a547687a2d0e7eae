import RowScript.Files.Store

/-!
# What a target holds

`Store.Account` says of a store what its targets hold: a file that was made ready is empty, and text
goes to the end of what was there. Texts written one after the other (`Store.appendAll`) are there
side by side (`Account.holds_appendAll`). In a `Store.Ledger` nothing that was written is lost
again.

`Files.account`: the files in memory are such a store. A file that can be written is no directory,
so putting something there leaves every way through directories as it was (`locate_set`), and the
path still leads to it.
-/

namespace RowScript

namespace Store

variable {φ : Type}

/-- Write texts one after the other. -/
def appendAll (store : Store φ) (target : Target) : List String → Attempt φ FileFault Unit
  | [] => pure ()
  | text :: rest => do
    store.append target text
    store.appendAll target rest

/-- What the targets of a store hold. -/
structure Account (store : Store φ) where
  holds : φ → Target → ByteArray
  /-- A file that was made ready is empty. -/
  create_file : ∀ {path files files'}, store.create (.file path) files = (.ok (), files') →
    holds files' (.file path) = .empty
  /-- The standard output keeps what was written to it. -/
  create_standard : ∀ {files files'}, store.create .standard files = (.ok (), files') →
    holds files' .standard = holds files .standard
  append : ∀ {target text files files'}, store.append target text files = (.ok (), files') →
    holds files' target = holds files target ++ text.toUTF8

/-- An account of a store in which what was written stays. -/
structure Ledger (store : Store φ) extends store.Account where
  /-- A write that fails may leave a part of its text. -/
  append_grows : ∀ {target text files files' o}, store.append target text files = (o, files') →
    ∃ part, holds files' target = holds files target ++ part
  /-- Flushing takes nothing away, also if it fails. -/
  flush : ∀ {target files files' o}, store.flush target files = (o, files') →
    holds files' target = holds files target

/-- A store in which every file is read as the same data, and all that is written is one text. -/
def ofData (data : ByteArray) : Store String where
  read _ _ := .ok data
  create
    | .standard => pure ()
    | .file _ => .update fun _ => ""
  append _ text := .update (· ++ text)
  flush _ := pure ()

def ofDataLedger (data : ByteArray) : (ofData data).Ledger where
  holds text _ := text.toUTF8
  create_file h := by
    cases h
    rfl
  create_standard h := by
    cases h
    rfl
  append h := by
    cases h
    exact String.toByteArray_append
  append_grows h := by
    cases h
    exact ⟨_, String.toByteArray_append⟩
  flush h := by
    cases h
    rfl

variable {store : Store φ} {target : Target} {files files' : φ}

theorem appendAll_cons_ok {text : String} {rest : List String} :
    store.appendAll target (text :: rest) files = (.ok (), files') ↔
      ∃ between, store.append target text files = (.ok (), between) ∧
        store.appendAll target rest between = (.ok (), files') := by
  rw [appendAll, Attempt.bind_eq_ok]
  exact ⟨fun ⟨_, between, h⟩ => ⟨between, h⟩, fun ⟨between, h⟩ => ⟨(), between, h⟩⟩

theorem appendAll_append_ok {first second : List String} :
    store.appendAll target (first ++ second) files = (.ok (), files') ↔
      ∃ between, store.appendAll target first files = (.ok (), between) ∧
        store.appendAll target second between = (.ok (), files') := by
  induction first generalizing files with
  | nil =>
    refine ⟨fun h => ⟨files, rfl, h⟩, ?_⟩
    rintro ⟨_, heq, h⟩
    cases heq
    exact h
  | cons text rest ih =>
    simp only [List.cons_append, appendAll_cons_ok, ih]
    constructor
    · rintro ⟨a, ha, b, hb, h⟩
      exact ⟨b, ⟨a, ha, hb⟩, h⟩
    · rintro ⟨b, ⟨a, ha, hb⟩, h⟩
      exact ⟨a, ha, b, hb, h⟩

theorem Account.holds_appendAll (account : store.Account) {texts : List String}
    (h : store.appendAll target texts files = (.ok (), files')) :
    account.holds files' target = account.holds files target ++ (String.join texts).toUTF8 := by
  induction texts generalizing files with
  | nil =>
    cases h
    simp
  | cons text rest ih =>
    obtain ⟨between, hfirst, hrest⟩ := appendAll_cons_ok.mp h
    rw [ih hrest, account.append hfirst]
    simp [String.toByteArray_append, ByteArray.append_assoc]

end Store

/-! ### Files in memory -/

namespace Files

theorem lookup_setNode_self (nodes : List (Location × Node)) (l : Location) (node : Node) :
    (setNode nodes l node).lookup l = some node := by
  induction nodes with
  | nil => simp [setNode]
  | cons entry rest ih =>
    obtain ⟨other, old⟩ := entry
    by_cases h : other = l
    · simp [setNode, h]
    · have h' : (l == other) = false := by simpa using fun e => h e.symm
      simp [setNode, h, List.lookup_cons, h', ih]

theorem lookup_setNode_of_ne {l l' : Location} (hne : l' ≠ l) (nodes : List (Location × Node))
    (node : Node) : (setNode nodes l node).lookup l' = nodes.lookup l' := by
  have hne' : (l' == l) = false := by simpa using hne
  induction nodes with
  | nil => simp [setNode, List.lookup_cons, hne']
  | cons entry rest ih =>
    obtain ⟨other, old⟩ := entry
    by_cases h : other = l
    · subst h
      simp [setNode, List.lookup_cons, hne']
    · simp [setNode, h, List.lookup_cons, ih]

theorem any_setNode (p : Location → Bool) (nodes : List (Location × Node)) (l : Location)
    (node : Node) (h : nodes.any fun (other, _) => p other) :
    (setNode nodes l node).any fun (other, _) => p other := by
  induction nodes with
  | nil => cases h
  | cons entry rest ih =>
    obtain ⟨other, old⟩ := entry
    by_cases heq : other = l
    · simpa [setNode, heq] using h
    · rw [List.any_cons, Bool.or_eq_true] at h
      rw [setNode, if_neg (by simpa using heq), List.any_cons, Bool.or_eq_true]
      exact h.imp id ih

theorem at?_set_self {l : Location} (hl : l ≠ []) (f : Files) (node : Node) :
    (f.set l node).at? l = some node := by
  have hempty : l.isEmpty = false := by simpa using hl
  simp [at?, set, hempty, lookup_setNode_self]

theorem at?_set_directory {l l' : Location} (hne : l' ≠ l) {f : Files} (node : Node)
    (h : f.at? l' = some .directory) : (f.set l node).at? l' = some .directory := by
  have hlookup : (f.set l node).nodes.lookup l' = f.nodes.lookup l' :=
    lookup_setNode_of_ne hne f.nodes node
  unfold at? at h ⊢
  rw [hlookup]
  split
  · rfl
  · next hempty =>
    rw [if_neg hempty] at h
    cases hfound : f.nodes.lookup l' with
    | some found =>
      rw [hfound] at h
      exact h
    | none =>
      rw [hfound] at h
      simp only [Option.ite_none_right_eq_some, and_true] at h
      exact if_pos (any_setNode _ _ l node h)

theorem enter_set {l at₀ next : Location} {name : String} {f : Files} (node : Node)
    (hl : f.at? l ≠ some .directory) (h : f.enter at₀ name = .ok next) :
    (f.set l node).enter at₀ name = .ok next := by
  unfold enter at h ⊢
  cases hat : f.at? at₀ with
  | none => simp [hat] at h
  | some there =>
    cases there with
    | file data => simp [hat] at h
    | blocked fault => simp [hat] at h
    | directory =>
      -- the way goes through a directory, so not through `l`
      have hne : at₀ ≠ l := fun e => hl (e ▸ hat)
      rw [hat] at h
      rw [at?_set_directory hne node hat]
      exact h

theorem foldlM_enter_set {l : Location} {f : Files} (node : Node) (hl : f.at? l ≠ some .directory)
    (names : List String) (at₀ : Location) {next : Location}
    (h : names.foldlM f.enter at₀ = .ok next) :
    names.foldlM (f.set l node).enter at₀ = .ok next := by
  induction names generalizing at₀ with
  | nil => exact h
  | cons name rest ih =>
    rw [List.foldlM_cons] at h ⊢
    cases hstep : f.enter at₀ name with
    | error fault =>
      rw [hstep] at h
      cases h
    | ok between =>
      rw [hstep] at h
      rw [enter_set node hl hstep]
      exact ih between h

theorem locate_set {l l' : Location} {f : Files} {path : String} (node : Node)
    (hl : f.at? l ≠ some .directory) (h : f.locate path = .ok l') :
    (f.set l node).locate path = .ok l' := by
  unfold locate at h ⊢
  split at h
  · cases h
  · next hempty =>
    split at h
    · cases h
    · next hhole =>
      rw [if_neg hempty, if_neg hhole]
      split at h <;> exact foldlM_enter_set node hl _ _ h

/-- A path at which a file can be written leads to a place where there is no directory. -/
theorem locate_of_writable {l : Location} {f : Files} {path : String}
    (h : f.writable path = .ok l) : f.locate path = .ok l ∧ f.at? l ≠ some .directory := by
  unfold writable at h
  cases hlocate : f.locate (String.ofList
    (path.toList.reverse.dropWhile (· == '/')).reverse) with
  | error fault =>
    rw [hlocate] at h
    cases h
  | ok l' =>
    rw [hlocate] at h
    simp only [bind, Except.bind] at h
    split at h
    · cases h
    · next hslash =>
      have hstripped : (path.toList.reverse.dropWhile (· == '/')).reverse = path.toList := by
        rw [List.getLast?_eq_head?_reverse] at hslash
        rw [List.reverse_eq_iff]
        cases hchars : path.toList.reverse with
        | nil => rfl
        | cons c rest =>
          rw [hchars] at hslash
          exact List.dropWhile_cons_of_neg (by simpa using hslash)
      rw [hstripped, String.ofList_toList] at hlocate
      split at h
      · cases h
      · cases h
      · next hfile =>
        cases h
        exact ⟨hlocate, by rw [hfile]; simp⟩
      · next hnone =>
        cases h
        exact ⟨hlocate, by rw [hnone]; simp⟩

theorem read_set {l : Location} {f : Files} {path : String} (data : ByteArray)
    (h : f.writable path = .ok l) : (f.set l (.file data)).read path = .ok data := by
  obtain ⟨hlocate, hfree⟩ := locate_of_writable h
  have hl : l ≠ [] := by
    rintro rfl
    exact hfree rfl
  unfold read
  rw [locate_set _ hfree hlocate]
  simp only [bind, Except.bind, at?_set_self hl]

theorem create_ok {path : String} {f f' : Files} (h : f.create path = .ok f') :
    f'.read path = .ok .empty := by
  unfold create at h
  cases hwritable : f.writable path with
  | error fault =>
    rw [hwritable] at h
    cases h
  | ok l =>
    rw [hwritable] at h
    cases h
    exact read_set _ hwritable

theorem append_ok {path text : String} {f f' : Files} (h : f.append path text = .ok f') :
    ∃ data, f.read path = .ok data ∧ f'.read path = .ok (data ++ text.toUTF8) := by
  unfold append at h
  cases hwritable : f.writable path with
  | error fault =>
    rw [hwritable] at h
    cases h
  | ok l =>
    cases hread : f.read path with
    | error fault =>
      rw [hwritable, hread] at h
      cases h
    | ok data =>
      rw [hwritable, hread] at h
      cases h
      exact ⟨data, rfl, read_set _ hwritable⟩

theorem changing_ok {change : Files → Except FileFault Files} {f f' : Files}
    (h : changing change f = (.ok (), f')) : change f = .ok f' := by
  unfold changing at h
  split at h <;> cases h
  assumption

theorem store_create (path : String) :
    store.create (.file path) = changing (create · path) := by
  rw [store]

theorem store_append (path text : String) :
    store.append (.file path) text = changing (append · path text) := by
  rw [store]

/-- What was written to a target. -/
def held (f : Files) : Target → ByteArray
  | .standard => f.printed.toUTF8
  | .file path => (f.read path).toOption.getD .empty

theorem held_of_read {f : Files} {path : String} {data : ByteArray} (h : f.read path = .ok data) :
    f.held (.file path) = data := by
  rw [held, h]
  rfl

/-- The account of files in memory. -/
def account : store.Account where
  holds := held
  create_file h := by
    rw [store_create] at h
    exact held_of_read (create_ok (changing_ok h))
  create_standard h := by
    cases h
    rfl
  append {target text files files'} h := by
    cases target with
    | standard =>
      cases h
      exact String.toByteArray_append
    | file path =>
      rw [store_append] at h
      obtain ⟨data, hread, hread'⟩ := append_ok (changing_ok h)
      rw [held_of_read hread, held_of_read hread']

theorem changing_fails {change : Files → Except FileFault Files} {f f' : Files}
    {o : Outcome FileFault Unit} (h : changing change f = (o, f')) (hfails : o ≠ .ok ()) :
    f' = f := by
  unfold changing at h
  split at h <;> cases h
  · exact absurd rfl hfails
  · rfl

/-- What is in files in memory stays there. -/
def ledger : store.Ledger where
  toAccount := account
  append_grows {target text files files' o} h := by
    by_cases hok : o = .ok ()
    · rw [hok] at h
      exact ⟨_, account.append h⟩
    · cases target with
      | standard =>
        cases h
        exact absurd rfl hok
      | file path =>
        rw [store_append] at h
        rw [changing_fails h hok]
        exact ⟨.empty, ByteArray.append_empty.symm⟩
  flush h := by
    cases h
    rfl

end Files

end RowScript
