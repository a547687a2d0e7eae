import RowScript.Proofs.Scanning

/-!
# JSON texts of documents

What is written as JSON is read back. A document of legible parts (`Document.Legible`) is written as a
text that spells it (`Json.spells_pretty`): whatever stands behind the text, the reader stops where the
text ends and has a tree that means the document, as long as it may descend as deep as the document is
nested. So the text as a whole is read as the document (`Json.ofGlyphs?_pretty`), or its outermost layer
(`Json.layer?_pretty`).
-/

namespace RowScript

namespace Document

mutual

/-- How many lists and tables are nested in each other. -/
def depth : Document → Nat
  | list items => itemsDepth items + 1
  | table members => membersDepth members + 1
  | _ => 0

def itemsDepth : List Document → Nat
  | [] => 0
  | d :: rest => max d.depth (itemsDepth rest)

def membersDepth : List (Key × Document) → Nat
  | [] => 0
  | (_, d) :: rest => max d.depth (membersDepth rest)

end

/-- Documents whose JSON text says all there is to them: integers are of 64 bits with a sign or
without, the text of a float is read back, and members have names. -/
inductive Legible : Document → Prop
  | null : Legible .null
  | bool (b : Bool) : Legible (.bool b)
  | int {n : Int} (hlo : -(Nat.pow 2 63 : Int) ≤ n) (hhi : n < Nat.pow 2 64) : Legible (.int n)
  | float {x : Float} (h : Json.ReadsBack x) : Legible (.float x)
  | string (s : String) : Legible (.string s)
  | list {items : List Document} (h : ∀ d ∈ items, Legible d) : Legible (.list items)
  | table {members : List (String × Document)} (h : ∀ m ∈ members, Legible m.2) :
    Legible (.table (members.map fun m => (.name m.1, m.2)))

end Document

namespace Json

/-! ### Blanks -/

def Blank (gs : List Glyph) : Prop := ∀ g ∈ gs, isBlank g = true

theorem skipBlank_append {bs : List Glyph} (h : Blank bs) (gs : List Glyph) :
    skipBlank (bs ++ gs) = skipBlank gs :=
  List.dropWhile_append_of_pos h

theorem skipBlank_cons {g : Glyph} (h : isBlank g = false) (gs : List Glyph) :
    skipBlank (g :: gs) = g :: gs := by
  simp [skipBlank, h]

theorem skipBlank_skipBlank (gs : List Glyph) : skipBlank (skipBlank gs) = skipBlank gs := by
  induction gs with
  | nil => rfl
  | cons g more ih =>
    by_cases hg : isBlank g = true
    · simpa [skipBlank, hg] using ih
    · simp [skipBlank, hg]

theorem value?_skipBlank (fuel : Nat) (gs : List Glyph) :
    value? fuel (skipBlank gs) = value? fuel gs := by
  cases fuel with
  | zero => rfl
  | succ fuel => simp only [value?, skipBlank_skipBlank]

theorem items?_skipBlank (fuel : Nat) (gs : List Glyph) :
    items? fuel (skipBlank gs) = items? fuel gs := by
  cases fuel with
  | zero => rfl
  | succ fuel => simp only [items?, value?_skipBlank]

theorem members?_skipBlank (fuel : Nat) (gs : List Glyph) :
    members? fuel (skipBlank gs) = members? fuel gs := by
  cases fuel with
  | zero => rfl
  | succ fuel => simp only [members?, skipBlank_skipBlank]

theorem blank_indentation (level : Nat) : Blank (textGlyphs (indentation level)) := by
  intro g hg
  simp only [textGlyphs, indentation, String.toList_ofList, List.map_replicate] at hg
  rw [List.eq_of_mem_replicate hg]
  rfl

/-! ### One value -/

section Dispatch

variable {gs rest : List Glyph}

theorem isBlank_of_digit {g : Glyph} (h : g = some '-' ∨ isDigit g = true) : isBlank g = false := by
  rcases h with rfl | h
  · rfl
  · refine Bool.eq_false_iff.mpr fun hblank => ?_
    simp only [isBlank, Bool.or_eq_true, beq_iff_eq] at hblank
    rcases hblank with ((rfl | rfl) | rfl) | rfl <;> cases h

theorem value?_number {t : NumberText} (h : number? gs = some (t, rest)) (fuel : Nat) :
    value? (fuel + 1) gs = some (.number t, rest) := by
  obtain ⟨g, more, rfl, hg⟩ := head_of_number? h
  rw [value?, skipBlank_cons (isBlank_of_digit hg)]
  split
  case h_7 => rw [h]; rfl
  all_goals
    rename_i heq
    cases heq
    rcases hg with hg | hg <;> cases hg

theorem value?_bracket (fuel : Nat) : value? fuel (some ']' :: gs) = none := by
  cases fuel <;> rfl

theorem items?_bracket (fuel : Nat) : items? fuel (some ']' :: gs) = none := by
  cases fuel with
  | zero => rfl
  | succ fuel => rw [items?, value?_bracket]; rfl

theorem members?_brace (fuel : Nat) : members? fuel (some '\x7d' :: gs) = none := by
  cases fuel <;> rfl

theorem value?_list {ts : List Tree} {fuel : Nat} (h : items? fuel gs = some (ts, rest)) :
    value? (fuel + 1) (some '[' :: gs) = some (.list ts, rest) := by
  rw [← items?_skipBlank] at h
  have hbracket : skipBlank (some '[' :: gs) = some '[' :: gs := rfl
  simp only [value?, hbracket]
  split
  · next more heq =>
    rw [heq, items?_bracket] at h
    cases h
  · rw [h]
    rfl

theorem value?_table {ms : List (List Piece × Tree)} {fuel : Nat}
    (h : members? fuel gs = some (ms, rest)) :
    value? (fuel + 1) (some '\x7b' :: gs) = some (.table ms, rest) := by
  rw [← members?_skipBlank] at h
  have hbrace : skipBlank (some '\x7b' :: gs) = some '\x7b' :: gs := rfl
  simp only [value?, hbrace]
  split
  · next more heq =>
    rw [heq, members?_brace] at h
    cases h
  · rw [h]
    rfl

variable {fuel : Nat} {t : Tree} {r more : List Glyph}

theorem items?_last (h : value? fuel gs = some (t, r)) (hclose : skipBlank r = some ']' :: rest) :
    items? (fuel + 1) gs = some ([t], rest) := by
  simp only [items?, h, Option.bind_eq_bind, Option.bind_some, hclose]
  rfl

theorem items?_cons {ts : List Tree} (h : value? fuel gs = some (t, r))
    (hcomma : skipBlank r = some ',' :: more) (hmore : items? fuel more = some (ts, rest)) :
    items? (fuel + 1) gs = some (t :: ts, rest) := by
  simp only [items?, h, Option.bind_eq_bind, Option.bind_some, hcomma, hmore]
  rfl

variable {name key colon : List Glyph} {ps : List Piece}

theorem members?_last (hname : skipBlank name = some '"' :: key)
    (hkey : pieces? key = some (ps, colon)) (hcolon : skipBlank colon = some ':' :: gs)
    (h : value? fuel gs = some (t, r)) (hclose : skipBlank r = some '\x7d' :: rest) :
    members? (fuel + 1) name = some ([(ps, t)], rest) := by
  simp only [members?, hname, hkey, Option.bind_eq_bind, Option.bind_some, hcolon, h, hclose]
  rfl

theorem members?_cons {ms : List (List Piece × Tree)} (hname : skipBlank name = some '"' :: key)
    (hkey : pieces? key = some (ps, colon)) (hcolon : skipBlank colon = some ':' :: gs)
    (h : value? fuel gs = some (t, r)) (hcomma : skipBlank r = some ',' :: more)
    (hmore : members? fuel more = some (ms, rest)) :
    members? (fuel + 1) name = some ((ps, t) :: ms, rest) := by
  simp only [members?, hname, hkey, Option.bind_eq_bind, Option.bind_some, hcolon, h, hcomma, hmore]
  rfl

end Dispatch

/-! ### Documents -/

/-- A text that is read as a document, whatever stands behind it that is no part of a number. Its length
is fuel enough, since every level of nesting takes a glyph. -/
def Spells (text : List Glyph) (d : Document) : Prop :=
  ∃ t : Tree, (∀ levels, d.depth ≤ levels → t.document? levels = some d) ∧
    ∀ fuel rest, text.length ≤ fuel → EndsNumber rest → value? fuel (text ++ rest) = some (t, rest)

/-- A text that is read as the items of a list, its closing bracket included. -/
def SpellsItems (text : List Glyph) (ds : List Document) : Prop :=
  ∃ ts : List Tree,
    (∀ levels, Document.itemsDepth ds ≤ levels → Tree.itemDocuments? levels ts = some ds) ∧
    ∀ fuel rest, text.length ≤ fuel → items? fuel (text ++ rest) = some (ts, rest)

/-- A text that is read as the members of a table, its closing brace included. -/
def SpellsMembers (text : List Glyph) (ms : List (Key × Document)) : Prop :=
  ∃ ts : List (List Piece × Tree),
    (∀ levels, Document.membersDepth ms ≤ levels → Tree.memberDocuments? levels ts = some ms) ∧
    ∀ fuel rest, text.length ≤ fuel → members? fuel (text ++ rest) = some (ts, rest)

section Combine

variable {text bs : List Glyph} {d : Document}

theorem endsNumber_blank (hbs : Blank bs) {rest : List Glyph} (h : EndsNumber rest) :
    EndsNumber (bs ++ rest) := by
  cases bs with
  | nil => exact h
  | cons b more =>
    have hb := hbs b List.mem_cons_self
    simp only [isBlank, Bool.or_eq_true, beq_iff_eq] at hb
    rcases hb with ((rfl | rfl) | rfl) | rfl <;> exact endsNumber_cons rfl nofun nofun nofun

theorem spells_word {t : Tree} (hd : ∀ levels, d.depth ≤ levels → t.document? levels = some d)
    (hne : text ≠ [])
    (hread : ∀ fuel rest, value? (fuel + 1) (text ++ rest) = some (t, rest)) : Spells text d := by
  refine ⟨t, hd, fun fuel rest hfuel _ => ?_⟩
  have hlength := List.length_pos_iff.mpr hne
  obtain ⟨fuel, rfl⟩ := Nat.exists_eq_add_one_of_ne_zero (show fuel ≠ 0 by omega)
  exact hread fuel rest

theorem spells_number {t : NumberText} (hread : number? text = some (t, []))
    (hd : t.document? = some d) : Spells text d := by
  refine ⟨.number t, fun levels _ => hd, fun fuel rest hfuel hrest => ?_⟩
  obtain ⟨g, more, rfl, -⟩ := head_of_number? hread
  obtain ⟨fuel, rfl⟩ := Nat.exists_eq_add_one_of_ne_zero (Nat.ne_zero_of_lt hfuel)
  exact value?_number (number?_append hrest hread) fuel

theorem spells_string (s : String) : Spells (textGlyphs (stringText s)) (.string s) := by
  obtain ⟨ps, hps, hread⟩ := pieces?_escaped s.toList
  refine ⟨.string ps, fun levels _ => ?_, fun fuel rest hfuel _ => ?_⟩
  · rw [Tree.document?, hps, Option.map_some, String.ofList_toList]
  · rw [textGlyphs_stringText] at hfuel ⊢
    obtain ⟨fuel, rfl⟩ := Nat.exists_eq_add_one_of_ne_zero (Nat.ne_zero_of_lt hfuel)
    rw [List.cons_append, List.append_assoc, List.singleton_append]
    simp only [value?, skipBlank_cons (g := some '"') rfl, hread, Option.map_some]

theorem spells_list {ds : List Document} (h : SpellsItems text ds) :
    Spells (some '[' :: text) (.list ds) := by
  obtain ⟨ts, hdocs, hread⟩ := h
  refine ⟨.list ts, fun levels hlevels => ?_, fun fuel rest hfuel _ => ?_⟩
  · rw [Document.depth] at hlevels
    rw [Tree.document?, if_neg (by omega), hdocs _ (by omega)]
    rfl
  · obtain ⟨fuel, rfl⟩ := Nat.exists_eq_add_one_of_ne_zero (Nat.ne_zero_of_lt hfuel)
    exact value?_list (hread fuel rest (Nat.le_of_succ_le_succ hfuel))

theorem spells_table {ms : List (Key × Document)} (h : SpellsMembers text ms) :
    Spells (some '\x7b' :: text) (.table ms) := by
  obtain ⟨ts, hdocs, hread⟩ := h
  refine ⟨.table ts, fun levels hlevels => ?_, fun fuel rest hfuel _ => ?_⟩
  · rw [Document.depth] at hlevels
    rw [Tree.document?, if_neg (by omega), hdocs _ (by omega)]
    rfl
  · obtain ⟨fuel, rfl⟩ := Nat.exists_eq_add_one_of_ne_zero (Nat.ne_zero_of_lt hfuel)
    exact value?_table (hread fuel rest (Nat.le_of_succ_le_succ hfuel))

theorem spellsItems_blank (hbs : Blank bs) {ds : List Document} (h : SpellsItems text ds) :
    SpellsItems (bs ++ text) ds := by
  obtain ⟨ts, hdocs, hread⟩ := h
  refine ⟨ts, hdocs, fun fuel rest hfuel => ?_⟩
  rw [List.length_append] at hfuel
  rw [← items?_skipBlank, List.append_assoc, skipBlank_append hbs, items?_skipBlank]
  exact hread fuel rest (by omega)

theorem spellsItems_last (hd : Spells text d) (hbs : Blank bs) :
    SpellsItems (text ++ (bs ++ [some ']'])) [d] := by
  obtain ⟨t, hdoc, hread⟩ := hd
  refine ⟨[t], fun levels hlevels => ?_, fun fuel rest hfuel => ?_⟩
  · simp only [Document.itemsDepth] at hlevels
    simp [Tree.itemDocuments?, hdoc levels (by omega)]
  · simp only [List.length_append, List.length_singleton] at hfuel
    obtain ⟨fuel, rfl⟩ := Nat.exists_eq_add_one_of_ne_zero (show fuel ≠ 0 by omega)
    have hvalue := hread fuel (bs ++ some ']' :: rest) (by omega)
      (endsNumber_blank hbs (endsNumber_cons rfl nofun nofun nofun))
    rw [List.append_assoc, List.append_assoc, List.singleton_append]
    exact items?_last hvalue (by rw [skipBlank_append hbs, skipBlank_cons rfl])

theorem spellsItems_cons (hd : Spells text d) {more : List Glyph} {ds : List Document}
    (h : SpellsItems more ds) : SpellsItems (text ++ some ',' :: more) (d :: ds) := by
  obtain ⟨t, hdoc, hread⟩ := hd
  obtain ⟨ts, hdocs, hmore⟩ := h
  refine ⟨t :: ts, fun levels hlevels => ?_, fun fuel rest hfuel => ?_⟩
  · simp only [Document.itemsDepth] at hlevels
    simp [Tree.itemDocuments?, hdoc levels (by omega), hdocs levels (by omega)]
  · simp only [List.length_append, List.length_cons] at hfuel
    obtain ⟨fuel, rfl⟩ := Nat.exists_eq_add_one_of_ne_zero (show fuel ≠ 0 by omega)
    have hvalue := hread fuel (some ',' :: (more ++ rest)) (by omega)
      (endsNumber_cons rfl nofun nofun nofun)
    rw [List.append_assoc, List.cons_append]
    exact items?_cons hvalue (skipBlank_cons rfl _) (hmore fuel rest (by omega))

theorem members?_member (name : String) : ∃ key : List Piece, textOf? key = some name.toList ∧
    ∀ {fuel gs t r rest}, value? fuel gs = some (t, r) →
      (skipBlank r = some '\x7d' :: rest →
        members? (fuel + 1) (textGlyphs (stringText name ++ ": ") ++ gs) = some ([(key, t)], rest)) ∧
      ∀ {ts r'}, skipBlank r = some ',' :: rest → members? fuel rest = some (ts, r') →
        members? (fuel + 1) (textGlyphs (stringText name ++ ": ") ++ gs) =
          some ((key, t) :: ts, r') := by
  obtain ⟨key, hkey, hread⟩ := pieces?_escaped name.toList
  refine ⟨key, hkey, fun {fuel gs t r rest} hvalue => ?_⟩
  have htext : textGlyphs (stringText name ++ ": ") ++ gs =
      some '"' :: (name.toList.flatMap (fun c => textGlyphs (escapeChar c)) ++
        some '"' :: some ':' :: some ' ' :: gs) := by
    rw [textGlyphs_append, textGlyphs_stringText]
    simp [textGlyphs]
  have hspace : value? fuel (some ' ' :: gs) = some (t, r) := by
    rw [← value?_skipBlank] at hvalue ⊢
    exact hvalue
  have hquote := skipBlank_cons (g := some '"') rfl
  have hcolon := skipBlank_cons (g := some ':') rfl (some ' ' :: gs)
  rw [htext]
  exact ⟨members?_last (hquote _) (hread _) hcolon hspace,
    members?_cons (hquote _) (hread _) hcolon hspace⟩

theorem spellsMembers_blank (hbs : Blank bs) {ms : List (Key × Document)}
    (h : SpellsMembers text ms) : SpellsMembers (bs ++ text) ms := by
  obtain ⟨ts, hdocs, hread⟩ := h
  refine ⟨ts, hdocs, fun fuel rest hfuel => ?_⟩
  rw [List.length_append] at hfuel
  rw [← members?_skipBlank, List.append_assoc, skipBlank_append hbs, members?_skipBlank]
  exact hread fuel rest (by omega)

theorem spellsMembers_last (name : String) (hd : Spells text d) (hbs : Blank bs) :
    SpellsMembers (textGlyphs (stringText name ++ ": ") ++ (text ++ (bs ++ [some '\x7d'])))
      [(.name name, d)] := by
  obtain ⟨t, hdoc, hread⟩ := hd
  obtain ⟨key, hkey, hmember⟩ := members?_member name
  refine ⟨[(key, t)], fun levels hlevels => ?_, fun fuel rest hfuel => ?_⟩
  · simp only [Document.membersDepth] at hlevels
    simp [Tree.memberDocuments?, hkey, hdoc levels (by omega)]
  · simp only [List.length_append, List.length_singleton] at hfuel
    obtain ⟨fuel, rfl⟩ := Nat.exists_eq_add_one_of_ne_zero (show fuel ≠ 0 by omega)
    have hvalue := hread fuel (bs ++ some '\x7d' :: rest) (by omega)
      (endsNumber_blank hbs (endsNumber_cons rfl nofun nofun nofun))
    simp only [List.append_assoc, List.singleton_append]
    exact (hmember hvalue).1 (by rw [skipBlank_append hbs, skipBlank_cons rfl])

theorem spellsMembers_cons (name : String) (hd : Spells text d) {more : List Glyph}
    {ms : List (Key × Document)} (h : SpellsMembers more ms) :
    SpellsMembers (textGlyphs (stringText name ++ ": ") ++ (text ++ some ',' :: more))
      ((.name name, d) :: ms) := by
  obtain ⟨t, hdoc, hread⟩ := hd
  obtain ⟨ts, hdocs, hmore⟩ := h
  obtain ⟨key, hkey, hmember⟩ := members?_member name
  refine ⟨(key, t) :: ts, fun levels hlevels => ?_, fun fuel rest hfuel => ?_⟩
  · simp only [Document.membersDepth] at hlevels
    simp [Tree.memberDocuments?, hkey, hdoc levels (by omega), hdocs levels (by omega)]
  · simp only [List.length_append, List.length_cons] at hfuel
    obtain ⟨fuel, rfl⟩ := Nat.exists_eq_add_one_of_ne_zero (show fuel ≠ 0 by omega)
    have hvalue := hread fuel (some ',' :: (more ++ rest)) (by omega)
      (endsNumber_cons rfl nofun nofun nofun)
    simp only [List.append_assoc, List.cons_append]
    exact (hmember hvalue).2 (skipBlank_cons rfl _) (hmore fuel rest (by omega))

end Combine

/-! ### Texts of documents -/

theorem textGlyphs_block_nil (opening closing : String) (level : Nat) :
    textGlyphs (block opening closing level []) = textGlyphs opening ++ textGlyphs closing := by
  simp [block]

theorem textGlyphs_block (opening closing : String) (level : Nat) (p : String) (ps : List String) :
    textGlyphs (block opening closing level (p :: ps)) =
      textGlyphs opening ++ ([some '\n'] ++
        textGlyphs (String.intercalate ",\n" ((p :: ps).map (indentation (level + 1) ++ ·)) ++
          ("\n" ++ indentation level ++ closing))) := by
  simp [block, textGlyphs]

theorem blank_newline : Blank [some '\n'] := by
  intro g hg
  rw [List.mem_singleton.mp hg]
  rfl

theorem blank_append {as bs : List Glyph} (has : Blank as) (hbs : Blank bs) : Blank (as ++ bs) :=
  fun g hg => (List.mem_append.mp hg).elim (has g) (hbs g)

theorem spellsItems_lines {level n : Nat} {d : Document} {ds : List Document}
    (h : ∀ d' ∈ d :: ds, Spells (textGlyphs (pretty n d')) d') :
    SpellsItems (textGlyphs (String.intercalate ",\n"
      ((prettyItems n (d :: ds)).map (indentation n ++ ·)) ++ ("\n" ++ indentation level ++ "]")))
      (d :: ds) := by
  have hd := h d List.mem_cons_self
  induction ds generalizing d with
  | nil =>
    have hlast := spellsItems_last hd
      (blank_append blank_newline (blank_indentation level))
    simpa [prettyItems, textGlyphs] using spellsItems_blank (blank_indentation n) hlast
  | cons d' ds ih =>
    have hmore := ih (fun x hx => h x (List.mem_cons_of_mem _ hx)) (h d' (by simp))
    have hcons := spellsItems_cons hd (spellsItems_blank blank_newline hmore)
    simpa [prettyItems, String.intercalate_cons_cons, textGlyphs] using
      spellsItems_blank (blank_indentation n) hcons

theorem spellsMembers_lines {level n : Nat} {m : String × Document}
    {ms : List (String × Document)}
    (h : ∀ m' ∈ m :: ms, Spells (textGlyphs (pretty n m'.2)) m'.2) :
    SpellsMembers (textGlyphs (String.intercalate ",\n"
      ((prettyMembers n ((m :: ms).map fun m => (.name m.1, m.2))).map (indentation n ++ ·)) ++
        ("\n" ++ indentation level ++ "\x7d")))
      ((m :: ms).map fun m => (.name m.1, m.2)) := by
  have hm := h m List.mem_cons_self
  induction ms generalizing m with
  | nil =>
    have hlast := spellsMembers_last m.1 hm (blank_append blank_newline (blank_indentation level))
    simpa [prettyMembers, textGlyphs, Key.text] using
      spellsMembers_blank (blank_indentation n) hlast
  | cons m' ms ih =>
    have hmore := ih (fun x hx => h x (List.mem_cons_of_mem _ hx)) (h m' (by simp))
    have hcons := spellsMembers_cons m.1 hm (spellsMembers_blank blank_newline hmore)
    simpa [prettyMembers, String.intercalate_cons_cons, textGlyphs, Key.text] using
      spellsMembers_blank (blank_indentation n) hcons

theorem spells_empty_list : Spells [some '[', some ']'] (.list []) := by
  refine spells_word (t := .list []) (fun levels hlevels => ?_) nofun fun fuel rest => rfl
  rw [Tree.document?, if_neg (by rw [Document.depth] at hlevels; omega)]
  rfl

theorem spells_empty_table : Spells [some '\x7b', some '\x7d'] (.table []) := by
  refine spells_word (t := .table []) (fun levels hlevels => ?_) nofun fun fuel rest => rfl
  rw [Tree.document?, if_neg (by rw [Document.depth] at hlevels; omega)]
  rfl

/-- The text of a legible document spells the document. -/
theorem spells_pretty {d : Document} (h : d.Legible) (level : Nat) :
    Spells (textGlyphs (pretty level d)) d := by
  induction h generalizing level with
  | null =>
    rw [pretty]
    exact spells_word (t := .null) (fun _ _ => rfl) (by decide) fun _ _ => rfl
  | bool b =>
    rw [pretty]
    cases b with
    | false => exact spells_word (t := .bool false) (fun _ _ => rfl) (by decide) fun _ _ => rfl
    | true => exact spells_word (t := .bool true) (fun _ _ => rfl) (by decide) fun _ _ => rfl
  | int hlo hhi => exact spells_number (number?_int _) (document?_int hlo hhi)
  | float hx =>
    obtain ⟨t, hnumber, hdoc⟩ := hx.document
    exact spells_number hnumber hdoc
  | string s => exact spells_string s
  | @list items h ih =>
    cases items with
    | nil =>
      rw [pretty, prettyItems, textGlyphs_block_nil]
      exact spells_empty_list
    | cons d ds =>
      have hlines := @spellsItems_lines level _ d ds fun d' hd' => ih d' hd' (level + 1)
      have hlist := spells_list (spellsItems_blank blank_newline hlines)
      rwa [pretty, prettyItems, textGlyphs_block, ← prettyItems]
  | @table members h ih =>
    cases members with
    | nil =>
      rw [List.map_nil, pretty, prettyMembers, textGlyphs_block_nil]
      exact spells_empty_table
    | cons m ms =>
      have hlines := @spellsMembers_lines level _ m ms fun m' hm' => ih m' hm' (level + 1)
      have htable := spells_table (spellsMembers_blank blank_newline hlines)
      rw [List.map_cons] at htable ⊢
      rwa [pretty, prettyMembers, textGlyphs_block, ← prettyMembers]

/-- A legible document is read back from its text. -/
theorem ofGlyphs?_pretty {d : Document} (h : d.Legible) : ∃ t,
    Tree.ofGlyphs? (textGlyphs (pretty 0 d)) = some t ∧
      ∀ levels, d.depth ≤ levels → t.document? levels = some d := by
  obtain ⟨t, hdoc, hread⟩ := spells_pretty h 0
  refine ⟨t, ?_, hdoc⟩
  have hvalue := hread ((textGlyphs (pretty 0 d)).length + 1) [] (by omega) nofun
  rw [List.append_nil] at hvalue
  rw [Tree.ofGlyphs?, hvalue]
  rfl

theorem layer_of_number {t : NumberText} {d : Document} (h : t.document? = some d) :
    d.layer = .simple := by
  have hfloat : t.float?.map Document.float = some d → d.layer = .simple := by
    intro hread
    obtain ⟨x, -, rfl⟩ := Option.map_eq_some_iff.mp hread
    rfl
  simp only [NumberText.document?] at h
  split at h
  · split at h
    · cases h
      rfl
    · split at h
      · cases h
        rfl
      · exact hfloat h
  · exact hfloat h

theorem layerMembers?_of_documents {levels : Nat} {ts : List (List Piece × Tree)}
    {ms : List (Key × Document)} (h : Tree.memberDocuments? levels ts = some ms) :
    (ts.mapM fun (pieces, t) => do
      return (Key.name (String.ofList (← textOf? pieces)), t.document? levels)) =
      some (ms.map fun (k, d) => (k, some d)) := by
  induction ts generalizing ms with
  | nil =>
    cases h
    rfl
  | cons t ts ih =>
    obtain ⟨pieces, t⟩ := t
    obtain ⟨cs, hcs, h⟩ := Option.bind_eq_some_iff.mp h
    obtain ⟨d, hd, h⟩ := Option.bind_eq_some_iff.mp h
    obtain ⟨rest, hrest, h⟩ := Option.bind_eq_some_iff.mp h
    cases h
    rw [List.mapM_cons, ih hrest]
    simp [hcs, hd]

theorem layerItems_of_documents {levels : Nat} {ts : List Tree} {ds : List Document}
    (h : Tree.itemDocuments? levels ts = some ds) :
    ts.map (Tree.document? levels) = ds.map some := by
  induction ts generalizing ds with
  | nil =>
    cases h
    rfl
  | cons t ts ih =>
    obtain ⟨d, hd, h⟩ := Option.bind_eq_some_iff.mp h
    obtain ⟨rest, hrest, h⟩ := Option.bind_eq_some_iff.mp h
    cases h
    simp [hd, ih hrest]

theorem layer?_of_document? {t : Tree} {d : Document}
    (h : t.document? Tree.maxLevels = some d) : t.layer? = some d.layer := by
  cases t with
  | null =>
    cases h
    rfl
  | bool b =>
    cases h
    rfl
  | number text => exact congrArg some (layer_of_number h).symm
  | string pieces =>
    obtain ⟨cs, -, rfl⟩ := Option.map_eq_some_iff.mp h
    rfl
  | list items =>
    obtain ⟨ds, hds, rfl⟩ := Option.map_eq_some_iff.mp h
    exact congrArg (some ∘ Layer.list) (layerItems_of_documents hds)
  | table members =>
    obtain ⟨ms, hms, rfl⟩ := Option.map_eq_some_iff.mp h
    simp only [Tree.layer?]
    rw [layerMembers?_of_documents hms]
    rfl

/-- The outermost layer of a legible document is read back from its text. -/
theorem layer?_pretty {d : Document} (h : d.Legible) (hdepth : d.depth ≤ Tree.maxLevels) :
    (Tree.ofGlyphs? (textGlyphs (pretty 0 d))).bind Tree.layer? = some d.layer := by
  obtain ⟨t, hread, hdoc⟩ := ofGlyphs?_pretty h
  rw [hread]
  exact layer?_of_document? (hdoc _ hdepth)

end Json

end RowScript
