import RowScript.Proofs.Legible

/-!
# The grammar of JSON

`Grammar.Text gs t` says that a text is JSON and that `t` is its tree, rule by rule and without a word
about how it is read. The reader decides it: it reads a text as a tree exactly if the grammar derives
the text from that tree (`Grammar.text_iff`). So a text has one tree at most, and all texts of a tree
are read alike, whatever their blanks and escapes are.

The leaves come first: the parts of a number (`Number.read`, `number_of_read`) and the pieces of a string
(`Pieces.read`, `pieces_of_read`). A value is read wherever it stands (`Value.read`), by recursion on its
derivation; what is read has a derivation (`derives`), by induction on the fuel of the reader.
-/

namespace RowScript.Json

namespace Tree

mutual

def decEq : (t u : Tree) → Decidable (t = u)
  | null, null => isTrue rfl
  | bool a, bool b => decidable_of_iff (a = b) (by simp)
  | number a, number b => decidable_of_iff (a = b) (by simp)
  | string a, string b => decidable_of_iff (a = b) (by simp)
  | list ts, list us => @decidable_of_iff _ (ts = us) (by simp) (decEqItems ts us)
  | table ms, table ns => @decidable_of_iff _ (ms = ns) (by simp) (decEqMembers ms ns)
  | null, bool _ | null, number _ | null, string _ | null, list _ | null, table _
  | bool _, null | bool _, number _ | bool _, string _ | bool _, list _ | bool _, table _
  | number _, null | number _, bool _ | number _, string _ | number _, list _ | number _, table _
  | string _, null | string _, bool _ | string _, number _ | string _, list _ | string _, table _
  | list _, null | list _, bool _ | list _, number _ | list _, string _ | list _, table _
  | table _, null | table _, bool _ | table _, number _ | table _, string _ | table _, list _ =>
    isFalse nofun

def decEqItems : (ts us : List Tree) → Decidable (ts = us)
  | [], [] => isTrue rfl
  | [], _ :: _ | _ :: _, [] => isFalse nofun
  | t :: ts, u :: us =>
    @decidable_of_iff _ (t = u ∧ ts = us) (by simp)
      (@instDecidableAnd _ _ (decEq t u) (decEqItems ts us))

def decEqMembers : (ms ns : List (List Piece × Tree)) → Decidable (ms = ns)
  | [], [] => isTrue rfl
  | [], _ :: _ | _ :: _, [] => isFalse nofun
  | (key, t) :: ms, (key', u) :: ns =>
    @decidable_of_iff _ (key = key' ∧ t = u ∧ ms = ns) (by simp [and_assoc])
      (@instDecidableAnd _ _ inferInstance (@instDecidableAnd _ _ (decEq t u) (decEqMembers ms ns)))

end

instance : DecidableEq Tree := decEq

end Tree

namespace Grammar

/-! ### Rules -/

/-- Digits that begin with a zero only if that is all. -/
def Whole (ds : List Char) : Prop := IsDigits ds ∧ ¬ (1 < ds.length ∧ ds.head? = some '0')

/-- The places of a number with the point before them. -/
inductive Places : List Glyph → Option (List Char) → Prop
  | absent : Places [] none
  | point {ds} (h : IsDigits ds) : Places (some '.' :: ds.map some) (some ds)

/-- The sign of an exponent: whether it is negative. -/
inductive Sign : List Glyph → Bool → Prop
  | absent : Sign [] false
  | positive : Sign [some '+'] false
  | negative : Sign [some '-'] true

/-- The exponent of a number with the mark before it. -/
inductive Exponent : List Glyph → Option (Bool × List Char) → Prop
  | absent : Exponent [] none
  | marked {mark sign negative ds} (hmark : mark = 'e' ∨ mark = 'E') (hsign : Sign sign negative)
    (h : IsDigits ds) : Exponent (some mark :: (sign ++ ds.map some)) (some (negative, ds))

inductive Number : List Glyph → NumberText → Prop
  | mk {places exponent : List Glyph} {n : NumberText} (hwhole : Whole n.whole)
    (hplaces : Places places n.places) (hexponent : Exponent exponent n.exponent) :
    Number ((if n.negative then [some '-'] else []) ++ (n.whole.map some ++ (places ++ exponent))) n

/-- One piece of a string. -/
inductive OnePiece : List Glyph → Piece → Prop
  | char {c} (hquote : c ≠ '"') (hslash : c ≠ '\\') (hprint : 0x20 ≤ c.toNat) :
    OnePiece [some c] (.char c)
  | escape {e c} (h : escape? e = some c) : OnePiece [some '\\', some e] (.char c)
  | unit {a b c d i j k l} (ha : hexValue? a = some i) (hb : hexValue? b = some j)
    (hc : hexValue? c = some k) (hd : hexValue? d = some l) :
    OnePiece [some '\\', some 'u', some a, some b, some c, some d]
      (.unit (((i * 16 + j) * 16 + k) * 16 + l))
  | hole : OnePiece [none] .hole

/-- The pieces of a string up to its closing quote. -/
inductive Pieces : List Glyph → List Piece → Prop
  | nil : Pieces [some '"'] []
  | cons {text more p ps} (hpiece : OnePiece text p) (hmore : Pieces more ps) :
    Pieces (text ++ more) (p :: ps)

/-- The name of a member with the colon behind it. -/
inductive Name : List Glyph → List Piece → Prop
  | mk {before key between ps} (hbefore : Blank before) (hkey : Pieces key ps)
    (hbetween : Blank between) : Name (before ++ some '"' :: (key ++ (between ++ [some ':']))) ps

mutual

/-- A value without blanks around it. -/
inductive Value : List Glyph → Tree → Prop
  | null : Value [some 'n', some 'u', some 'l', some 'l'] .null
  | true : Value [some 't', some 'r', some 'u', some 'e'] (.bool true)
  | false : Value [some 'f', some 'a', some 'l', some 's', some 'e'] (.bool false)
  | number {text n} (h : Number text n) : Value text (.number n)
  | string {text ps} (h : Pieces text ps) : Value (some '"' :: text) (.string ps)
  | emptyList {between} (h : Blank between) : Value (some '[' :: (between ++ [some ']'])) (.list [])
  | list {text ts} (h : Items text ts) : Value (some '[' :: text) (.list ts)
  | emptyTable {between} (h : Blank between) :
    Value (some '\x7b' :: (between ++ [some '\x7d'])) (.table [])
  | table {text ms} (h : Members text ms) : Value (some '\x7b' :: text) (.table ms)

/-- A value with blanks around it. -/
inductive Element : List Glyph → Tree → Prop
  | mk {before text after t} (hbefore : Blank before) (h : Value text t) (hafter : Blank after) :
    Element (before ++ (text ++ after)) t

/-- The items of a list up to its closing bracket. -/
inductive Items : List Glyph → List Tree → Prop
  | last {text t} (h : Element text t) : Items (text ++ [some ']']) [t]
  | cons {text more t ts} (h : Element text t) (hmore : Items more ts) :
    Items (text ++ some ',' :: more) (t :: ts)

/-- The members of a table up to its closing brace. -/
inductive Members : List Glyph → List (List Piece × Tree) → Prop
  | last {name text ps t} (hname : Name name ps) (h : Element text t) :
    Members (name ++ (text ++ [some '\x7d'])) [(ps, t)]
  | cons {name text more ps t ms} (hname : Name name ps) (h : Element text t)
    (hmore : Members more ms) : Members (name ++ (text ++ some ',' :: more)) ((ps, t) :: ms)

end

/-- A text of a tree is one value with blanks around it. -/
def Text (gs : List Glyph) (t : Tree) : Prop := Element gs t

/-! ### Numbers -/

theorem isDigit_iff {c : Char} : isDigit (some c) = true ↔ c.isDigit := by
  refine ⟨fun h => ?_, isDigit_of_isDigit⟩
  obtain ⟨d, hd⟩ := Option.isSome_iff_exists.mp h
  exact (Digits.isDigit_of_digitValue? hd).1

theorem eq_of_digits {gs rest : List Glyph} {ds : List Char} (h : digits gs = (ds, rest)) :
    gs = ds.map some ++ rest ∧ ∀ c ∈ ds, c.isDigit := by
  induction gs generalizing ds with
  | nil =>
    cases h
    exact ⟨rfl, List.forall_mem_nil _⟩
  | cons g more ih =>
    by_cases hg : isDigit g = true
    · obtain ⟨c, rfl⟩ : ∃ c, g = some c := by
        cases g with
        | none => cases hg
        | some c => exact ⟨c, rfl⟩
      have hdigits : digits (some c :: more) = (c :: (digits more).1, (digits more).2) := by
        simp [digits, hg]
      rw [hdigits] at h
      cases h
      obtain ⟨hmore, hall⟩ := ih (show digits more = ((digits more).1, (digits more).2) from rfl)
      refine ⟨?_, List.forall_mem_cons.mpr ⟨isDigit_iff.mp hg, hall⟩⟩
      rw [List.map_cons, List.cons_append, ← hmore]
    · simp only [digits, List.takeWhile_cons_of_neg hg, List.dropWhile_cons_of_neg hg,
        List.filterMap_nil, Prod.mk.injEq] at h
      obtain ⟨rfl, rfl⟩ := h
      exact ⟨rfl, List.forall_mem_nil _⟩

theorem someDigits?_map_some {ds : List Char} (h : IsDigits ds) :
    someDigits? (ds.map some) = some (ds, []) :=
  someDigits?_eq_some_iff.mpr ⟨digits_map_some h.2, h.1⟩

theorem eq_of_someDigits? {gs rest : List Glyph} {ds : List Char}
    (h : someDigits? gs = some (ds, rest)) : gs = ds.map some ++ rest ∧ IsDigits ds := by
  obtain ⟨hdigits, hne⟩ := someDigits?_eq_some_iff.mp h
  obtain ⟨hgs, hall⟩ := eq_of_digits hdigits
  exact ⟨hgs, hne, hall⟩

theorem head_of_isDigits {ds : List Char} (h : IsDigits ds) :
    ∃ g more, ds.map some = g :: more ∧ isDigit g = true := by
  obtain ⟨hne, hdigits⟩ := h
  cases ds with
  | nil => exact absurd rfl hne
  | cons c cs => exact ⟨some c, _, rfl, isDigit_iff.mpr (hdigits c List.mem_cons_self)⟩

theorem ne_of_isDigit {g : Glyph} (h : isDigit g = true) : g ≠ some '-' ∧ g ≠ some '+' := by
  constructor <;>
  · rintro rfl
    cases h

theorem Places.read {text : List Glyph} {places : Option (List Char)} (h : Places text places) :
    places? text = some (places, []) := by
  cases h with
  | absent => rfl
  | point h =>
    rw [places?_point, someDigits?_map_some h]
    rfl

theorem Places.noDigit {text rest : List Glyph} {places : Option (List Char)}
    (h : Places text places) (hrest : ∀ g ∈ rest.head?, isDigit g = false) :
    ∀ g ∈ (text ++ rest).head?, isDigit g = false := by
  cases h with
  | absent => exact hrest
  | point =>
    rintro g ⟨⟩
    rfl

theorem places_of_read {gs rest : List Glyph} {places : Option (List Char)}
    (h : places? gs = some (places, rest)) : ∃ text, gs = text ++ rest ∧ Places text places := by
  rw [places?.eq_def] at h
  split at h
  · obtain ⟨⟨ds, rest'⟩, hread, heq⟩ := Option.map_eq_some_iff.mp h
    cases heq
    obtain ⟨rfl, hdigits⟩ := eq_of_someDigits? hread
    exact ⟨_, rfl, .point hdigits⟩
  · cases h
    exact ⟨[], rfl, .absent⟩

theorem Sign.read {sign : List Glyph} {negative : Bool} (h : Sign sign negative) {ds : List Char}
    (hds : IsDigits ds) : anySign (sign ++ ds.map some) = (negative, ds.map some) := by
  cases h with
  | absent =>
    obtain ⟨g, more, heq, hg⟩ := head_of_isDigits hds
    rw [List.nil_append, heq]
    simp [anySign, minus, ne_of_isDigit hg]
  | positive => rfl
  | negative => rfl

theorem sign_of_read {gs rest : List Glyph} {negative : Bool} (h : anySign gs = (negative, rest)) :
    ∃ sign, gs = sign ++ rest ∧ Sign sign negative := by
  rw [anySign.eq_def] at h
  split at h
  · cases h
    exact ⟨[some '+'], rfl, .positive⟩
  · rw [minus.eq_def] at h
    split at h
    · cases h
      exact ⟨[some '-'], rfl, .negative⟩
    · cases h
      exact ⟨[], rfl, .absent⟩

theorem Exponent.read {text : List Glyph} {e : Option (Bool × List Char)} (h : Exponent text e) :
    exponent? text = some (e, []) := by
  cases h with
  | absent => rfl
  | marked hmark hsign h =>
    rw [exponent?_mark hmark, hsign.read h, someDigits?_map_some h]
    rfl

theorem Exponent.endsPlaces {text : List Glyph} {e : Option (Bool × List Char)}
    (h : Exponent text e) : ∀ g ∈ text.head?, isDigit g = false ∧ g ≠ some '.' := by
  cases h with
  | absent => nofun
  | marked hmark =>
    rintro g ⟨⟩
    rcases hmark with rfl | rfl <;> exact ⟨rfl, nofun⟩

theorem exponent_of_read {gs rest : List Glyph} {e : Option (Bool × List Char)}
    (h : exponent? gs = some (e, rest)) : ∃ text, gs = text ++ rest ∧ Exponent text e := by
  have hmarked {mark : Char} (hmark : mark = 'e' ∨ mark = 'E') {more : List Glyph}
      (h : exponent? (some mark :: more) = some (e, rest)) :
      ∃ text, some mark :: more = text ++ rest ∧ Exponent text e := by
    rw [exponent?_mark hmark] at h
    obtain ⟨⟨ds, rest'⟩, hread, heq⟩ := Option.map_eq_some_iff.mp h
    cases heq
    obtain ⟨hmore, hdigits⟩ := eq_of_someDigits? hread
    obtain ⟨sign, hsign, hgrammar⟩ := sign_of_read
      (show anySign more = ((anySign more).1, (anySign more).2) from rfl)
    refine ⟨some mark :: (sign ++ ds.map some), ?_, .marked hmark hgrammar hdigits⟩
    rw [List.cons_append, List.append_assoc, ← hmore, ← hsign]
  by_cases hhead : ∃ mark more, (mark = 'e' ∨ mark = 'E') ∧ gs = some mark :: more
  · obtain ⟨mark, more, hmark, rfl⟩ := hhead
    exact hmarked hmark h
  · rw [exponent?_absent] at h
    · cases h
      exact ⟨[], rfl, .absent⟩
    · intro g hg
      obtain ⟨more, rfl⟩ := List.head?_eq_some_iff.mp hg
      exact ⟨fun he => hhead ⟨'e', more, .inl rfl, by rw [he]⟩,
        fun hE => hhead ⟨'E', more, .inr rfl, by rw [hE]⟩⟩

theorem Number.read {text : List Glyph} {n : NumberText} (h : Number text n) :
    number? text = some (n, []) := by
  cases h with
  | @mk places exponent _ hwhole hplaces hexponent =>
    have hends := hexponent.endsPlaces
    have hsign : minus ((if n.negative then [some '-'] else []) ++
        (n.whole.map some ++ (places ++ exponent))) =
        (n.negative, n.whole.map some ++ (places ++ exponent)) := by
      cases n.negative with
      | true => rfl
      | false =>
        obtain ⟨g, more, heq, hg⟩ := head_of_isDigits hwhole.1
        simp only [Bool.false_eq_true, if_false, List.nil_append, heq, List.cons_append]
        exact minus_of_ne (ne_of_isDigit hg).1 _
    have hread := whole?_append (hplaces.noDigit fun g hg => (hends g hg).1)
      (whole?_eq_some_iff.mpr ⟨someDigits?_map_some hwhole.1, hwhole.2⟩)
    rw [number?_eq_some_iff, hsign]
    exact ⟨_, _, hread, places?_append hends hplaces.read, hexponent.read, rfl⟩

theorem number_of_read {gs rest : List Glyph} {n : NumberText} (h : number? gs = some (n, rest)) :
    ∃ text, gs = text ++ rest ∧ Number text n := by
  obtain ⟨r₁, r₂, hwhole, hplaces, hexponent, hnegative⟩ := number?_eq_some_iff.mp h
  obtain ⟨hread, hzero⟩ := whole?_eq_some_iff.mp hwhole
  obtain ⟨hgs, hdigits⟩ := eq_of_someDigits? hread
  obtain ⟨places, rfl, hp⟩ := places_of_read hplaces
  obtain ⟨exponent, rfl, he⟩ := exponent_of_read hexponent
  refine ⟨_, ?_, .mk ⟨hdigits, hzero⟩ hp he⟩
  rw [hnegative, List.append_assoc, List.append_assoc, List.append_assoc, ← hgs, minus.eq_def]
  split <;> rfl

/-! ### Strings -/

theorem OnePiece.read {text : List Glyph} {p : Piece} (h : OnePiece text p) (rest : List Glyph) :
    pieces? (text ++ rest) = (pieces? rest).map fun q => (p :: q.1, q.2) := by
  cases h with
  | char hquote hslash hprint =>
    rw [List.singleton_append, pieces?, if_neg (by omega)]
    all_goals simp [hquote, hslash]
  | @escape e c h =>
    have hu : e ≠ 'u' := by
      rintro rfl
      cases h
    simp only [List.cons_append, List.nil_append]
    rw [pieces?]
    · cases hrest : pieces? rest <;> simp [h]
    · simp [hu]
  | unit ha hb hc hd =>
    simp only [List.cons_append, List.nil_append]
    rw [pieces?]
    cases hrest : pieces? rest <;> simp [ha, hb, hc, hd]
  | hole => rfl

theorem Pieces.read {text : List Glyph} {ps : List Piece} (h : Pieces text ps) (rest : List Glyph) :
    pieces? (text ++ rest) = some (ps, rest) := by
  induction h with
  | nil => rfl
  | cons hpiece _ ih =>
    rw [List.append_assoc, hpiece.read, ih]
    rfl

theorem pieces_of_read {gs rest : List Glyph} {ps : List Piece} (h : pieces? gs = some (ps, rest)) :
    ∃ text, gs = text ++ rest ∧ Pieces text ps := by
  fun_induction pieces? gs generalizing ps rest with
  | case1 => cases h
  | case2 =>
    cases h
    exact ⟨_, rfl, .nil⟩
  | case3 a b c d more ih =>
    obtain ⟨i, ha, h⟩ := Option.bind_eq_some_iff.mp h
    obtain ⟨j, hb, h⟩ := Option.bind_eq_some_iff.mp h
    obtain ⟨k, hc, h⟩ := Option.bind_eq_some_iff.mp h
    obtain ⟨l, hd, h⟩ := Option.bind_eq_some_iff.mp h
    obtain ⟨⟨qs, rest'⟩, hmore, h⟩ := Option.bind_eq_some_iff.mp h
    cases h
    obtain ⟨text, rfl, hps⟩ := ih hmore
    exact ⟨_, rfl, .cons (.unit ha hb hc hd) hps⟩
  | case4 e more _ ih =>
    obtain ⟨c, hc, h⟩ := Option.bind_eq_some_iff.mp h
    obtain ⟨⟨qs, rest'⟩, hmore, h⟩ := Option.bind_eq_some_iff.mp h
    cases h
    obtain ⟨text, rfl, hps⟩ := ih hmore
    exact ⟨_, rfl, .cons (.escape hc) hps⟩
  | case5 => cases h
  | case6 => cases h
  | case7 c more hquote _ _ hslash hprint ih =>
    obtain ⟨⟨qs, rest'⟩, hmore, heq⟩ := Option.map_eq_some_iff.mp h
    cases heq
    obtain ⟨text, rfl, hps⟩ := ih hmore
    exact ⟨_, rfl, .cons (.char hquote hslash (by omega)) hps⟩
  | case8 more ih =>
    obtain ⟨⟨qs, rest'⟩, hmore, heq⟩ := Option.map_eq_some_iff.mp h
    cases heq
    obtain ⟨text, rfl, hps⟩ := ih hmore
    exact ⟨_, rfl, .cons .hole hps⟩

/-! ### Values are read -/

theorem Name.read {text : List Glyph} {ps : List Piece} (h : Name text ps) (rest : List Glyph) :
    ∃ key colon, skipBlank (text ++ rest) = some '"' :: key ∧ pieces? key = some (ps, colon) ∧
      skipBlank colon = some ':' :: rest := by
  cases h with
  | @mk before key between _ hbefore hkey hbetween =>
    refine ⟨key ++ (between ++ some ':' :: rest), between ++ some ':' :: rest, ?_, hkey.read _, ?_⟩
    · simp only [List.append_assoc, List.cons_append, List.nil_append]
      rw [skipBlank_append hbefore, skipBlank_cons rfl]
    · rw [skipBlank_append hbetween, skipBlank_cons rfl]

theorem Number.ne_nil {text : List Glyph} {n : NumberText} (h : Number text n) : text ≠ [] := by
  rintro rfl
  cases h.read

mutual

/-- A value is read wherever it stands. Its length is fuel enough, since every level of nesting takes
a glyph. -/
theorem Value.read {text rest : List Glyph} {t : Tree} {fuel : Nat} : Value text t →
    text.length ≤ fuel → EndsNumber rest → value? fuel (text ++ rest) = some (t, rest)
  | .null, hfuel, _ => by
    obtain ⟨fuel, rfl⟩ := Nat.exists_eq_add_one_of_ne_zero (Nat.ne_zero_of_lt hfuel)
    rfl
  | .true, hfuel, _ => by
    obtain ⟨fuel, rfl⟩ := Nat.exists_eq_add_one_of_ne_zero (Nat.ne_zero_of_lt hfuel)
    rfl
  | .false, hfuel, _ => by
    obtain ⟨fuel, rfl⟩ := Nat.exists_eq_add_one_of_ne_zero (Nat.ne_zero_of_lt hfuel)
    rfl
  | .number h, hfuel, hrest => by
    have hlength := List.length_pos_iff.mpr h.ne_nil
    obtain ⟨fuel, rfl⟩ := Nat.exists_eq_add_one_of_ne_zero (show fuel ≠ 0 by omega)
    exact value?_number (number?_append hrest h.read) fuel
  | .string h, hfuel, _ => by
    obtain ⟨fuel, rfl⟩ := Nat.exists_eq_add_one_of_ne_zero (Nat.ne_zero_of_lt hfuel)
    rw [List.cons_append]
    simp only [value?, skipBlank_cons (g := some '"') rfl, h.read, Option.map_some]
  | .emptyList h, hfuel, _ => by
    obtain ⟨fuel, rfl⟩ := Nat.exists_eq_add_one_of_ne_zero (Nat.ne_zero_of_lt hfuel)
    simp only [List.cons_append, List.append_assoc, List.nil_append, value?,
      skipBlank_cons (g := some '[') rfl, skipBlank_append h, skipBlank_cons (g := some ']') rfl]
  | .list h, hfuel, _ => by
    obtain ⟨fuel, rfl⟩ := Nat.exists_eq_add_one_of_ne_zero (Nat.ne_zero_of_lt hfuel)
    exact value?_list (h.read (Nat.le_of_succ_le_succ hfuel))
  | .emptyTable h, hfuel, _ => by
    obtain ⟨fuel, rfl⟩ := Nat.exists_eq_add_one_of_ne_zero (Nat.ne_zero_of_lt hfuel)
    simp only [List.cons_append, List.append_assoc, List.nil_append, value?,
      skipBlank_cons (g := some '\x7b') rfl, skipBlank_append h,
      skipBlank_cons (g := some '\x7d') rfl]
  | .table h, hfuel, _ => by
    obtain ⟨fuel, rfl⟩ := Nat.exists_eq_add_one_of_ne_zero (Nat.ne_zero_of_lt hfuel)
    exact value?_table (h.read (Nat.le_of_succ_le_succ hfuel))

theorem Element.read {text more : List Glyph} {g : Glyph} {t : Tree} (fuel : Nat) :
    Element text t → text.length ≤ fuel → isBlank g = false → EndsNumber (g :: more) →
      ∃ r, value? fuel (text ++ g :: more) = some (t, r) ∧ skipBlank r = g :: more
  | @Element.mk before text after t hbefore h hafter, hfuel, hblank, hends => by
    simp only [List.length_append] at hfuel
    have hread := h.read (show text.length ≤ fuel by omega) (endsNumber_blank hafter hends)
    refine ⟨after ++ g :: more, ?_, ?_⟩
    · rw [← value?_skipBlank, List.append_assoc, List.append_assoc, skipBlank_append hbefore,
        value?_skipBlank, hread]
    · rw [skipBlank_append hafter, skipBlank_cons hblank]

theorem Items.read {text rest : List Glyph} {ts : List Tree} {fuel : Nat} : Items text ts →
    text.length ≤ fuel → items? fuel (text ++ rest) = some (ts, rest)
  | .last h, hfuel => by
    simp only [List.length_append, List.length_singleton] at hfuel
    obtain ⟨fuel, rfl⟩ := Nat.exists_eq_add_one_of_ne_zero (show fuel ≠ 0 by omega)
    obtain ⟨r, hread, hclose⟩ := h.read fuel (g := some ']') (by omega) rfl
      (endsNumber_cons rfl nofun nofun nofun)
    rw [List.append_assoc]
    exact items?_last hread hclose
  | .cons h hmore, hfuel => by
    simp only [List.length_append, List.length_cons] at hfuel
    obtain ⟨fuel, rfl⟩ := Nat.exists_eq_add_one_of_ne_zero (show fuel ≠ 0 by omega)
    obtain ⟨r, hread, hcomma⟩ := h.read fuel (g := some ',') (by omega) rfl
      (endsNumber_cons rfl nofun nofun nofun)
    rw [List.append_assoc]
    exact items?_cons hread hcomma (hmore.read (by omega))

theorem Members.read {text rest : List Glyph} {ms : List (List Piece × Tree)} {fuel : Nat} :
    Members text ms → text.length ≤ fuel → members? fuel (text ++ rest) = some (ms, rest)
  | .last hname h, hfuel => by
    simp only [List.length_append, List.length_singleton] at hfuel
    obtain ⟨fuel, rfl⟩ := Nat.exists_eq_add_one_of_ne_zero (show fuel ≠ 0 by omega)
    obtain ⟨r, hread, hclose⟩ := h.read fuel (g := some '\x7d') (by omega) rfl
      (endsNumber_cons rfl nofun nofun nofun)
    rw [List.append_assoc, List.append_assoc]
    obtain ⟨key, colon, hquote, hkey, hcolon⟩ := hname.read _
    exact members?_last hquote hkey hcolon hread hclose
  | .cons hname h hmore, hfuel => by
    simp only [List.length_append, List.length_cons] at hfuel
    obtain ⟨fuel, rfl⟩ := Nat.exists_eq_add_one_of_ne_zero (show fuel ≠ 0 by omega)
    obtain ⟨r, hread, hcomma⟩ := h.read fuel (g := some ',') (by omega) rfl
      (endsNumber_cons rfl nofun nofun nofun)
    rw [List.append_assoc, List.append_assoc]
    obtain ⟨key, colon, hquote, hkey, hcolon⟩ := hname.read _
    exact members?_cons hquote hkey hcolon hread hcomma (hmore.read (by omega))

end

/-! ### What is read has a derivation -/

theorem blank_takeWhile (gs : List Glyph) : Blank (gs.takeWhile isBlank) :=
  fun _ hg => List.mem_takeWhile_imp hg

theorem takeWhile_append_skipBlank (gs : List Glyph) : gs.takeWhile isBlank ++ skipBlank gs = gs :=
  List.takeWhile_append_dropWhile

theorem exists_blank {gs r : List Glyph} (h : skipBlank gs = r) :
    ∃ bs, Blank bs ∧ gs = bs ++ r :=
  ⟨_, blank_takeWhile gs, by rw [← h, takeWhile_append_skipBlank]⟩

theorem name_of_read {gs key colon rest : List Glyph} {ps : List Piece}
    (hquote : skipBlank gs = some '"' :: key) (hkey : pieces? key = some (ps, colon))
    (hcolon : skipBlank colon = some ':' :: rest) : ∃ text, gs = text ++ rest ∧ Name text ps := by
  obtain ⟨before, hbefore, rfl⟩ := exists_blank hquote
  obtain ⟨text, rfl, hps⟩ := pieces_of_read hkey
  obtain ⟨between, hbetween, rfl⟩ := exists_blank hcolon
  exact ⟨_, by simp, .mk hbefore hps hbetween⟩

/-- What the reader of values owes the grammar with so much fuel. -/
def ValueDerives (fuel : Nat) : Prop :=
  ∀ {gs rest t}, value? fuel gs = some (t, rest) →
    ∃ before text, Blank before ∧ gs = before ++ (text ++ rest) ∧ Value text t

def ItemsDerive (fuel : Nat) : Prop :=
  ∀ {gs rest ts}, items? fuel gs = some (ts, rest) → ∃ text, gs = text ++ rest ∧ Items text ts

def MembersDerive (fuel : Nat) : Prop :=
  ∀ {gs rest ms}, members? fuel gs = some (ms, rest) → ∃ text, gs = text ++ rest ∧ Members text ms

variable {fuel : Nat} {gs rest : List Glyph}

theorem element_of_read (hvalue : ValueDerives fuel) {t : Tree} {r : List Glyph}
    (h : value? fuel gs = some (t, r)) (hrest : skipBlank r = rest) :
    ∃ text, gs = text ++ rest ∧ Element text t := by
  obtain ⟨before, text, hbefore, rfl, ht⟩ := hvalue h
  obtain ⟨after, hafter, rfl⟩ := exists_blank hrest
  exact ⟨_, by simp, .mk hbefore ht hafter⟩

theorem value_succ (hitems : ItemsDerive fuel) (hmembers : MembersDerive fuel) :
    ValueDerives (fuel + 1) := by
  intro gs rest t h
  refine ⟨gs.takeWhile isBlank, ?_⟩
  -- the rules begin behind the blanks
  suffices hvalue : ∃ text, skipBlank gs = text ++ rest ∧ Value text t by
    obtain ⟨text, heq, ht⟩ := hvalue
    exact ⟨text, blank_takeWhile gs, by rw [← heq, takeWhile_append_skipBlank], ht⟩
  rw [value?] at h
  split at h
  case h_1 heq =>
    cases h
    exact ⟨_, heq, .null⟩
  case h_2 heq =>
    cases h
    exact ⟨_, heq, .true⟩
  case h_3 heq =>
    cases h
    exact ⟨_, heq, .false⟩
  case h_4 more heq =>
    obtain ⟨⟨ps, rest'⟩, hps, hread⟩ := Option.map_eq_some_iff.mp h
    cases hread
    obtain ⟨text, rfl, hpieces⟩ := pieces_of_read hps
    exact ⟨_, heq, .string hpieces⟩
  case h_5 more heq =>
    split at h
    · next hclose =>
      cases h
      obtain ⟨between, hbetween, rfl⟩ := exists_blank hclose
      exact ⟨_, by simp [heq], .emptyList hbetween⟩
    · obtain ⟨⟨ts, rest'⟩, hts, hread⟩ := Option.map_eq_some_iff.mp h
      cases hread
      rw [items?_skipBlank] at hts
      obtain ⟨text, rfl, hderived⟩ := hitems hts
      exact ⟨_, heq, .list hderived⟩
  case h_6 more heq =>
    split at h
    · next hclose =>
      cases h
      obtain ⟨between, hbetween, rfl⟩ := exists_blank hclose
      exact ⟨_, by simp [heq], .emptyTable hbetween⟩
    · obtain ⟨⟨ms, rest'⟩, hms, hread⟩ := Option.map_eq_some_iff.mp h
      cases hread
      rw [members?_skipBlank] at hms
      obtain ⟨text, rfl, hderived⟩ := hmembers hms
      exact ⟨_, heq, .table hderived⟩
  case h_7 =>
    obtain ⟨⟨n, rest'⟩, hn, hread⟩ := Option.map_eq_some_iff.mp h
    cases hread
    obtain ⟨text, heq, hnumber⟩ := number_of_read hn
    exact ⟨text, heq, .number hnumber⟩

theorem items_succ (hvalue : ValueDerives fuel) (hitems : ItemsDerive fuel) :
    ItemsDerive (fuel + 1) := by
  intro gs rest ts h
  rw [items?] at h
  obtain ⟨⟨t, r⟩, ht, h⟩ := Option.bind_eq_some_iff.mp h
  dsimp only at h
  split at h
  · next hclose =>
    cases h
    obtain ⟨text, rfl, helement⟩ := element_of_read hvalue ht hclose
    exact ⟨_, by simp, .last helement⟩
  · next hcomma =>
    obtain ⟨⟨ts, rest'⟩, hts, h⟩ := Option.bind_eq_some_iff.mp h
    cases h
    obtain ⟨text, rfl, helement⟩ := element_of_read hvalue ht hcomma
    obtain ⟨more, rfl, hmore⟩ := hitems hts
    exact ⟨_, by simp, .cons helement hmore⟩
  · cases h

theorem members_succ (hvalue : ValueDerives fuel) (hmembers : MembersDerive fuel) :
    MembersDerive (fuel + 1) := by
  intro gs rest ms h
  rw [members?] at h
  split at h
  case h_2 => cases h
  next key hquote =>
  obtain ⟨⟨ps, colon⟩, hkey, h⟩ := Option.bind_eq_some_iff.mp h
  dsimp only at h
  split at h
  case h_2 => cases h
  next hcolon =>
  obtain ⟨⟨t, r⟩, ht, h⟩ := Option.bind_eq_some_iff.mp h
  obtain ⟨name, rfl, hname⟩ := name_of_read hquote hkey hcolon
  dsimp only at h
  split at h
  · next hclose =>
    cases h
    obtain ⟨text, rfl, helement⟩ := element_of_read hvalue ht hclose
    exact ⟨_, by simp, .last hname helement⟩
  · next hcomma =>
    obtain ⟨⟨ms, rest'⟩, hms, h⟩ := Option.bind_eq_some_iff.mp h
    cases h
    obtain ⟨text, rfl, helement⟩ := element_of_read hvalue ht hcomma
    obtain ⟨more, rfl, hmore⟩ := hmembers hms
    exact ⟨_, by simp, .cons hname helement hmore⟩
  · cases h

theorem derives (fuel : Nat) : ValueDerives fuel ∧ ItemsDerive fuel ∧ MembersDerive fuel := by
  induction fuel with
  | zero => exact ⟨nofun, nofun, nofun⟩
  | succ fuel ih =>
    obtain ⟨hvalue, hitems, hmembers⟩ := ih
    exact ⟨value_succ hitems hmembers, items_succ hvalue hitems, members_succ hvalue hmembers⟩

/-! ### Texts -/

theorem ofGlyphs?_eq_some_iff {t : Tree} : Tree.ofGlyphs? gs = some t ↔
    ∃ r, value? (gs.length + 1) gs = some (t, r) ∧ skipBlank r = [] := by
  constructor
  · intro h
    obtain ⟨⟨t', r⟩, hvalue, h⟩ := Option.bind_eq_some_iff.mp h
    dsimp only at h
    split at h
    · next hempty =>
      cases h
      exact ⟨r, hvalue, List.isEmpty_iff.mp hempty⟩
    · cases h
  · rintro ⟨r, hvalue, hempty⟩
    simp [Tree.ofGlyphs?, hvalue, hempty]

/-- The reader decides the grammar. -/
theorem text_iff {t : Tree} : Text gs t ↔ Tree.ofGlyphs? gs = some t := by
  rw [ofGlyphs?_eq_some_iff]
  constructor
  · rintro ⟨hbefore, h, hafter⟩
    next before text after =>
    have hfuel : text.length ≤ (before ++ (text ++ after)).length + 1 := by
      simp only [List.length_append]
      omega
    have hread := h.read hfuel (endsNumber_blank hafter (show EndsNumber [] from nofun))
    refine ⟨after, ?_, List.dropWhile_eq_nil_iff.mpr hafter⟩
    rw [List.append_nil] at hread
    rw [← value?_skipBlank, skipBlank_append hbefore, value?_skipBlank, hread]
  · rintro ⟨r, hvalue, hempty⟩
    obtain ⟨text, heq, h⟩ := element_of_read (derives _).1 hvalue hempty
    rwa [heq, List.append_nil]

/-- A text has one tree at most. -/
theorem Text.eq {t t' : Tree} (h : Text gs t) (h' : Text gs t') : t = t' :=
  Option.some.inj ((text_iff.mp h).symm.trans (text_iff.mp h'))

instance (gs : List Glyph) (t : Tree) : Decidable (Text gs t) := decidable_of_iff _ text_iff.symm

example : Text (textGlyphs " [ 1, \"\\u0031\" ] ")
    (.list [.number ⟨false, ['1'], none, none⟩, .string [.unit 0x31]]) := by decide +kernel

end Grammar

end RowScript.Json
