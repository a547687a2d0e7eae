import Mathlib.Data.List.TakeWhile
import RowScript.Json.Tree
import RowScript.Json.Write
import RowScript.Proofs.Numerals

/-!
# Numbers and strings in JSON texts

Numbers and strings are read back from the texts that they are written as. The reader of a number stops
where the number ends (`number?_append`), and it reads an integer by its digits (`number?_int`). The text
of a float is only known to be a number with places or an exponent; that it is read as the same float is
what `ReadsBack` says. A string is read character by character as it was escaped (`pieces?_escaped`).
-/

namespace RowScript.Json

/-! ### Numbers -/

/-- What stands here is no part of a number. -/
def EndsNumber (rest : List Glyph) : Prop :=
  ∀ g ∈ rest.head?, isDigit g = false ∧ g ≠ some '.' ∧ g ≠ some 'e' ∧ g ≠ some 'E'

theorem endsNumber_cons {g : Glyph} {rest : List Glyph} (hdigit : isDigit g = false)
    (hpoint : g ≠ some '.') (he : g ≠ some 'e') (hE : g ≠ some 'E') : EndsNumber (g :: rest) := by
  rintro g' ⟨⟩
  exact ⟨hdigit, hpoint, he, hE⟩

section Behind

variable {gs rest r : List Glyph} {ds : List Char}

theorem digits_append (h : ∀ g ∈ rest.head?, isDigit g = false) :
    digits (gs ++ rest) = ((digits gs).1, (digits gs).2 ++ rest) := by
  induction gs with
  | nil =>
    cases rest with
    | nil => rfl
    | cons g more => simp [digits, h g rfl]
  | cons g more ih =>
    simp only [digits, Prod.mk.injEq] at ih
    by_cases hg : isDigit g
    · simp only [digits, List.cons_append, List.takeWhile_cons_of_pos hg,
        List.dropWhile_cons_of_pos hg, List.filterMap_cons, ih]
    · simp [digits, hg]

theorem someDigits?_eq_some_iff :
    someDigits? gs = some (ds, r) ↔ digits gs = (ds, r) ∧ ds ≠ [] := by
  rw [someDigits?]
  rcases digits gs with ⟨ds', r'⟩
  cases ds' <;> simp +contextual [Prod.ext_iff, eq_comm]

theorem someDigits?_append (h : ∀ g ∈ rest.head?, isDigit g = false)
    (hread : someDigits? gs = some (ds, r)) :
    someDigits? (gs ++ rest) = some (ds, r ++ rest) := by
  rw [someDigits?_eq_some_iff] at hread ⊢
  rw [digits_append h, hread.1]
  exact ⟨rfl, hread.2⟩

theorem whole?_eq_some_iff : whole? gs = some (ds, r) ↔
    someDigits? gs = some (ds, r) ∧ ¬ (1 < ds.length ∧ ds.head? = some '0') := by
  rw [whole?]
  cases someDigits? gs with
  | none => simp
  | some p =>
    obtain ⟨ds', r'⟩ := p
    simp only [Option.bind_eq_bind, Option.bind_some]
    constructor
    · intro hread
      split at hread
      · cases hread
      · next hzero =>
        cases hread
        exact ⟨rfl, by simpa using hzero⟩
    · rintro ⟨heq, hzero⟩
      cases heq
      exact if_neg (by simpa using hzero)

theorem whole?_append (h : ∀ g ∈ rest.head?, isDigit g = false)
    (hread : whole? gs = some (ds, r)) :
    whole? (gs ++ rest) = some (ds, r ++ rest) := by
  rw [whole?_eq_some_iff] at hread ⊢
  exact ⟨someDigits?_append h hread.1, hread.2⟩

theorem places?_point (more : List Glyph) :
    places? (some '.' :: more) = (someDigits? more).map fun (ds, r) => (some ds, r) := rfl

theorem places?_absent (h : ∀ g ∈ gs.head?, g ≠ some '.') : places? gs = some (none, gs) := by
  rw [places?]
  rintro more rfl
  exact h _ rfl rfl

theorem places?_append (h : ∀ g ∈ rest.head?, isDigit g = false ∧ g ≠ some '.')
    {places : Option (List Char)} (hread : places? gs = some (places, r)) :
    places? (gs ++ rest) = some (places, r ++ rest) := by
  by_cases hpoint : ∃ more, gs = some '.' :: more
  · obtain ⟨more, rfl⟩ := hpoint
    rw [places?_point] at hread
    obtain ⟨⟨ds, r'⟩, hdigits, heq⟩ := Option.map_eq_some_iff.mp hread
    cases heq
    rw [List.cons_append, places?_point, someDigits?_append (fun g hg => (h g hg).1) hdigits]
    rfl
  · have habsent : ∀ g ∈ gs.head?, g ≠ some '.' := by
      rintro g hg rfl
      exact hpoint (List.head?_eq_some_iff.mp hg)
    rw [places?_absent habsent] at hread
    cases hread
    refine places?_absent fun g hg => ?_
    cases gs with
    | nil => exact (h g hg).2
    | cons g' more => exact habsent g hg

theorem places?_eq_none (hread : places? gs = some (none, r)) : r = gs := by
  rw [places?.eq_def] at hread
  split at hread
  · simp at hread
  · cases hread
    rfl

theorem minus_of_ne {g : Glyph} (hg : g ≠ some '-') (more : List Glyph) :
    minus (g :: more) = (false, g :: more) := by
  simp [minus, hg]

theorem minus_append (hne : gs ≠ []) :
    minus (gs ++ rest) = ((minus gs).1, (minus gs).2 ++ rest) := by
  cases gs with
  | nil => exact absurd rfl hne
  | cons g more =>
    by_cases hg : g = some '-'
    · subst hg; rfl
    · rw [minus_of_ne hg, List.cons_append, minus_of_ne hg]

theorem anySign_append (hne : gs ≠ []) :
    anySign (gs ++ rest) = ((anySign gs).1, (anySign gs).2 ++ rest) := by
  cases gs with
  | nil => exact absurd rfl hne
  | cons g more =>
    by_cases hg : g = some '+'
    · subst hg; rfl
    · have hminus : minus (g :: more ++ rest) =
          ((minus (g :: more)).1, (minus (g :: more)).2 ++ rest) := minus_append (by simp)
      simpa [anySign, hg] using hminus

theorem exponent?_mark {c : Char} (hc : c = 'e' ∨ c = 'E') (more : List Glyph) :
    exponent? (some c :: more) =
      (someDigits? (anySign more).2).map fun (ds, r) => (some ((anySign more).1, ds), r) := by
  rcases hc with rfl | rfl <;> rfl

theorem exponent?_absent (h : ∀ g ∈ gs.head?, g ≠ some 'e' ∧ g ≠ some 'E') :
    exponent? gs = some (none, gs) := by
  rw [exponent?]
  · rintro more rfl
    exact (h _ rfl).1 rfl
  · rintro more rfl
    exact (h _ rfl).2 rfl

theorem exponent?_append (h : EndsNumber rest) {exponent : Option (Bool × List Char)}
    (hread : exponent? gs = some (exponent, r)) :
    exponent? (gs ++ rest) = some (exponent, r ++ rest) := by
  by_cases hmark : ∃ c more, (c = 'e' ∨ c = 'E') ∧ gs = some c :: more
  · obtain ⟨c, more, hc, rfl⟩ := hmark
    rw [exponent?_mark hc] at hread
    obtain ⟨⟨ds, r'⟩, hdigits, heq⟩ := Option.map_eq_some_iff.mp hread
    cases heq
    have hne : more ≠ [] := by
      rintro rfl
      cases hdigits
    rw [List.cons_append, exponent?_mark hc, anySign_append hne,
      someDigits?_append (fun g hg => (h g hg).1) hdigits]
    rfl
  · have habsent : ∀ g ∈ gs.head?, g ≠ some 'e' ∧ g ≠ some 'E' := by
      intro g hg
      obtain ⟨more, rfl⟩ := List.head?_eq_some_iff.mp hg
      exact ⟨fun he => hmark ⟨'e', more, .inl rfl, by rw [he]⟩,
        fun hE => hmark ⟨'E', more, .inr rfl, by rw [hE]⟩⟩
    rw [exponent?_absent habsent] at hread
    cases hread
    refine exponent?_absent fun g hg => ?_
    cases gs with
    | nil => exact (h g hg).2.2
    | cons g' more => exact habsent g hg

theorem exponent?_eq_none (hread : exponent? gs = some (none, r)) : r = gs := by
  rw [exponent?.eq_def] at hread
  split at hread
  · simp at hread
  · simp at hread
  · cases hread
    rfl

theorem number?_eq_some_iff {t : NumberText} : number? gs = some (t, r) ↔
    ∃ r₁ r₂, whole? (minus gs).2 = some (t.whole, r₁) ∧ places? r₁ = some (t.places, r₂) ∧
      exponent? r₂ = some (t.exponent, r) ∧ t.negative = (minus gs).1 := by
  constructor
  · intro hread
    obtain ⟨⟨whole, r₁⟩, hwhole, hread⟩ := Option.bind_eq_some_iff.mp hread
    obtain ⟨⟨places, r₂⟩, hplaces, hread⟩ := Option.bind_eq_some_iff.mp hread
    obtain ⟨⟨exponent, r₃⟩, hexponent, hread⟩ := Option.bind_eq_some_iff.mp hread
    cases hread
    exact ⟨r₁, r₂, hwhole, hplaces, hexponent, rfl⟩
  · rintro ⟨r₁, r₂, hwhole, hplaces, hexponent, hnegative⟩
    simp [number?, hwhole, hplaces, hexponent, ← hnegative]

theorem number?_append (h : EndsNumber rest) {t : NumberText} (hread : number? gs = some (t, r)) :
    number? (gs ++ rest) = some (t, r ++ rest) := by
  obtain ⟨r₁, r₂, hwhole, hplaces, hexponent, hnegative⟩ := number?_eq_some_iff.mp hread
  have hne : gs ≠ [] := by
    rintro rfl
    cases hwhole
  rw [number?_eq_some_iff, minus_append hne]
  exact ⟨_, _, whole?_append (fun g hg => (h g hg).1) hwhole,
    places?_append (fun g hg => ⟨(h g hg).1, (h g hg).2.1⟩) hplaces,
    exponent?_append h hexponent, hnegative⟩

theorem mem_of_number? {t : NumberText} (hread : number? gs = some (t, []))
    (hplaces : t.places = none) (hexponent : t.exponent = none) :
    ∀ g ∈ gs, g = some '-' ∨ isDigit g = true := by
  obtain ⟨r₁, r₂, hwhole, hp, he, -⟩ := number?_eq_some_iff.mp hread
  rw [hplaces] at hp
  rw [hexponent] at he
  obtain rfl := places?_eq_none hp
  obtain rfl := exponent?_eq_none he
  have hdigits := (someDigits?_eq_some_iff.mp (whole?_eq_some_iff.mp hwhole).1).1
  have hall : ∀ g ∈ (minus gs).2, isDigit g = true :=
    List.dropWhile_eq_nil_iff.mp (congrArg Prod.snd hdigits)
  intro g hg
  by_cases hminus : ∃ more, gs = some '-' :: more
  · obtain ⟨more, rfl⟩ := hminus
    exact (List.mem_cons.mp hg).imp_right (hall g)
  · rw [minus] at hall
    · exact .inr (hall g hg)
    · exact fun more heq => hminus ⟨more, heq⟩

theorem head_of_number? {t : NumberText} (hread : number? gs = some (t, r)) :
    ∃ g more, gs = g :: more ∧ (g = some '-' ∨ isDigit g = true) := by
  obtain ⟨r₁, r₂, hwhole, -, -, -⟩ := number?_eq_some_iff.mp hread
  obtain ⟨hdigits, hne⟩ := someDigits?_eq_some_iff.mp (whole?_eq_some_iff.mp hwhole).1
  cases gs with
  | nil => cases hwhole
  | cons g more =>
    refine ⟨g, more, rfl, ?_⟩
    by_cases hg : g = some '-'
    · exact .inl hg
    · refine .inr (Decidable.byContradiction fun hnot => hne ?_)
      rw [minus_of_ne hg, digits, List.takeWhile_cons_of_neg hnot] at hdigits
      exact (congrArg Prod.fst hdigits).symm

end Behind

theorem isDigit_of_isDigit {c : Char} (h : c.isDigit) : isDigit (some c) = true := by
  simp [isDigit, digitValue?_of_isDigit h]

theorem digits_map_some {ds : List Char} (h : ∀ c ∈ ds, c.isDigit) :
    digits (ds.map some) = (ds, []) := by
  have hall : ∀ g ∈ ds.map some, isDigit g = true := by
    intro g hg
    obtain ⟨c, hc, rfl⟩ := List.mem_map.mp hg
    exact isDigit_of_isDigit (h c hc)
  rw [digits, List.takeWhile_eq_self_iff.mpr hall, List.dropWhile_eq_nil_iff.mpr hall]
  simp

theorem whole?_toDigits (n : Nat) :
    whole? ((Nat.toDigits 10 n).map some) = some (Nat.toDigits 10 n, []) := by
  rw [whole?_eq_some_iff, someDigits?_eq_some_iff]
  refine ⟨⟨digits_map_some Digits.isDigit_of_mem_toDigits, Nat.toDigits_ne_nil⟩, ?_⟩
  rintro ⟨hlong, hzero⟩
  rcases Nat.eq_zero_or_pos n with rfl | hpos
  · simp at hlong
  · exact Digits.head?_toDigits hpos hzero

theorem number?_int (n : Int) : number? (textGlyphs (toString n)) =
    some (⟨decide (n < 0), Nat.toDigits 10 n.natAbs, none, none⟩, []) := by
  rw [number?_eq_some_iff, textGlyphs, toList_toString_int]
  split
  · next hneg => exact ⟨[], [], whole?_toDigits _, rfl, rfl, by simpa [minus] using hneg⟩
  · next hneg =>
    have hminus : minus ((Nat.toDigits 10 n.natAbs).map some) =
        (false, (Nat.toDigits 10 n.natAbs).map some) := by
      have hdigits := Digits.isDigit_of_mem_toDigits (n := n.natAbs)
      rcases hds : Nat.toDigits 10 n.natAbs with _ | ⟨c, ds⟩
      · rfl
      · refine minus_of_ne ?_ _
        rintro ⟨⟩
        exact absurd (hdigits '-' (by simp [hds])) (by decide)
    rw [hminus]
    exact ⟨[], [], whole?_toDigits _, rfl, rfl, by simpa using hneg⟩

/-- An integer is the document of its text if 64 bits hold it, with a sign or without. -/
theorem document?_int {n : Int} (hlo : -(Nat.pow 2 63 : Int) ≤ n) (hhi : n < Nat.pow 2 64) :
    NumberText.document? ⟨decide (n < 0), Nat.toDigits 10 n.natAbs, none, none⟩ = some (.int n) := by
  have hvalue := Digits.value_toDigits n.natAbs
  have hsize : n = if n < 0 then -(n.natAbs : Int) else n.natAbs := by omega
  generalize n.natAbs = m at *
  by_cases hneg : n < 0
  · rw [if_pos hneg] at hsize
    have hrange : 0 < m ∧ m ≤ Nat.pow 2 63 := by omega
    simp [NumberText.document?, hvalue, hneg, hrange, ← hsize]
  · rw [if_neg hneg] at hsize
    have hrange : m < Nat.pow 2 64 := by omega
    simp [NumberText.document?, hvalue, hneg, hrange, ← hsize]

/-! ### Floats -/

/-- The float that a text means which is one number. -/
def floatOfText? (s : String) : Option Float := do
  let (t, rest) ← number? (textGlyphs s)
  if rest.isEmpty then t.float? else none

/-- The text of a float is read as the same float. The text `null` of infinities and of what is not a
number is not read as a float. -/
def ReadsBack (x : Float) : Prop := floatOfText? (floatText x) = some x

instance (x : Float) : Decidable (ReadsBack x) :=
  inferInstanceAs (Decidable (floatOfText? (floatText x) = some x))

theorem ReadsBack.number {x : Float} (h : ReadsBack x) :
    ∃ t, number? (textGlyphs (floatText x)) = some (t, []) ∧ t.float? = some x := by
  obtain ⟨⟨t, rest⟩, hnumber, hfloat⟩ := Option.bind_eq_some_iff.mp h
  cases rest with
  | nil => exact ⟨t, hnumber, hfloat⟩
  | cons g more => cases hfloat

theorem ReadsBack.finite {x : Float} (h : ReadsBack x) :
    ∃ negative mantissa exponent, Binary64.ofFloat x = .finite negative mantissa exponent := by
  cases hx : Binary64.ofFloat x with
  | finite negative mantissa exponent => exact ⟨negative, mantissa, exponent, rfl⟩
  | nan | infinite negative =>
    have hnull : floatText x = "null" := by rw [floatText, hx]
    rw [ReadsBack, hnull] at h
    cases h

-- digits that are scaled once by a power of ten need not come out at the nearest float
example : ReadsBack 1e-7 ∧ ReadsBack (-0.0) ∧ ¬ ReadsBack 3.335153811523368e255 := by decide +kernel

theorem point_mem_positionalText (d : Decimal.Scaled) :
    '.' ∈ (FloatLayout.positionalText d).toList := by
  simp only [FloatLayout.positionalText]
  split_ifs <;> simp

theorem mark_mem_exponentText (plus : Bool) (d : Decimal.Scaled) :
    'e' ∈ (FloatLayout.exponentText plus d).toList := by
  simp [FloatLayout.exponentText]

theorem mark_mem_floatText {x : Float} (h : ReadsBack x) :
    '.' ∈ (floatText x).toList ∨ 'e' ∈ (floatText x).toList := by
  obtain ⟨negative, mantissa, exponent, hx⟩ := h.finite
  simp only [floatText, FloatLayout.render, hx]
  split
  · simp
  · by_cases hpositional : FloatLayout.json.positional x = true
    · exact .inl (by simp [hpositional, point_mem_positionalText])
    · exact .inr (by simp [hpositional, mark_mem_exponentText])

/-- The number that a float is written as means the float, not an integer. -/
theorem ReadsBack.document {x : Float} (h : ReadsBack x) :
    ∃ t, number? (textGlyphs (floatText x)) = some (t, []) ∧ t.document? = some (.float x) := by
  obtain ⟨t, hnumber, hfloat⟩ := h.number
  refine ⟨t, hnumber, ?_⟩
  have hmark : ¬ (t.places = none ∧ t.exponent = none) := by
    rintro ⟨hplaces, hexponent⟩
    have hmem := mem_of_number? hnumber hplaces hexponent
    rcases mark_mem_floatText h with hpoint | he
    · simpa [isDigit, digitValue?] using hmem (some '.') (List.mem_map_of_mem hpoint)
    · simpa [isDigit, digitValue?] using hmem (some 'e') (List.mem_map_of_mem he)
  have hsome : (t.places.isNone && t.exponent.isNone) = false :=
    Bool.eq_false_iff.mpr fun hboth => hmark (by simpa using hboth)
  simp [NumberText.document?, hfloat, hsome]

/-! ### Strings -/

/-- A text that is read as one piece of a string, which means a character. -/
def Escapes (text : String) (c : Char) : Prop :=
  ∃ p : Piece, (∀ ps, textOf? (p :: ps) = (textOf? ps).map (c :: ·)) ∧
    ∀ rest, pieces? (textGlyphs text ++ rest) = (pieces? rest).map fun q => (p :: q.1, q.2)

theorem escapes_self {c : Char} (hquote : c ≠ '"') (hslash : c ≠ '\\') (hprint : 32 ≤ c.toNat) :
    Escapes (String.singleton c) c := by
  refine ⟨.char c, fun ps => rfl, fun rest => ?_⟩
  have htext : textGlyphs (String.singleton c) = [some c] := by simp [textGlyphs]
  rw [htext, List.singleton_append, pieces?, if_neg (by omega)]
  all_goals simp [hquote, hslash]

theorem escapes_short {text : String} {e c : Char} (htext : textGlyphs text = [some '\\', some e])
    (h : escape? e = some c) : Escapes text c := by
  refine ⟨.char c, fun ps => rfl, fun rest => ?_⟩
  have hu : e ≠ 'u' := by
    rintro rfl
    cases h
  simp only [htext, List.cons_append, List.nil_append]
  rw [pieces?]
  · cases hrest : pieces? rest <;> simp [h]
  · simp [hu]

theorem toDigits_of_control : ∀ n < 32,
    (Nat.toDigits 16 (0x10000 + n)).drop 1 = ['0', '0', (n / 16).digitChar, (n % 16).digitChar] := by
  decide +kernel

theorem hexValue?_digitChar : ∀ d < 16, hexValue? d.digitChar = some d := by decide

theorem escapes_control {c : Char} (h : c.toNat < 32) :
    Escapes ("\\u" ++ String.ofList ((Nat.toDigits 16 (0x10000 + c.toNat)).drop 1)) c := by
  refine ⟨.unit c.toNat, fun ps => ?_, fun rest => ?_⟩
  · rw [textOf?.eq_def]
    simp [show c.toNat < 0xD800 by omega]
  · have hzero : hexValue? '0' = some 0 := rfl
    have hhigh := hexValue?_digitChar _ (show c.toNat / 16 < 16 by omega)
    have hlow := hexValue?_digitChar _ (show c.toNat % 16 < 16 by omega)
    simp only [textGlyphs, String.toList_append, String.toList_ofList, toDigits_of_control _ h]
    show pieces? (some '\\' :: some 'u' :: some '0' :: some '0' :: some _ :: some _ :: rest) = _
    rw [pieces?]
    cases hrest : pieces? rest <;> simp [hzero, hhigh, hlow, Nat.div_add_mod' c.toNat 16]

theorem escapes_escapeChar (c : Char) : Escapes (escapeChar c) c := by
  unfold escapeChar
  split_ifs with hquote hslash hn hr ht hb hf hcontrol
  · rw [eq_of_beq hquote]
    exact escapes_short rfl rfl
  · rw [eq_of_beq hslash]
    exact escapes_short rfl rfl
  · rw [eq_of_beq hn]
    exact escapes_short rfl rfl
  · rw [eq_of_beq hr]
    exact escapes_short rfl rfl
  · rw [eq_of_beq ht]
    exact escapes_short rfl rfl
  · rw [show c = '\x08' from Char.toNat_inj.mp (eq_of_beq hb)]
    exact escapes_short rfl rfl
  · rw [show c = '\x0c' from Char.toNat_inj.mp (eq_of_beq hf)]
    exact escapes_short rfl rfl
  · exact escapes_control hcontrol
  · exact escapes_self (by simpa using hquote) (by simpa using hslash) (by omega)

/-- The characters between the quotes of a string are read as pieces that mean the string. -/
theorem pieces?_escaped (cs : List Char) : ∃ ps : List Piece, textOf? ps = some cs ∧
    ∀ rest, pieces? (cs.flatMap (fun c => textGlyphs (escapeChar c)) ++ some '"' :: rest) =
      some (ps, rest) := by
  induction cs with
  | nil => exact ⟨[], rfl, fun rest => rfl⟩
  | cons c cs ih =>
    obtain ⟨p, hp, hread⟩ := escapes_escapeChar c
    obtain ⟨ps, hps, hmore⟩ := ih
    refine ⟨p :: ps, by rw [hp, hps]; rfl, fun rest => ?_⟩
    rw [List.flatMap_cons, List.append_assoc, hread, hmore]
    rfl

theorem textGlyphs_stringText (s : String) : textGlyphs (stringText s) =
    some '"' :: (s.toList.flatMap (fun c => textGlyphs (escapeChar c)) ++ [some '"']) := by
  simp [textGlyphs, stringText, String.toList_join, List.flatMap_map, List.map_flatMap]

end RowScript.Json
