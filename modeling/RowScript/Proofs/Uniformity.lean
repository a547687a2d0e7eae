import RowScript.Proofs.Handles

/-!
# Operators and built-ins do not see the numbers of handles

What an operator or a built-in function makes of moved values is what it makes of the values, moved
(`binary?_move`, `plainBuiltin?_move`). Handles cannot be compared, printed or put in order, so a result
can hold a handle but cannot tell which one it was.

Built-in functions are found by name and by the kinds of their arguments. A relocation keeps the kinds,
so it keeps what is found; a relocation that can be undone also keeps what is not found.
-/

namespace RowScript.Script

variable {ρ : Relocation}

/-! ### Operators -/

instance : Movable Float := ⟨fun _ x => x⟩
instance : Movable.Fixed Float := ⟨fun _ _ => rfl⟩

theorem move_computed_map {α β : Type} [Movable α] [Movable β] {f g : α → β} (r : Computed α)
    (h : ∀ a, move ρ (f a) = g (move ρ a)) : move ρ (r.map f) = (move ρ r).map g := by
  cases r with
  | ok a => exact congrArg Except.ok (h a)
  | error c => rfl

/-- Values for which no other rule holds are not equal, and those of one kind cannot be compared. -/
theorem unlike_move (a b : Datum) :
    (if (move ρ a).sameKind (move ρ b) then
        .error (.functionNotFound (Datum.signature "==" [move ρ a, move ρ b]))
      else .ok false : Computed Bool) =
    move ρ (if a.sameKind b then .error (.functionNotFound (Datum.signature "==" [a, b]))
      else .ok false) := by
  have signature : Datum.signature "==" [move ρ a, move ρ b] = Datum.signature "==" [a, b] :=
    Datum.signature_move "==" [a, b]
  rw [Datum.sameKind_move, signature]
  split <;> rfl

mutual

theorem equals_move (a b : Datum) : (move ρ a).equals (move ρ b) = move ρ (a.equals b) := by
  have unlike := unlike_move (ρ := ρ) a b
  cases a with
  | array as =>
    cases b with
    | array bs =>
      have items := equalItems_move as bs
      simp only [move_array, Datum.equals, length_move]
      split
      · exact items
      · rfl
    | _ => exact unlike
  | map as =>
    cases b with
    | map bs =>
      have entries := equalEntries_move as bs
      simp only [move_map, Datum.equals, entries_length_move]
      split
      · exact entries
      · rfl
    | _ => exact unlike
  | range x y closed =>
    cases b with
    | range x' y' closed' =>
      simp only [move_range, Datum.equals]
      split <;> rfl
    | _ => exact unlike
  | _ =>
    cases b with
    | range x y closed => exact unlike
    | _ => rfl

theorem equalItems_move (as bs : List Datum) :
    Datum.equalItems (move ρ as) (move ρ bs) = move ρ (Datum.equalItems as bs) := by
  cases as with
  | nil => rfl
  | cons a as =>
    cases bs with
    | nil => rfl
    | cons b bs =>
      have first := equals_move a b
      have rest := equalItems_move as bs
      simp only [move_cons, Datum.equalItems, first]
      cases a.equals b with
      | error c => rfl
      | ok same =>
        cases same with
        | true => exact rest
        | false => rfl

theorem equalEntries_move (as bs : List (String × Datum)) :
    Datum.equalEntries (move ρ as) (move ρ bs) = move ρ (Datum.equalEntries as bs) := by
  cases as with
  | nil => rfl
  | cons p as =>
    obtain ⟨k, a⟩ := p
    have rest := equalEntries_move as bs
    simp only [move_entries_cons, Datum.equalEntries, ← move_lookup]
    cases bs.lookup k with
    | none => rfl
    | some b =>
      have first := equals_move a b
      simp only [move_some, first]
      cases a.equals b with
      | error c => rfl
      | ok same =>
        cases same with
        | true => exact rest
        | false => rfl

end

namespace Integer

theorem move_checked (n : Int) (what : String) : move ρ (checked n what) = checked n what := by
  unfold checked
  split <;> rfl

theorem move_negate (n : Int64) : move ρ (negate n) = negate n := move_checked _ _

theorem move_div (a b : Int64) : move ρ (div a b) = div a b := by
  unfold div
  split
  · rfl
  · exact move_checked _ _

theorem move_mod (a b : Int64) : move ρ (mod a b) = mod a b := by
  unfold mod
  split <;> rfl

theorem move_pow (a b : Int64) : move ρ (pow a b) = pow a b := by
  unfold pow
  repeat' split
  all_goals first | rfl | exact move_checked _ _

end Integer

namespace BinaryOp

theorem move_onInts (op : BinaryOp) (a b : Int64) : move ρ (onInts op a b) = onInts op a b := by
  have int {r : Computed Int64} (h : move ρ r = r) : move ρ (some (r.map Datum.int)) =
      some (r.map Datum.int) := by
    rw [move_some, move_computed_map (g := Datum.int) r fun _ => rfl, h]
  cases op with
  | add => exact int (Integer.move_checked _ _)
  | sub => exact int (Integer.move_checked _ _)
  | mul => exact int (Integer.move_checked _ _)
  | div => exact int (Integer.move_div _ _)
  | mod => exact int (Integer.move_mod _ _)
  | pow => exact int (Integer.move_pow _ _)
  | _ => rfl

theorem move_onFloats (op : BinaryOp) (a b : Float) :
    move ρ (onFloats op a b) = onFloats op a b := by
  cases op <;> rfl

theorem move_onBools (op : BinaryOp) (a b : Bool) : move ρ (onBools op a b) = onBools op a b := by
  cases op <;> rfl

theorem move_onTexts (op : BinaryOp) (a b : String) :
    move ρ (onTexts op a b) = onTexts op a b := by
  cases op <;> rfl

theorem joined_move (a b : Datum) : joined (move ρ a) (move ρ b) = move ρ (joined a b) := by
  rw [joined, joined, Datum.printText_move, Datum.printText_move]
  rfl

theorem move_ofEquality (op : BinaryOp) (r : Computed Bool) :
    ofEquality op (move ρ r) = move ρ (ofEquality op r) := by
  cases op <;> cases r <;> rfl

theorem onOthers_move (op : BinaryOp) (a b : Datum) :
    onOthers op (move ρ a) (move ρ b) = move ρ (onOthers op a b) := by
  rw [onOthers, onOthers, Datum.sameKind_move]
  split <;> rfl

theorem onText_move (op : BinaryOp) (a b : Datum) :
    (if op == add then joined (move ρ a) (move ρ b) else onOthers op (move ρ a) (move ρ b)) =
      move ρ (if op == add then joined a b else onOthers op a b) := by
  split
  · exact joined_move a b
  · exact onOthers_move op a b

end BinaryOp

open BinaryOp in
/-- Operators make of moved operands what they make of the operands, moved. -/
theorem binary?_move (op : BinaryOp) (a b : Datum) :
    binary? op (move ρ a) (move ρ b) = move ρ (binary? op a b) := by
  -- the cases of `binary?`: two of a kind, a text on one side, and all others
  cases a with
  | unit =>
    cases b with
    | unit => cases op <;> rfl
    | string y => exact onText_move op .unit (.string y)
    | _ => exact onOthers_move op .unit _
  | bool x =>
    cases b with
    | bool y => exact (move_onBools op x y).symm
    | string y => exact onText_move op (.bool x) (.string y)
    | _ => exact onOthers_move op (.bool x) _
  | int x =>
    cases b with
    | int y => exact (move_onInts op x y).symm
    | float y => exact (move_onFloats op x.toFloat y).symm
    | string y => exact onText_move op (.int x) (.string y)
    | _ => exact onOthers_move op (.int x) _
  | float x =>
    cases b with
    | float y => exact (move_onFloats op x y).symm
    | int y => cases op <;> rfl
    | string y => exact onText_move op (.float x) (.string y)
    | _ => exact onOthers_move op (.float x) _
  | char x =>
    cases b with
    | char y => cases op <;> rfl
    | string y => cases op <;> rfl
    | _ => exact onOthers_move op (.char x) _
  | string x =>
    cases b with
    | string y => exact (move_onTexts op x y).symm
    | char y => cases op <;> rfl
    | _ => exact onText_move op (.string x) _
  | array xs =>
    cases b with
    | array ys =>
      have equality := move_ofEquality (ρ := ρ) op ((Datum.array xs).equals (.array ys))
      simp only [← equals_move] at equality
      cases op with
      | add => exact congrArg (fun d => some (Except.ok (Datum.array d))) (move_append xs ys).symm
      | _ => exact equality
    | string y => exact onText_move op (.array xs) (.string y)
    | _ => exact onOthers_move op (.array xs) _
  | map m =>
    cases b with
    | map n =>
      have equality := move_ofEquality (ρ := ρ) op ((Datum.map m).equals (.map n))
      simp only [← equals_move] at equality
      cases op with
      | add => exact congrArg (fun d => some (Except.ok (Datum.map d))) (move_merge m n).symm
      | _ => exact equality
    | string y => exact onText_move op (.map m) (.string y)
    | _ => exact onOthers_move op (.map m) _
  | range c d k =>
    cases b with
    | range e f l =>
      have equality := move_ofEquality (ρ := ρ) op ((Datum.range c d k).equals (.range e f l))
      have others := onOthers_move (ρ := ρ) op (.range c d k) (.range e f l)
      simp only [move_range, binary?] at others ⊢
      rw [← equals_move] at equality
      split
      · exact equality
      · exact others
    | string y => exact onText_move op (.range c d k) (.string y)
    | _ => exact onOthers_move op (.range c d k) _
  | record r =>
    cases b with
    | string y => exact onText_move op (.record r) (.string y)
    | _ => exact onOthers_move op (.record r) _
  | collector h =>
    cases b with
    | string y => exact onText_move op (.collector h) (.string y)
    | _ => exact onOthers_move op (.collector h) _
  | function name bound =>
    cases b with
    | string y => exact onText_move op (.function name bound) (.string y)
    | _ => exact onOthers_move op (.function name bound) _
  | cell i =>
    cases b with
    | string y => exact onText_move op (.cell i) (.string y)
    | _ => exact onOthers_move op (.cell i) _

@[simp] theorem isPlain_move (op : BinaryOp) (a b : Datum) :
    isPlain op (move ρ a) (move ρ b) = isPlain op a b := by
  cases a <;> cases b <;> rfl

theorem unary?_move (op : UnaryOp) (a : Datum) :
    unary? op (move ρ a) = move ρ (unary? op a) := by
  have negated (n : Int64) : some ((Integer.negate n).map Datum.int) =
      move ρ (some ((Integer.negate n).map Datum.int)) := by
    rw [move_some, move_computed_map (g := Datum.int) _ fun _ => rfl, Integer.move_negate]
  cases a with
  | int n =>
    cases op with
    | negate => exact negated n
    | _ => rfl
  | _ => cases op <;> rfl

/-! ### Built-ins on one kind of value -/

section Builtins

variable {name : String} {args : List Datum} {r : Computed Reply}

@[simp] theorem partText?_move (d : Datum) : partText? (move ρ d) = partText? d := by
  cases d <;> rfl

theorem move_parseInt (s : String) (radix : Nat) : move ρ (parseInt s radix) = parseInt s radix := by
  unfold parseInt
  split <;> rfl

theorem move_parseFloat (s : String) : move ρ (parseFloat s) = parseFloat s := by
  unfold parseFloat
  split <;> rfl

theorem move_truncated (x : Float) : move ρ (truncated x) = truncated x := by
  unfold truncated
  split <;> rfl

theorem move_replied {α : Type} [Movable α] {value : α → Datum} {self : Datum} {c : Computed α}
    (hc : move ρ c = c) (hvalue : ∀ a, move ρ (value a) = value (move ρ a))
    (hself : move ρ self = self) :
    move ρ (c.map fun a => (⟨value a, self⟩ : Reply)) = c.map fun a => ⟨value a, self⟩ := by
  rw [move_computed_map (g := fun a => (⟨value a, self⟩ : Reply)), hc]
  intro a
  rw [move_reply, hvalue, hself]

theorem replies {value self value' self' : Datum} (hvalue : value' = move ρ value)
    (hself : self' = move ρ self) :
    some (.ok ⟨value', self'⟩ : Computed Reply) = some (move ρ (.ok ⟨value, self⟩)) := by
  rw [hvalue, hself]
  rfl

theorem move_of_textBuiltin? {s : String} (h : textBuiltin? name s args = some r) :
    move ρ r = r := by
  have listed (ss : List String) : move ρ (.ok ⟨texts ss, .string s⟩ : Computed Reply) =
      .ok ⟨texts ss, .string s⟩ :=
    congrArg (fun d => (.ok ⟨d, .string s⟩ : Computed Reply)) (move_texts ss)
  unfold textBuiltin? at h
  split at h <;> dsimp only at h
  case h_14 part | h_17 part | h_18 part _ | h_29 part =>
    cases part <;> cases h <;> rfl
  case h_26 part _ | h_27 part _ =>
    cases part <;> cases h <;> exact listed _
  case h_28 part new =>
    cases part <;> cases new <;> cases h <;> rfl
  case h_11 | h_31 =>
    split at h <;> cases h <;> rfl
  case h_12 =>
    cases h
    exact move_replied (move_parseInt s 10) (fun _ => rfl) rfl
  case h_32 =>
    split at h <;> cases h
    · rfl
    · exact move_replied (move_parseInt s _) (fun _ => rfl) rfl
  case h_13 =>
    cases h
    exact move_replied (move_parseFloat s) (fun _ => rfl) rfl
  all_goals cases h
  all_goals first | rfl | exact listed _

theorem textBuiltin?_move {s : String} (h : textBuiltin? name s args = some r) :
    textBuiltin? name s (move ρ args) = some r := by
  have found := h
  unfold textBuiltin? at h
  split at h
  case h_14 part | h_17 part | h_18 part _ | h_26 part _ | h_27 part _ | h_29 part =>
    cases part <;> cases h <;> exact found
  case h_28 part new =>
    cases part <;> cases new <;> cases h <;> exact found
  case h_30 d =>
    refine Eq.trans ?_ found
    exact congrArg (fun t => Reply.change (.string (s ++ t))) (Datum.printText_move d)
  all_goals first | exact found | cases h

theorem charBuiltin?_move {c : Char} (h : charBuiltin? name c args = some r) :
    charBuiltin? name c (move ρ args) = some (move ρ r) := by
  have found := h
  unfold charBuiltin? at h
  split at h <;> cases h <;> exact found

theorem intBuiltin?_move {n : Int64} (h : intBuiltin? name n args = some r) :
    intBuiltin? name n (move ρ args) = some (move ρ r) := by
  have magnitude : move ρ (if n < 0 then Integer.negate n else .ok n) =
      if n < 0 then Integer.negate n else .ok n := by
    split
    · exact Integer.move_negate n
    · rfl
  have found := h
  unfold intBuiltin? at h
  split at h
  case h_1 =>
    cases h
    exact congrArg some (move_replied magnitude (fun _ => rfl) rfl).symm
  all_goals cases h <;> exact found

theorem floatBuiltin?_move {x : Float} (h : floatBuiltin? name x args = some r) :
    floatBuiltin? name x (move ρ args) = some (move ρ r) := by
  have found := h
  unfold floatBuiltin? at h
  split at h
  case h_4 =>
    cases h
    have whole : move ρ ((truncated x).map (⟨·, .float x⟩ : Datum → Reply)) =
        (truncated x).map (⟨·, .float x⟩) :=
      move_replied (move_truncated x) (fun _ => rfl) rfl
    exact congrArg some whole.symm
  all_goals cases h <;> exact found

theorem rangeBuiltin?_move {a b : Int64} {closed : Bool}
    (h : rangeBuiltin? name a b closed args = some r) :
    rangeBuiltin? name a b closed (move ρ args) = some (move ρ r) := by
  have found := h
  unfold rangeBuiltin? at h
  split at h <;> cases h <;> exact found

theorem Record.move_get (r : ValueMap) (k : String) : move ρ (Record.get r k) = Record.get r k := by
  unfold Record.get
  cases r.get? k with
  | none => rfl
  | some v => exact Datum.move_ofValue v

theorem Record.move_keys (r : ValueMap) : move ρ (Record.keys r) = Record.keys r := by
  rw [Record.keys, move_items, List.map_map]
  rfl

theorem Record.move_pairs (r : ValueMap) : move ρ (Record.pairs r) = Record.pairs r := by
  rw [Record.pairs, move_items, List.map_map]
  refine List.map_congr_left fun p _ => ?_
  exact congrArg (fun d => Datum.array [.string p.1, d]) (Datum.move_ofValue p.2)

theorem Record.move_toMap (r : ValueMap) : move ρ (Record.toMap r) = Record.toMap r := by
  have inserted (m : ObjectMap) (hm : move ρ m = m) :
      move ρ (r.foldl (fun m p => Entries.insertSorted m p.1 (.ofValue p.2)) m) =
        r.foldl (fun m p => Entries.insertSorted m p.1 (.ofValue p.2)) m := by
    induction r generalizing m with
    | nil => exact hm
    | cons p rest ih =>
      refine ih _ ?_
      rw [move_insertSorted, hm, Datum.move_ofValue]
  exact inserted [] rfl

theorem recordBuiltin?_move {values : ValueMap} (h : recordBuiltin? name values args = some r) :
    recordBuiltin? name values (move ρ args) = some (move ρ r) := by
  have kept {d : Datum} (hd : move ρ d = d) :
      move ρ (.ok ⟨d, .record values⟩ : Computed Reply) = .ok ⟨d, .record values⟩ :=
    congrArg (fun d => (.ok ⟨d, .record values⟩ : Computed Reply)) hd
  have fixed : move ρ r = r := by
    unfold recordBuiltin? at h
    split at h <;> cases h
    · exact kept (Record.move_get values _)
    · rfl
    · exact kept (congrArg Datum.array (Record.move_keys values))
    · exact kept (congrArg Datum.array (Datum.move_ofValues _))
    · rfl
    · rfl
    · exact kept (congrArg Datum.map (Record.move_toMap values))
  have found := h
  rw [fixed]
  unfold recordBuiltin? at h
  split at h <;> cases h <;> exact found

/-! ### Built-ins on arrays and object maps -/

theorem findEqual_move (d : Datum) (i : Nat) (xs : List Datum) :
    findEqual (move ρ d) i (move ρ xs) = move ρ (findEqual d i xs) := by
  induction xs generalizing i with
  | nil => rfl
  | cons x xs ih =>
    have equal := equals_move (ρ := ρ) x d
    have rest := ih (i + 1)
    simp only [move_cons, findEqual, equal]
    cases x.equals d with
    | error c => rfl
    | ok same =>
      cases same with
      | true => rfl
      | false => exact rest

theorem sortsBefore_move (a b : Datum) :
    sortsBefore (move ρ a) (move ρ b) = sortsBefore a b := by
  cases a <;> cases b <;> rfl

theorem sortItems_move (xs : List Datum) : sortItems (move ρ xs) = move ρ (sortItems xs) := by
  cases xs with
  | nil => rfl
  | cons x rest =>
    have kinds : (move ρ rest).all (·.sameKind (move ρ x)) = rest.all (·.sameKind x) := by
      rw [move_items, List.all_map]
      exact congrArg rest.all (funext fun d => Datum.sameKind_move d x)
    have sorted : (move ρ (x :: rest)).mergeSort sortsBefore =
        move ρ ((x :: rest).mergeSort sortsBefore) := by
      rw [move_items, move_items]
      exact (List.map_mergeSort fun a _ b _ => (sortsBefore_move a b).symm).symm
    simp only [move_cons, sortItems, kinds] at sorted ⊢
    split
    · exact congrArg Except.ok sorted
    · rfl

theorem mapBuiltin?_move {m : ObjectMap} (h : mapBuiltin? name m args = some r) :
    mapBuiltin? name (move ρ m) (move ρ args) = some (move ρ r) := by
  unfold mapBuiltin? at h
  split at h <;> cases h
  case h_1 => exact replies (congrArg (fun n => Datum.int (Int64.ofNat n)) (entries_length_move m)) rfl
  case h_2 => exact replies (congrArg Datum.bool (entries_isEmpty_move m)) rfl
  case h_3 => exact replies rfl rfl
  case h_4 k => exact replies (congrArg Datum.bool (any_move m k)) rfl
  case h_5 => exact replies ((congrArg texts (keys_move m)).trans (move_texts _).symm) rfl
  case h_6 => exact replies (congrArg Datum.array (move_values m).symm) rfl
  case h_7 k => exact replies (move_valueOf m k).symm rfl
  case h_8 k d => exact replies rfl (congrArg Datum.map (move_insertSorted m k d).symm)
  case h_9 k => exact replies (move_valueOf m k).symm (congrArg Datum.map (move_erase m k).symm)
  case h_10 n => exact replies rfl (congrArg Datum.map (move_merge m n).symm)
  case h_11 n => exact replies rfl (congrArg Datum.map (move_merge n m).symm)

theorem arrayBuiltin?_move {xs : List Datum} (h : arrayBuiltin? name xs args = some r) :
    arrayBuiltin? name (move ρ xs) (move ρ args) = some (move ρ r) := by
  have changed {ys zs : List Datum} (hys : move ρ ys = zs) :
      Reply.change (.array zs) = some (move ρ (.ok ⟨.unit, .array ys⟩)) :=
    replies rfl (congrArg Datum.array hys.symm)
  unfold arrayBuiltin? at h
  split at h <;> dsimp only at h
  case h_3 =>
    split at h <;> cases h <;> next hxs =>
      simp only [arrayBuiltin?, move_nil, ← move_reverse, hxs]
      first | rfl | exact replies rfl (congrArg Datum.array (move_reverse _).symm)
  case h_4 =>
    cases xs <;> cases h <;> exact replies rfl rfl
  case h_11 i =>
    split at h <;> cases h <;> next hi =>
      simp only [arrayBuiltin?, move_cons, move_nil, move_int, length_move, hi]
      first
      | rfl
      | exact replies (move_getD_unit xs _).symm (congrArg Datum.array (move_removeAt xs _).symm)
  case h_12 i =>
    split at h <;> cases h <;> next hi =>
      simp only [arrayBuiltin?, move_cons, move_nil, move_int, length_move, hi]
      first | rfl | exact replies (move_getD_unit xs _).symm rfl
  case h_13 i d =>
    split at h <;> cases h <;> next hi =>
      simp only [arrayBuiltin?, move_cons, move_nil, move_int, length_move, hi]
      first | rfl | exact changed (move_set xs _ d)
  all_goals cases h
  case h_1 => exact replies (congrArg (fun n => Datum.int (Int64.ofNat n)) (length_move xs)) rfl
  case h_2 => exact replies (congrArg Datum.bool (isEmpty_move xs)) rfl
  case h_8 d => exact changed (move_append xs [d])
  case h_9 ys => exact changed (move_append xs ys)
  case h_10 i d => exact changed (move_insertItem xs i.toInt d)
  case h_5 => exact changed (move_reverse xs)
  case h_6 => exact changed rfl
  case h_14 n => exact changed (move_take xs _)
  case h_15 n => exact changed ((move_drop xs _).trans (by rw [length_move]))
  case h_16 i => exact replies (congrArg Datum.array ((move_slice xs _ _).trans (by rw [length_move])).symm) rfl
  case h_17 i n => exact replies (congrArg Datum.array (move_slice xs _ _).symm) rfl
  case h_18 a b closed => exact replies (congrArg Datum.array (move_slice xs _ _).symm) rfl
  case h_19 n d =>
    refine changed ?_
    rw [move_append, move_replicate, length_move]
    rfl
  case h_7 =>
    refine congrArg some ?_
    rw [sortItems_move, move_computed_map (g := fun ys => (⟨.unit, .array ys⟩ : Reply)) _ fun _ => rfl]
  case h_20 d =>
    refine congrArg some ?_
    rw [move_computed_map (g := fun i : Option Nat => (⟨.bool i.isSome, move ρ (.array xs)⟩ : Reply)),
      ← findEqual_move]
    · rfl
    · intro i
      cases i <;> rfl

/-! ### Plain built-ins -/

theorem move_of_ownBuiltin? {self : Datum} (h : ownBuiltin? name self args = some r) :
    ownBuiltin? name (move ρ self) (move ρ args) = some (move ρ r) := by
  cases self with
  | string s =>
    have fixed := move_of_textBuiltin? (ρ := ρ) h
    exact (textBuiltin?_move h).trans (congrArg some fixed.symm)
  | char c => exact charBuiltin?_move h
  | int n => exact intBuiltin?_move h
  | float x => exact floatBuiltin?_move h
  | array xs => exact arrayBuiltin?_move h
  | map m => exact mapBuiltin?_move h
  | record values => exact recordBuiltin?_move h
  | range a b closed => exact rangeBuiltin?_move h
  | function f bound =>
    unfold ownBuiltin? at h
    dsimp only at h
    split at h <;> cases h <;> rfl
  | unit => cases h
  | bool b => cases h
  | collector handle => cases h
  | cell i => cases h

theorem ownBuiltin?_move {back : Relocation} (undoes : back.Undoes ρ) (self : Datum)
    (args : List Datum) : ownBuiltin? name (move ρ self) (move ρ args) =
      move ρ (ownBuiltin? name self args) := by
  cases h : ownBuiltin? name self args with
  | some r => exact move_of_ownBuiltin? h
  | none =>
    cases hmoved : ownBuiltin? name (move ρ self) (move ρ args) with
    | none => rfl
    | some r =>
      have found := move_of_ownBuiltin? (ρ := back) hmoved
      rw [moved_back undoes, movedItems_back undoes, h] at found
      cases found

theorem commonBuiltin?_move (self : Datum) (args : List Datum) :
    commonBuiltin? name (move ρ self) (move ρ args) = move ρ (commonBuiltin? name self args) := by
  cases args with
  | cons d rest =>
    have none_of_args (self d : Datum) (rest : List Datum) :
        commonBuiltin? name self (d :: rest) = none := by
      unfold commonBuiltin?
      split <;> simp_all
    rw [move_cons, none_of_args, none_of_args]
    rfl
  | nil =>
    simp only [commonBuiltin?, move_nil, Datum.printText_move, Datum.debugText_move]
    split <;> rfl

theorem plainBuiltin?_move {back : Relocation} (undoes : back.Undoes ρ) (self : Datum)
    (args : List Datum) : plainBuiltin? name (move ρ self) (move ρ args) =
      move ρ (plainBuiltin? name self args) := by
  rw [plainBuiltin?, plainBuiltin?, ownBuiltin?_move undoes, commonBuiltin?_move]
  cases ownBuiltin? name self args <;> rfl

end Builtins

end RowScript.Script
