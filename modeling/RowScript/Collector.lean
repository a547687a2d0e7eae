import RowScript.Value

/-!
# Collectors

A script emits rows through a collector, which belongs to one record. Scripts can keep and copy
collectors, so a script holds a handle, and the rows stand in a store that all handles share.

* `fresh` makes an empty collector.
* `put` appends one emitted row, through whichever copy of the handle.
* `take` empties a collector; rows put into it later stay behind.
-/

namespace RowScript

/-- A name for one collector; all its copies name the same rows. -/
structure CollectorHandle where
  index : Nat
  deriving Repr, DecidableEq, Inhabited

/-- The rows of all collectors made so far, in the order of their making. -/
structure Collectors where
  buffers : Array (Array (List Value))
  deriving Inhabited

namespace Collectors

def empty : Collectors := ⟨#[]⟩

/-- Make an empty collector. -/
def fresh (cs : Collectors) : CollectorHandle × Collectors :=
  (⟨cs.buffers.size⟩, ⟨cs.buffers.push #[]⟩)

/-- The rows in a collector, in the order of emission. -/
def rows (cs : Collectors) (h : CollectorHandle) : List (List Value) :=
  (cs.buffers.getD h.index #[]).toList

def put (cs : Collectors) (h : CollectorHandle) (values : List Value) : Collectors :=
  ⟨cs.buffers.modify h.index (·.push values)⟩

/-- The rows of a collector, which is empty afterwards. -/
def take (cs : Collectors) (h : CollectorHandle) : List (List Value) × Collectors :=
  (cs.rows h, ⟨cs.buffers.modify h.index fun _ => #[]⟩)

/-- Put rows one after the other, each through its own handle. -/
def putAll (cs : Collectors) (puts : List (CollectorHandle × List Value)) : Collectors :=
  puts.foldl (fun cs p => cs.put p.1 p.2) cs

/-- The collector has been made. -/
def Made (cs : Collectors) (h : CollectorHandle) : Prop := h.index < cs.buffers.size

theorem made_fresh (cs : Collectors) : cs.fresh.2.Made cs.fresh.1 := by simp [fresh, Made]

@[simp] theorem rows_fresh (cs : Collectors) : cs.fresh.2.rows cs.fresh.1 = [] := by
  simp [fresh, rows]

theorem not_made_fresh (cs : Collectors) : ¬ cs.Made cs.fresh.1 := by simp [fresh, Made]

theorem Made.fresh {cs : Collectors} {h : CollectorHandle} (hm : cs.Made h) : cs.fresh.2.Made h := by
  have hm' : h.index < cs.buffers.size := hm
  simp only [Made, Collectors.fresh, Array.size_push]
  omega

/-- A new collector does not touch the others. -/
theorem Made.rows_fresh {cs : Collectors} {h : CollectorHandle} (hm : cs.Made h) :
    cs.fresh.2.rows h = cs.rows h := by
  have hne : h.index ≠ cs.buffers.size := Nat.ne_of_lt hm
  simp only [rows, Collectors.fresh, Array.getD_eq_getD_getElem?, Array.getElem?_push, if_neg hne]

theorem Made.take {cs : Collectors} {h : CollectorHandle} (hm : cs.Made h) (k : CollectorHandle) :
    (cs.take k).2.Made h := by
  simpa [Made, Collectors.take] using hm

theorem Made.put {cs : Collectors} {h : CollectorHandle} (hm : cs.Made h) (k : CollectorHandle)
    (values : List Value) : (cs.put k values).Made h := by
  simpa [Made, Collectors.put] using hm

theorem rows_put_self {cs : Collectors} {h : CollectorHandle} (hm : cs.Made h)
    (values : List Value) : (cs.put h values).rows h = cs.rows h ++ [values] := by
  have hm' : h.index < cs.buffers.size := hm
  simp [rows, Collectors.put, Array.getElem_modify_self, hm']

theorem rows_take_of_ne {h k : CollectorHandle} (hne : k ≠ h) (cs : Collectors) :
    (cs.take k).2.rows h = cs.rows h := by
  have hi : k.index ≠ h.index := fun hi => hne (by cases h; cases k; simpa using hi)
  simp only [rows, take, Array.getD_eq_getD_getElem?, Array.getElem?_modify, if_neg hi]

theorem rows_put_of_ne {h k : CollectorHandle} (hne : k ≠ h) (cs : Collectors)
    (values : List Value) : (cs.put k values).rows h = cs.rows h := by
  have hi : k.index ≠ h.index := fun hi => hne (by cases h; cases k; simpa using hi)
  simp only [rows, Collectors.put, Array.getD_eq_getD_getElem?, Array.getElem?_modify, if_neg hi]

/-- A collector holds what was put through its own handles, in order. -/
theorem rows_putAll {h : CollectorHandle} (puts : List (CollectorHandle × List Value))
    (cs : Collectors) (hm : cs.Made h) :
    (cs.putAll puts).rows h = cs.rows h ++ (puts.filter (·.1 = h)).map (·.2) := by
  induction puts generalizing cs with
  | nil => simp [putAll]
  | cons p rest ih =>
    obtain ⟨k, values⟩ := p
    have step : cs.putAll ((k, values) :: rest) = (cs.put k values).putAll rest := rfl
    rw [step, ih _ (hm.put k values)]
    by_cases hk : k = h
    · subst hk
      simp [rows_put_self hm]
    · simp [rows_put_of_ne hk, hk]

end Collectors

end RowScript
