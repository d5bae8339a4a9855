import Mathlib.Algebra.Group.Nat.Defs
import Mathlib.Logic.IsEmpty.Defs
import HartLayer.Ring.History
import HartLayer.Word

/-!
# Rings keep the newest items

A ring of `n` slots that starts empty and has a list pushed keeps the last `n` items of the list.

* `index_walk`, `next_skip` : where a walk is after `k` steps, and what its next step gives. Every
  slot that is read is occupied (`slots_walk`, `slots_newest`);
* `slotBehind?`, `newestSlot?`, `oldestSlot?` : the places in a ring computed on machine words,
  where every step is checked. As long as the slots make an array (`Addressable`), no step leaves
  the range of words, and the places are those of the ring (`computesPlaces_of_holds`);
* `keepsNewest_pushed` : all that can be seen of a ring after pushes.
-/

namespace HartLayer

/-! ## Places on machine words -/

namespace Ring

/-- The slot behind slot `i` of `n`. -/
def slotBehind? (n i : Word) : Option Word := do
  let next ← Word.add? i 1
  return next % n

/-- The slot before the head. -/
def newestSlot? (n head : Word) : Option Word := do
  let turned ← Word.add? head n
  let before ← Word.sub? turned 1
  return before % n

/-- The slot that lies `count` slots before the head. -/
def oldestSlot? (n head count : Word) : Option Word := do
  let turned ← Word.add? head n
  let before ← Word.sub? turned count
  return before % n

theorem slotBehind?_eq {n i : Nat} (hi : i < n) (hn : n < UInt64.size) :
    slotBehind? n.toUInt64 i.toUInt64 = some ((i + 1) % n).toUInt64 := by
  have small : i + 1 < UInt64.size := by omega
  have next : Word.add? i.toUInt64 1 = some (i + 1).toUInt64 := Word.add?_toUInt64 small
  rw [slotBehind?, next, ← Word.mod_toUInt64 small hn]
  rfl

theorem newestSlot?_eq {n head : Nat} (pos : 0 < n) (fits : head + n < UInt64.size) :
    newestSlot? n.toUInt64 head.toUInt64 = some ((head + n - 1) % n).toUInt64 := by
  have before : Word.sub? (head + n).toUInt64 1 = some (head + n - 1).toUInt64 :=
    Word.sub?_toUInt64 (y := 1) (by omega) fits
  rw [newestSlot?, Word.add?_toUInt64 fits, ← Word.mod_toUInt64 (by omega) (by omega)]
  show (Word.sub? (head + n).toUInt64 1).bind _ = _
  rw [before]
  rfl

theorem oldestSlot?_eq {n head count : Nat} (le : count ≤ n) (fits : head + n < UInt64.size) :
    oldestSlot? n.toUInt64 head.toUInt64 count.toUInt64 =
      some ((head + n - count) % n).toUInt64 := by
  have before := Word.sub?_toUInt64 (show count ≤ head + n by omega) fits
  rw [oldestSlot?, Word.add?_toUInt64 fits, ← Word.mod_toUInt64 (by omega) (by omega)]
  show (Word.sub? (head + n).toUInt64 count.toUInt64).bind _ = _
  rw [before]
  rfl

variable {α : Type} {n : Nat}

/-! ## Walking -/

theorem index_skip {c : Cursor α n} (inside : c.index < n) {k : Nat} (short : k ≤ c.remaining) :
    (c.skip k).index = (c.index + k) % n := by
  induction k generalizing c with
  | zero => exact (Nat.mod_eq_of_lt inside).symm
  | succ k ih =>
    obtain ⟨r, i, _ | m⟩ := c
    · exact absurd short (Nat.not_succ_le_zero k)
    · have next : (i + 1) % n < n := Nat.mod_lt _ (Nat.lt_of_le_of_lt (Nat.zero_le _) inside)
      have rest := ih (c := ⟨r, (i + 1) % n, m⟩) next (Nat.le_of_succ_le_succ short)
      dsimp only at rest
      rw [Nat.mod_add_mod, Nat.add_assoc, Nat.add_comm 1 k] at rest
      exact rest

theorem remaining_skip (c : Cursor α n) (k : Nat) : (c.skip k).remaining = c.remaining - k := by
  induction k generalizing c with
  | zero => rfl
  | succ k ih => obtain ⟨r, i, _ | m⟩ := c <;> simp [Cursor.skip, Cursor.next, ih]

theorem ring_skip (c : Cursor α n) (k : Nat) : (c.skip k).ring = c.ring := by
  induction k generalizing c with
  | zero => rfl
  | succ k ih => obtain ⟨r, i, _ | m⟩ := c <;> simp [Cursor.skip, Cursor.next, ih]

variable {r : Ring α n} {xs : List α}

theorem index_walk (h : r.Holds xs) {k : Nat} (hk : k ≤ xs.length) :
    (r.cursor.skip k).index = (r.head + n - xs.length + k) % n := by
  have pos : 0 < n := Nat.lt_of_le_of_lt (Nat.zero_le _) h.head_lt
  have short : k ≤ r.count := by rwa [h.count_eq]
  rw [index_skip (Nat.mod_lt _ pos) short]
  show ((r.head + n - r.count) % n + k) % n = _
  rw [h.count_eq, Nat.mod_add_mod]

/-- The slots that are read on the way hold the items, one after the other. -/
theorem slots_walk (h : r.Holds xs) {k : Nat} (hk : k < xs.length) :
    r.slots[(r.cursor.skip k).index]? = some (some xs[k]) := by
  have held := h.slot_eq k hk
  rw [← index_walk h (Nat.le_of_lt hk), slot] at held
  exact Option.join_eq_some_iff.mp held

theorem slots_newest (h : r.Holds xs) (occupied : xs ≠ []) :
    r.slots[(r.head + n - 1) % n]? = some (some (xs.getLast occupied)) := by
  have pos := List.length_pos_iff.mpr occupied
  have short := h.length_le
  have held := h.slot_eq (xs.length - 1) (by omega)
  rw [show r.head + n - xs.length + (xs.length - 1) = r.head + n - 1 by omega, slot,
    ← List.getLast_eq_getElem occupied] at held
  exact Option.join_eq_some_iff.mp held

/-- The steps of a walk give the items, the oldest one first, and then nothing more. -/
theorem next_skip (h : r.Holds xs) (k : Nat) : (r.cursor.skip k).next.1 = xs[k]? := by
  have left : (r.cursor.skip k).remaining = xs.length - k := by
    rw [remaining_skip, cursor, h.count_eq]
  have here : (r.cursor.skip k).ring = r := ring_skip r.cursor k
  unfold Cursor.next
  by_cases hk : k < xs.length
  · rw [left, show xs.length - k = xs.length - k - 1 + 1 by omega, here, slot, slots_walk h hk,
      List.getElem?_eq_getElem hk]
    rfl
  · rw [left, show xs.length - k = 0 by omega, List.getElem?_eq_none (by omega)]

/-! ## All that can be seen -/

/-- Whether `n` slots make an array: it has less than `2 ^ 63` bytes, and a slot takes one at least,
unless no item exists; then a slot takes none, and `n` only has to be a word. -/
def Addressable (α : Type) (n : Nat) : Prop := n < 2 ^ 63 ∨ IsEmpty α ∧ n < UInt64.size

/-- The places that are computed on machine words are those of the ring. -/
structure ComputesPlaces (r : Ring α n) : Prop where
  size_lt : n < UInt64.size
  push : ∀ a, slotBehind? n.toUInt64 r.head.toUInt64 = some (r.push a).head.toUInt64
  newest : r.isEmpty = false →
    newestSlot? n.toUInt64 r.head.toUInt64 = some ((r.head + n - 1) % n).toUInt64
  oldest : oldestSlot? n.toUInt64 r.head.toUInt64 r.count.toUInt64 = some r.tail.toUInt64
  /-- The slots of a walk. -/
  walk : ∀ k < r.size, slotBehind? n.toUInt64 (r.cursor.skip k).index.toUInt64 =
    some (r.cursor.skip (k + 1)).index.toUInt64

theorem computesPlaces_of_holds (h : r.Holds xs) (fits : r.head + n < UInt64.size) :
    ComputesPlaces r := by
  have inside := h.head_lt
  have pos : 0 < n := by omega
  have size : n < UInt64.size := by omega
  refine ⟨size, fun a => slotBehind?_eq inside size, fun _ => newestSlot?_eq pos fits,
    oldestSlot?_eq (h.count_eq ▸ h.length_le) fits, ?_⟩
  intro k hk
  have hk' : k < xs.length := size_eq_of_holds h ▸ hk
  have place : (r.head + n - xs.length + k) % n < n := Nat.mod_lt _ pos
  rw [index_walk h (Nat.le_of_lt hk'), index_walk h hk', slotBehind?_eq place size, Nat.mod_add_mod,
    Nat.add_assoc]

/-- What can be seen of a ring onto which a list was pushed. -/
structure KeepsNewest (r : Ring α n) (xs : List α) : Prop where
  size_eq : r.size = min n xs.length
  isEmpty_iff : r.isEmpty = true ↔ xs = []
  back?_eq : r.back? = xs.getLast?
  toList_eq : r.toList = xs.drop (xs.length - n)
  /-- Each call of `next` gives one item more, and when all are given none. -/
  next_eq : ∀ k, (r.cursor.skip k).next.1 = (xs.drop (xs.length - n))[k]?
  /-- The slots that a walk reads are there and occupied. -/
  read_walk : ∀ k < r.size, ∃ a, r.slots[(r.cursor.skip k).index]? = some (some a)
  /-- So is the slot in which the newest item is looked for. -/
  read_newest : r.isEmpty = false → ∃ a, r.slots[(r.head + n - 1) % n]? = some (some a)
  /-- The slot that the next push writes is there. -/
  head_lt : r.head < n
  places : Addressable α n → ComputesPlaces r

theorem head_add_lt (fits : Addressable α n) (pos : 0 < n) (xs : List α) :
    (ofList xs : Ring α n).head + n < UInt64.size := by
  have full : UInt64.size = 2 ^ 64 := rfl
  have inside := (holds_ofList pos xs).head_lt
  rcases fits with small | ⟨none, word⟩
  · omega
  · -- nothing was ever pushed
    cases xs with
    | nil => simpa [ofList, empty] using word
    | cons x xs => exact none.elim x

/-- A ring with at least one slot, onto which a list was pushed when it was new, keeps the newest
items of the list, as many as it has slots. -/
theorem keepsNewest_pushed (pos : 0 < n) (xs : List α) :
    (default : Ring α n) = empty ∧ KeepsNewest (xs.foldl push (empty : Ring α n)) xs := by
  have h : (xs.foldl push (empty : Ring α n)).Holds (xs.drop (xs.length - n)) := holds_ofList pos xs
  have length : (xs.drop (xs.length - n)).length = min n xs.length := by
    rw [List.length_drop]
    omega
  have size := size_eq_of_holds h
  have last : (xs.drop (xs.length - n)).getLast? = xs.getLast? := by
    rw [List.getLast?_drop]
    split
    · next all =>
      rw [List.length_eq_zero_iff.mp (show xs.length = 0 by omega)]
      rfl
    · rfl
  refine ⟨rfl, size.trans length, ?_, (back?_eq_of_holds h).trans last, toList_eq_of_holds h,
    next_skip h, ?_, ?_, h.head_lt, fun fits => computesPlaces_of_holds h (head_add_lt fits pos xs)⟩
  · rw [isEmpty, decide_eq_true_iff, h.count_eq, length, ← List.length_eq_zero_iff]
    omega
  · intro k hk
    exact ⟨_, slots_walk h (size ▸ hk)⟩
  · intro occupied
    rw [isEmpty, decide_eq_false_iff_not, h.count_eq] at occupied
    exact ⟨_, slots_newest h fun none => occupied (List.length_eq_zero_iff.mpr none)⟩

/-- Five words pushed onto three slots, and the walk over what is left. -/
theorem keepsNewest_fiveOntoThree :
    0 < 3 ∧ Addressable Word 3 ∧
      let r := ([1, 2, 3, 4, 5] : List Word).foldl push (empty : Ring Word 3)
      r.size = 3 ∧ r.back? = some 5 ∧ (r.cursor.skip 0).next.1 = some 3 ∧
        (r.cursor.skip 4).next.1 = none ∧ oldestSlot? 3 2 3 = some 2 := by
  have fits : Addressable Word 3 := .inl (by decide)
  have kept := (keepsNewest_pushed (show 0 < 3 by decide) ([1, 2, 3, 4, 5] : List Word)).2
  exact ⟨by decide, fits, kept.size_eq, kept.back?_eq, kept.next_eq 0, kept.next_eq 4,
    (kept.places fits).oldest⟩

end Ring

end HartLayer
