import HartLayer.Ring

/-!
# What a ring holds after a history of pushes

`Holds r xs` says which list the slots of a ring hold. It is kept by every push (`holds_push`), and
it determines what the ring lists (`toList_eq_of_holds`), its size and its newest item. Hence a ring
that was filled with a list holds the newest items of it, as many as it has slots (`holds_ofList`).
-/

namespace HartLayer.Ring

variable {α : Type} {n : Nat}

/-- Within two turns the remainder is a subtraction. -/
theorem mod_eq_sub_of_lt {x : Nat} (h : x < n + n) :
    x % n = if x < n then x else x - n := by
  split
  · next hx => exact Nat.mod_eq_of_lt hx
  · next hx => rw [Nat.mod_eq_sub_mod (Nat.not_lt.1 hx), Nat.mod_eq_of_lt (by omega)]

/-- A ring holds a list if its occupied slots, from the oldest on, are the items of the list. -/
structure Holds (r : Ring α n) (xs : List α) : Prop where
  head_lt : r.head < n
  count_eq : r.count = xs.length
  length_le : xs.length ≤ n
  slot_eq : ∀ k (h : k < xs.length), r.slot ((r.head + n - xs.length + k) % n) = some xs[k]

/-- A push changes the slot at the head and no other. -/
theorem slot_push (r : Ring α n) (a : α) {i : Nat} (h : r.head < n) :
    (r.push a).slot i = if i = r.head then some a else r.slot i := by
  simp only [slot, push, Vector.getElem?_setIfInBounds]
  by_cases e : r.head = i
  · subst e; simp [h]
  · rw [if_neg e, if_neg (Ne.symm e)]

theorem holds_empty (h : 0 < n) : (empty : Ring α n).Holds [] :=
  ⟨h, rfl, Nat.zero_le _, fun _ hk => absurd hk (Nat.not_lt_zero _)⟩

/-- After a push a ring holds the newest `n` of its items and the new one. -/
theorem holds_push {r : Ring α n} {xs : List α} (h : r.Holds xs) (a : α) :
    (r.push a).Holds ((xs ++ [a]).drop (xs.length + 1 - n)) := by
  have hh := h.head_lt
  have hl := h.length_le
  have hc := h.count_eq
  have pos : 0 < n := by omega
  refine ⟨Nat.mod_lt _ pos, ?_, ?_, ?_⟩
  · simp only [push, List.length_drop, List.length_append, List.length_singleton]
    split <;> omega
  · simp only [List.length_drop, List.length_append, List.length_singleton]
    omega
  · intro k hk
    simp only [List.length_drop, List.length_append, List.length_singleton] at hk
    have hd : (r.push a).head = if r.head + 1 < n then r.head + 1 else r.head + 1 - n :=
      mod_eq_sub_of_lt (by omega)
    simp only [List.length_drop, List.length_append, List.length_singleton, List.getElem_drop]
    rw [slot_push r a hh, hd]
    by_cases last : xs.length + 1 - n + k = xs.length
    · have e : ((if r.head + 1 < n then r.head + 1 else r.head + 1 - n) + n -
          (xs.length + 1 - (xs.length + 1 - n)) + k) % n = r.head := by
        by_cases hw : r.head + 1 < n
        · rw [if_pos hw, mod_eq_sub_of_lt (by omega)]; split <;> omega
        · rw [if_neg hw, mod_eq_sub_of_lt (by omega)]; split <;> omega
      rw [if_pos e]
      simp [last]
    · have old : xs.length + 1 - n + k < xs.length := by omega
      have e : ((if r.head + 1 < n then r.head + 1 else r.head + 1 - n) + n -
          (xs.length + 1 - (xs.length + 1 - n)) + k) % n =
            (r.head + n - xs.length + (xs.length + 1 - n + k)) % n := by
        by_cases hw : r.head + 1 < n
        · rw [if_pos hw, mod_eq_sub_of_lt (by omega), mod_eq_sub_of_lt (by omega)]
          split <;> split <;> omega
        · rw [if_neg hw, mod_eq_sub_of_lt (by omega), mod_eq_sub_of_lt (by omega)]
          split <;> split <;> omega
      have ne : (r.head + n - xs.length + (xs.length + 1 - n + k)) % n ≠ r.head := by
        rw [mod_eq_sub_of_lt (by omega)]; split <;> omega
      rw [e, if_neg ne, h.slot_eq _ old, List.getElem_append_left old]

/-- Walking over slots that hold a list gives the list. -/
theorem itemsFrom_eq {r : Ring α n} (pos : 0 < n) : ∀ (ys : List α) (i : Nat),
    (∀ k (h : k < ys.length), r.slot ((i + k) % n) = some ys[k]) → i < n →
      r.itemsFrom i ys.length = ys
  | [], _, _, _ => rfl
  | y :: ys, i, h, hi => by
    have h0 : r.slot i = some y := by
      have first := h 0 (Nat.succ_pos _)
      rwa [Nat.add_zero, Nat.mod_eq_of_lt hi] at first
    have tail := itemsFrom_eq pos ys ((i + 1) % n) (fun k hk => by
      have := h (k + 1) (by simpa using hk)
      rw [Nat.mod_add_mod, Nat.add_assoc, Nat.add_comm 1 k]
      simpa using this) (Nat.mod_lt _ pos)
    simp only [List.length_cons, itemsFrom, h0, tail]

/-- A ring that holds a list lists it. -/
theorem toList_eq_of_holds {r : Ring α n} {xs : List α} (h : r.Holds xs) : r.toList = xs := by
  have pos : 0 < n := Nat.lt_of_le_of_lt (Nat.zero_le _) h.head_lt
  rw [toList, h.count_eq]
  refine itemsFrom_eq pos xs _ (fun k hk => ?_) (Nat.mod_lt _ pos)
  rw [tail, h.count_eq, Nat.mod_add_mod]
  exact h.slot_eq k hk

/-- Pushing a list onto a ring keeps the newest items. -/
theorem holds_foldl_push {r : Ring α n} : ∀ {ys : List α} (xs : List α), r.Holds ys →
    (xs.foldl push r).Holds ((ys ++ xs).drop (ys.length + xs.length - n))
  | ys, [], h => by
    have hl := h.length_le
    rw [List.append_nil, List.length_nil, show ys.length + 0 - n = 0 by omega, List.drop_zero]
    exact h
  | ys, x :: xs, h => by
    have hl := h.length_le
    have rest := holds_foldl_push xs (holds_push h x)
    have e : (List.drop (ys.length + 1 - n) (ys ++ [x]) ++ xs).drop
        ((List.drop (ys.length + 1 - n) (ys ++ [x])).length + xs.length - n) =
          (ys ++ x :: xs).drop (ys.length + (x :: xs).length - n) := by
      have short : ys.length + 1 - n ≤ (ys ++ [x]).length := by
        rw [List.length_append, List.length_singleton]; omega
      rw [← List.drop_append_of_le_length short, List.drop_drop, List.append_assoc]
      congr 1
      simp only [List.length_drop, List.length_append, List.length_cons, List.length_nil]
      omega
    rw [e] at rest
    exact rest

theorem size_eq_of_holds {r : Ring α n} {xs : List α} (h : r.Holds xs) : r.size = xs.length :=
  h.count_eq

theorem back?_eq_of_holds {r : Ring α n} {xs : List α} (h : r.Holds xs) :
    r.back? = xs.getLast? := by
  have hc := h.count_eq
  by_cases none : xs.length = 0
  · have nil : xs = [] := List.length_eq_zero_iff.mp none
    rw [back?, if_pos (by simp [isEmpty, hc, none]), nil]
    rfl
  · have newest := h.slot_eq (xs.length - 1) (by omega)
    have hl := h.length_le
    have place : r.head + n - xs.length + (xs.length - 1) = r.head + n - 1 := by omega
    rw [place] at newest
    rw [back?, if_neg (by simp [isEmpty, hc, none]), newest, List.getLast?_eq_getElem?,
      List.getElem?_eq_getElem (by omega)]

/-- A ring filled with a list holds its newest `n` items. -/
theorem holds_ofList (pos : 0 < n) (xs : List α) :
    (ofList xs : Ring α n).Holds (xs.drop (xs.length - n)) := by
  have h := holds_foldl_push xs (holds_empty (α := α) pos)
  rwa [List.nil_append, List.length_nil, Nat.zero_add] at h

/-- A ring that is listed and filled again with its list lists the same. -/
theorem holds_ofList_toList {r : Ring α n} {xs : List α} (h : r.Holds xs) :
    (ofList r.toList : Ring α n).Holds xs := by
  have pos : 0 < n := Nat.lt_of_le_of_lt (Nat.zero_le _) h.head_lt
  have again := holds_ofList pos xs
  rw [Nat.sub_eq_zero_of_le h.length_le, List.drop_zero] at again
  rwa [toList_eq_of_holds h]

end HartLayer.Ring
