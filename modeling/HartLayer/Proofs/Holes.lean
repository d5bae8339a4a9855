import Mathlib.Algebra.BigOperators.Group.List.Basic
import Mathlib.Algebra.GroupWithZero.Nat
import Mathlib.Algebra.Order.Group.Nat
import Mathlib.Data.List.Pairwise
import HartLayer.Heap

/-!
# Holes as sets of addresses

What a list of ranges takes up is told by two numbers: in how many of the ranges an address lies
(`coverage`), and how many bytes they have (`totalSize`).

* `Holes.allocate?` takes one hole apart (`allocate?_eq_some`) into a block and the holes that
  remain of it (`Carves`). Coverage and total size stay as they were (`Carves.coverage`,
  `Carves.totalSize`).
* `Holes.release` joins the holes that touch, which changes neither (`coverage_release`,
  `totalSize_release`).
* Holes in order that do not touch (`Separated`) stay so in both cases (`Separated.allocate`,
  `Separated.release`).
-/

namespace HartLayer

/-! ## Rounding -/

theorem dvd_alignUp (n step : Nat) : step ∣ alignUp n step := Nat.dvd_mul_left _ _

theorem le_alignUp (n : Nat) {step : Nat} (pos : 0 < step) : n ≤ alignUp n step := by
  have split := Nat.div_add_mod (n + step - 1) step
  have small := Nat.mod_lt (n + step - 1) pos
  unfold alignUp
  rw [Nat.mul_comm]
  omega

theorem Layout.eq_two_pow_of_isPowerOfTwo {n : Nat} (h : isPowerOfTwo n = true) :
    n = 2 ^ n.log2 := by
  simp only [isPowerOfTwo, Bool.and_eq_true, decide_eq_true_eq, Nat.one_shiftLeft] at h
  exact h.2.symm

theorem Layout.pos_of_isPowerOfTwo {n : Nat} (h : isPowerOfTwo n = true) : 0 < n := by
  rw [eq_two_pow_of_isPowerOfTwo h]
  exact Nat.two_pow_pos _

/-- Of two powers of two one divides the other. -/
theorem Layout.dvd_grain_or_grain_dvd {n : Nat} (h : isPowerOfTwo n = true) :
    n ∣ Hole.grain ∨ Hole.grain ∣ n := by
  rw [eq_two_pow_of_isPowerOfTwo h, show Hole.grain = 2 ^ 3 from rfl]
  rcases Nat.le_total n.log2 3 with small | large
  · exact .inl (Nat.pow_dvd_pow 2 small)
  · exact .inr (Nat.pow_dvd_pow 2 large)

/-! ## What ranges take up -/

namespace Hole

def has (h : Hole) (x : Nat) : Bool := decide (h.start ≤ x ∧ x < h.stop)

/-- One range ends before the other starts. -/
def Apart (h k : Hole) : Prop := h.stop ≤ k.start ∨ k.stop ≤ h.start

instance (h k : Hole) : Decidable (Apart h k) := by
  unfold Apart
  infer_instance

/-- A range of whole grains that has room for the description of a hole. -/
structure Grained (h : Hole) : Prop where
  start : grain ∣ h.start
  size : grain ∣ h.size
  min : minSize ≤ h.size

theorem Grained.pos {h : Hole} (grained : h.Grained) : 0 < h.size :=
  Nat.lt_of_lt_of_le (by decide) grained.min

end Hole

/-- In how many ranges an address lies. -/
def coverage (x : Nat) (hs : List Hole) : Nat := hs.countP (·.has x)

def totalSize (hs : List Hole) : Nat := (hs.map Hole.size).sum

section Coverage

variable (x : Nat) (h : Hole) (hs ks : List Hole)

@[simp] theorem coverage_nil : coverage x [] = 0 := rfl

@[simp] theorem coverage_cons :
    coverage x (h :: hs) = (if h.start ≤ x ∧ x < h.stop then 1 else 0) + coverage x hs := by
  simp [coverage, Hole.has, List.countP_cons, Nat.add_comm]

@[simp] theorem coverage_append : coverage x (hs ++ ks) = coverage x hs + coverage x ks :=
  List.countP_append

@[simp] theorem totalSize_nil : totalSize [] = 0 := rfl

@[simp] theorem totalSize_cons : totalSize (h :: hs) = h.size + totalSize hs := by
  simp [totalSize]

@[simp] theorem totalSize_append : totalSize (hs ++ ks) = totalSize hs + totalSize ks := by
  simp [totalSize]

end Coverage

theorem coverage_pos_of_mem {x : Nat} {h : Hole} {hs : List Hole} (mem : h ∈ hs)
    (inside : h.start ≤ x ∧ x < h.stop) : 0 < coverage x hs :=
  List.countP_pos_iff.mpr ⟨h, mem, decide_eq_true inside⟩

theorem exists_mem_of_coverage_pos {x : Nat} {hs : List Hole} (pos : 0 < coverage x hs) :
    ∃ h ∈ hs, h.start ≤ x ∧ x < h.stop := by
  obtain ⟨h, mem, inside⟩ := List.countP_pos_iff.mp pos
  exact ⟨h, mem, of_decide_eq_true inside⟩

theorem Hole.apart_or_common {h k : Hole} (hp : 0 < h.size) (kp : 0 < k.size) :
    h.Apart k ∨ ∃ x, (h.start ≤ x ∧ x < h.stop) ∧ k.start ≤ x ∧ x < k.stop := by
  by_cases apart : h.Apart k
  · exact .inl apart
  · refine .inr ⟨max h.start k.start, ?_⟩
    unfold Apart stop at *
    omega

/-- Ranges of which no two have an address in common are apart. -/
theorem pairwise_apart_of_coverage {hs : List Hole} (once : ∀ x, coverage x hs ≤ 1)
    (pos : ∀ h ∈ hs, 0 < h.size) : hs.Pairwise Hole.Apart := by
  induction hs with
  | nil => exact List.Pairwise.nil
  | cons h hs ih =>
    have later : ∀ k ∈ hs, 0 < k.size := fun k mem => pos k (List.mem_cons_of_mem h mem)
    refine List.pairwise_cons.mpr ⟨fun k mem => ?_, ih (fun x => ?_) later⟩
    · rcases Hole.apart_or_common (pos h List.mem_cons_self) (later k mem) with
        apart | ⟨x, here, there⟩
      · exact apart
      · have twice := once x
        have other := coverage_pos_of_mem mem there
        rw [coverage_cons, if_pos here] at twice
        omega
    · have := once x
      rw [coverage_cons] at this
      omega

/-! ## Holes in order -/

/-- Holes in the order of their addresses, of which no two touch. -/
def Separated (hs : Holes) : Prop := hs.Pairwise fun h k => h.stop < k.start

namespace Hole

variable {h : Hole} {a size align : Nat} {pieces : List Hole}

/-- A block that is taken out of a hole, and the holes that remain. -/
structure Carves (h : Hole) (size align a : Nat) (pieces : List Hole) : Prop where
  front : a = h.start ∨ h.start + minSize ≤ a
  back : a + size = h.stop ∨ a + size + minSize ≤ h.stop
  aligned : align ∣ a
  grained : grain ∣ h.start → grain ∣ a
  pieces_eq : pieces = between h.start a ++ between (a + size) h.stop

theorem dvd_blockStart (h : Hole) (align : Nat) : align ∣ h.blockStart align := by
  unfold blockStart
  split
  · exact Nat.dvd_of_mod_eq_zero ‹_›
  · exact dvd_alignUp _ _

theorem blockStart_front (h : Hole) (power : Layout.isPowerOfTwo align = true) :
    h.blockStart align = h.start ∨ h.start + minSize ≤ h.blockStart align := by
  unfold blockStart
  split
  · exact .inl rfl
  · exact .inr (le_alignUp _ (Layout.pos_of_isPowerOfTwo power))

/-- A block starts at a whole grain, also where its alignment is finer than that. -/
theorem grain_dvd_blockStart (power : Layout.isPowerOfTwo align = true)
    (whole : grain ∣ h.start) : grain ∣ h.blockStart align := by
  rcases Layout.dvd_grain_or_grain_dvd power with fine | coarse
  · have here : h.start % align = 0 := Nat.mod_eq_zero_of_dvd (fine.trans whole)
    rwa [blockStart, if_pos here]
  · exact coarse.trans (h.dvd_blockStart align)

theorem carves_of_carve? (power : Layout.isPowerOfTwo align = true)
    (carved : h.carve? size align = some (a, pieces)) : Carves h size align a pieces := by
  unfold carve? at carved
  dsimp only at carved
  split at carved
  · cases carved
  · split at carved
    · cases carved
    · obtain ⟨rfl, rfl⟩ := Prod.mk.inj (Option.some.inj carved)
      refine ⟨h.blockStart_front power, ?_, h.dvd_blockStart align,
        grain_dvd_blockStart power, rfl⟩
      omega

theorem coverage_between (x start stop : Nat) :
    coverage x (between start stop) = if start ≤ x ∧ x < stop then 1 else 0 := by
  unfold between
  split
  · have whole : start + (stop - start) = stop := by omega
    simp only [coverage_cons, coverage_nil, Hole.stop, whole, Nat.add_zero]
  · rw [coverage_nil, if_neg (by omega)]

theorem totalSize_between (start stop : Nat) : totalSize (between start stop) = stop - start := by
  unfold between
  split
  · simp
  · rw [totalSize_nil]
    omega

theorem mem_between {k : Hole} {start stop : Nat} :
    k ∈ between start stop ↔ start < stop ∧ k = ⟨start, stop - start⟩ := by
  unfold between
  split <;> simp [*]

/-- What is taken out of a hole and what remains of it take up what the hole took up. -/
theorem Carves.coverage (carves : Carves h size align a pieces) (x : Nat) :
    coverage x (⟨a, size⟩ :: pieces) = coverage x [h] := by
  obtain ⟨front, back, -, -, rfl⟩ := carves
  simp only [coverage_cons, coverage_append, coverage_between, coverage_nil]
  unfold stop at *
  dsimp only
  split_ifs <;> omega

theorem Carves.totalSize (carves : Carves h size align a pieces) :
    size + totalSize pieces = h.size := by
  obtain ⟨front, back, -, -, rfl⟩ := carves
  rw [totalSize_append, totalSize_between, totalSize_between]
  unfold stop at *
  omega

theorem Carves.grained_of_mem (carves : Carves h size align a pieces) (whole : h.Grained)
    (sized : grain ∣ size) {k : Hole} (mem : k ∈ pieces) : k.Grained := by
  obtain ⟨front, back, -, grained, rfl⟩ := carves
  have start := grained whole.start
  have stop : grain ∣ h.stop := Nat.dvd_add whole.start whole.size
  rcases List.mem_append.mp mem with mem | mem
  · obtain ⟨less, rfl⟩ := mem_between.mp mem
    refine ⟨whole.start, Nat.dvd_sub start whole.start, ?_⟩
    dsimp only
    omega
  · obtain ⟨less, rfl⟩ := mem_between.mp mem
    refine ⟨Nat.dvd_add start sized, Nat.dvd_sub stop (Nat.dvd_add start sized), ?_⟩
    dsimp only
    omega

theorem Carves.bounds_of_mem (carves : Carves h size align a pieces) {k : Hole}
    (mem : k ∈ pieces) : h.start ≤ k.start ∧ k.stop ≤ h.stop := by
  obtain ⟨front, back, -, -, rfl⟩ := carves
  rcases List.mem_append.mp mem with mem | mem
  · obtain ⟨less, rfl⟩ := mem_between.mp mem
    unfold stop at *
    dsimp only
    omega
  · obtain ⟨less, rfl⟩ := mem_between.mp mem
    unfold stop at *
    dsimp only
    omega

theorem Carves.separated (carves : Carves h size align a pieces) (pos : 0 < size) :
    Separated pieces := by
  obtain ⟨front, back, -, -, rfl⟩ := carves
  unfold Separated
  rw [List.pairwise_append]
  refine ⟨?_, ?_, ?_⟩
  · unfold between
    split <;> simp
  · unfold between
    split <;> simp
  · intro k hk l hl
    obtain ⟨less, rfl⟩ := mem_between.mp hk
    obtain ⟨less', rfl⟩ := mem_between.mp hl
    unfold stop
    dsimp only
    omega

end Hole

namespace Holes

variable {size align a : Nat} {hs rest : Holes}

/-- An allocation takes one hole apart and leaves the others as they are. -/
theorem allocate?_eq_some (found : allocate? size align hs = some (a, rest)) :
    ∃ before h after pieces, hs = before ++ h :: after ∧
      h.carve? size align = some (a, pieces) ∧ rest = before ++ (pieces ++ after) := by
  induction hs generalizing rest with
  | nil => cases found
  | cons h hs ih =>
    unfold allocate? at found
    split at found
    · next b pieces carved =>
      obtain ⟨rfl, rfl⟩ := Prod.mk.inj (Option.some.inj found)
      exact ⟨[], h, hs, pieces, rfl, carved, rfl⟩
    · obtain ⟨⟨b, more⟩, later, e⟩ := Option.map_eq_some_iff.mp found
      obtain ⟨rfl, rfl⟩ := Prod.mk.inj e
      obtain ⟨before, k, after, pieces, rfl, carved, rfl⟩ := ih later
      exact ⟨h :: before, k, after, pieces, rfl, carved, rfl⟩

end Holes

theorem Separated.allocate {h : Hole} {size align a : Nat} {before after pieces : List Hole}
    (separated : Separated (before ++ h :: after)) (carves : h.Carves size align a pieces)
    (pos : 0 < size) : Separated (before ++ (pieces ++ after)) := by
  unfold Separated at *
  obtain ⟨first, others, across⟩ := List.pairwise_append.mp separated
  obtain ⟨behind, last⟩ := List.pairwise_cons.mp others
  refine List.pairwise_append.mpr ⟨first, List.pairwise_append.mpr ⟨carves.separated pos, last, ?_⟩,
    ?_⟩
  · intro k mem l mem'
    have inside := carves.bounds_of_mem mem
    have beyond := behind l mem'
    omega
  · intro k mem l mem'
    rcases List.mem_append.mp mem' with piece | later
    · have inside := carves.bounds_of_mem piece
      have beyond := across k mem h List.mem_cons_self
      omega
    · exact across k mem l (List.mem_cons_of_mem h later)

/-! ## Holes that are joined -/

namespace Holes

theorem coverage_consJoined (x : Nat) (h : Hole) (hs : Holes) :
    coverage x (consJoined h hs) = coverage x (h :: hs) := by
  cases hs with
  | nil => rfl
  | cons k hs =>
    rw [consJoined]
    split
    · next touch =>
      simp only [coverage_cons]
      unfold Hole.stop at *
      dsimp only
      split_ifs <;> omega
    · rfl

theorem totalSize_consJoined (h : Hole) (hs : Holes) :
    totalSize (consJoined h hs) = totalSize (h :: hs) := by
  cases hs with
  | nil => rfl
  | cons k hs =>
    rw [consJoined]
    split
    · simp only [totalSize_cons]
      omega
    · rfl

/-- A block that is freed adds its own addresses to those of the holes. -/
theorem coverage_release (x : Nat) (b : Hole) (hs : Holes) :
    coverage x (release b hs) = coverage x (b :: hs) := by
  induction hs with
  | nil => rfl
  | cons h hs ih =>
    unfold release
    split
    · exact coverage_consJoined x b _
    · rw [coverage_consJoined, coverage_cons, ih]
      simp only [coverage_cons]
      omega

theorem totalSize_release (b : Hole) (hs : Holes) :
    totalSize (release b hs) = totalSize (b :: hs) := by
  induction hs with
  | nil => rfl
  | cons h hs ih =>
    unfold release
    split
    · exact totalSize_consJoined b _
    · rw [totalSize_consJoined, totalSize_cons, ih]
      simp only [totalSize_cons]
      omega

/-- A hole that is joined keeps its start, and what it is joined with goes up in it. -/
theorem mem_consJoined {h k : Hole} {hs : Holes} (mem : k ∈ consJoined h hs) :
    k ∈ h :: hs ∨ ∃ l ∈ hs, k = ⟨h.start, h.size + l.size⟩ := by
  cases hs with
  | nil => exact .inl mem
  | cons l hs =>
    rw [consJoined] at mem
    split at mem
    · rcases List.mem_cons.mp mem with rfl | mem
      · exact .inr ⟨l, List.mem_cons_self, rfl⟩
      · exact .inl (List.mem_cons_of_mem h (List.mem_cons_of_mem l mem))
    · exact .inl mem

theorem grained_of_mem_consJoined {h : Hole} {hs : Holes} (whole : ∀ k ∈ h :: hs, k.Grained) :
    ∀ k ∈ consJoined h hs, k.Grained := by
  intro k mem
  rcases mem_consJoined mem with old | ⟨l, joined, rfl⟩
  · exact whole k old
  · have first := whole h List.mem_cons_self
    have second := whole l (List.mem_cons_of_mem h joined)
    exact ⟨first.start, Nat.dvd_add first.size second.size,
      Nat.le_add_right_of_le first.min⟩

theorem grained_of_mem_release {b : Hole} {hs : Holes} (block : b.Grained)
    (whole : ∀ k ∈ hs, k.Grained) : ∀ k ∈ release b hs, k.Grained := by
  induction hs with
  | nil =>
    intro k mem
    rw [List.mem_singleton.mp mem]
    exact block
  | cons h hs ih =>
    have rest := ih fun k mem => whole k (List.mem_cons_of_mem h mem)
    unfold release
    split
    · exact grained_of_mem_consJoined (List.forall_mem_cons.mpr ⟨block, whole⟩)
    · exact grained_of_mem_consJoined (List.forall_mem_cons.mpr ⟨whole h List.mem_cons_self, rest⟩)

theorem start_of_mem_consJoined {h k : Hole} {hs : Holes} (mem : k ∈ consJoined h hs) :
    ∃ l ∈ h :: hs, k.start = l.start := by
  rcases mem_consJoined mem with old | ⟨l, -, rfl⟩
  · exact ⟨k, old, rfl⟩
  · exact ⟨h, List.mem_cons_self, rfl⟩

theorem start_of_mem_release {b k : Hole} {hs : Holes} (mem : k ∈ release b hs) :
    ∃ l ∈ b :: hs, k.start = l.start := by
  induction hs generalizing k with
  | nil => exact ⟨k, mem, rfl⟩
  | cons h hs ih =>
    unfold release at mem
    split at mem
    · exact start_of_mem_consJoined mem
    · obtain ⟨l, mem, e⟩ := start_of_mem_consJoined mem
      rcases List.mem_cons.mp mem with rfl | mem
      · exact ⟨l, by simp, e⟩
      · obtain ⟨m, mem, e'⟩ := ih mem
        refine ⟨m, ?_, e.trans e'⟩
        rcases List.mem_cons.mp mem with rfl | mem
        · exact List.mem_cons_self
        · exact List.mem_cons_of_mem _ (List.mem_cons_of_mem h mem)

end Holes

theorem Separated.consJoined {h : Hole} {hs : Holes} (separated : Separated hs)
    (behind : ∀ k ∈ hs, h.stop ≤ k.start) (pos : ∀ k ∈ hs, 0 < k.size) :
    Separated (Holes.consJoined h hs) := by
  unfold Separated at *
  cases hs with
  | nil => exact List.pairwise_singleton _ _
  | cons k hs =>
    obtain ⟨beyond, rest⟩ := List.pairwise_cons.mp separated
    rw [Holes.consJoined]
    split
    · next touch =>
      refine List.pairwise_cons.mpr ⟨fun l mem => ?_, rest⟩
      have := beyond l mem
      unfold Hole.stop at *
      dsimp only
      omega
    · next gap =>
      refine List.pairwise_cons.mpr ⟨fun l mem => ?_, separated⟩
      have first := behind k List.mem_cons_self
      have size := pos k List.mem_cons_self
      rcases List.mem_cons.mp mem with rfl | mem
      · omega
      · have := beyond l mem
        unfold Hole.stop at *
        omega

/-- A block apart from all holes is freed into its place, and joined with the holes that it
touches. -/
theorem Separated.release {b : Hole} {hs : Holes} (separated : Separated hs)
    (apart : ∀ k ∈ hs, b.Apart k) (block : b.Grained) (whole : ∀ k ∈ hs, k.Grained) :
    Separated (Holes.release b hs) := by
  induction hs with
  | nil => exact List.pairwise_singleton _ _
  | cons h hs ih =>
    obtain ⟨beyond, rest⟩ := List.pairwise_cons.mp separated
    have here := apart h List.mem_cons_self
    have size := (whole h List.mem_cons_self).pos
    have later : ∀ k ∈ hs, k.Grained := fun k mem => whole k (List.mem_cons_of_mem h mem)
    unfold Holes.release
    split
    · next before =>
      refine separated.consJoined (fun k mem => ?_) fun k mem => (whole k mem).pos
      rcases List.mem_cons.mp mem with rfl | mem
      · unfold Hole.Apart Hole.stop at *
        omega
      · have := beyond k mem
        unfold Hole.Apart Hole.stop at *
        omega
    · next behind =>
      have inner := ih rest (fun k mem => apart k (List.mem_cons_of_mem h mem)) later
      have pos := Holes.grained_of_mem_release block later
      refine inner.consJoined (fun k mem => ?_) fun k mem => (pos k mem).pos
      obtain ⟨l, mem, e⟩ := Holes.start_of_mem_release mem
      rw [e]
      rcases List.mem_cons.mp mem with rfl | mem
      · have := block.pos
        unfold Hole.Apart Hole.stop at *
        omega
      · exact Nat.le_of_lt (beyond l mem)

end HartLayer
