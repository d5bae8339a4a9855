import Mathlib.Algebra.Order.BigOperators.Group.List
import Mathlib.Order.Bounds.Basic
import HartLayer.Proofs.HeapRuns

/-!
# What callers of a heap can rely on

From the moment in which a heap gets its area, and after every lawful run from there:

* the blocks that live are aligned, lie in the area, and are apart (`live_blocks_apart`);
* holes and blocks that live tile the managed memory, and when no block lives, the heap answers as
  if it had just got its area (`tiles_and_starts_over`);
* the usage is told by the blocks that live, and a request that is not granted changes nothing
  (`usage_exact`).
-/

namespace HartLayer.HeapUse

/-- The memory that is managed in an area: from its first whole grain on, as many bytes as make
whole grains. -/
structure Manages (a : Area) (bottom total : Nat) : Prop where
  first : IsLeast {n | Hole.grain ∣ n ∧ a.start.toNat ≤ n} bottom
  extent : IsGreatest {n | Hole.grain ∣ n ∧ bottom + n ≤ a.stop.toNat} total

variable {a : Area} {heap : Heap} {u : HeapUse} {r : Arena}

theorem manages_ofArea (large : ¬a.size < Heap.minSize) :
    Manages a (Arena.ofArea a).bottom (Arena.ofArea a).total := by
  obtain ⟨bottom, total, -, fits⟩ := Arena.total_ofArea large
  have grain : Hole.grain = 8 := rfl
  refine ⟨⟨⟨dvd_alignUp _ _, ?_⟩, ?_⟩, ⟨⟨?_, fits⟩, ?_⟩⟩
  · rw [bottom]
    exact le_alignUp _ (by decide)
  · rintro n ⟨whole, behind⟩
    rw [bottom, alignUp, grain] at *
    omega
  · rw [total]
    exact Nat.dvd_mul_left _ _
  · rintro n ⟨whole, inside⟩
    rw [total, alignDown, grain] at *
    omega

theorem Keeps.manages (accepted : Heap.unset.init a = .ok heap) (keeps : Keeps a u r) :
    Manages a r.bottom r.total := by
  rw [keeps.bottom_eq, keeps.total_eq]
  exact manages_ofArea (Heap.eq_of_init accepted).2.1

/-! ## Blocks apart -/

/-- A block that lives takes up managed memory only. -/
theorem Keeps.range_bounds (keeps : Keeps a u r) {b : HeapBlock} (mem : b ∈ u.live) :
    r.bottom ≤ b.range.start ∧ b.range.stop ≤ r.bottom + r.total := by
  have pos := (keeps.accounts.grained_range mem).pos
  have inside (x : Nat) (within : b.range.start ≤ x ∧ x < b.range.stop) :
      r.bottom ≤ x ∧ x < r.bottom + r.total := by
    have covers := keeps.accounts.covers x
    have here : 0 < coverage x (u.live.map HeapBlock.range) :=
      coverage_pos_of_mem (List.mem_map_of_mem mem) within
    rw [coverage_append] at covers
    split at covers
    · assumption
    · omega
  have first := inside b.range.start (by unfold Hole.stop; omega)
  have last := inside (b.range.stop - 1) (by unfold Hole.stop; omega)
  omega

theorem Keeps.pairwise_apart (keeps : Keeps a u r) :
    (u.live.map HeapBlock.range).Pairwise Hole.Apart := by
  refine pairwise_apart_of_coverage (fun x => ?_) fun h mem => ?_
  · have covers := keeps.accounts.covers x
    rw [coverage_append] at covers
    split at covers <;> omega
  · obtain ⟨b, lives, rfl⟩ := List.mem_map.mp mem
    exact (keeps.accounts.grained_range lives).pos

/-- After every lawful run of a heap that got an area, the blocks that live are aligned as it was
asked for, the memory that they take up is large enough and lies in the area, and no two of them
share a byte. -/
theorem live_blocks_apart (accepted : Heap.unset.init a = .ok heap) (start : a.start ≠ 0)
    (memory : Memory) (rs : List HeapRequest) (lawful : (fresh heap memory).Lawful rs) :
    let live := ((fresh heap memory).run rs).live
    (∀ b ∈ live, b.address ≠ 0 ∧ b.layout.align ∣ b.address ∧ b.layout.size ≤ b.range.size ∧
      a.start.toNat ≤ b.range.start ∧ b.range.stop ≤ a.stop.toNat) ∧
    (live.map HeapBlock.range).Pairwise Hole.Apart := by
  obtain ⟨r, keeps⟩ := (keeps_fresh accepted memory).run lawful
  have managed := keeps.manages accepted
  refine ⟨fun b mem => ?_, keeps.pairwise_apart⟩
  have bounds := keeps.range_bounds mem
  have low : a.start.toNat ≤ r.bottom := managed.first.1.2
  have high : r.bottom + r.total ≤ a.stop.toNat := managed.extent.1.2
  have positive : 0 < a.start.toNat := by
    rw [Nat.pos_iff_ne_zero]
    exact fun zero => start (UInt64.toNat_inj.mp zero)
  have address : b.range.start = b.address := rfl
  refine ⟨by omega, (keeps.accounts.placed b mem).2, ?_, by omega, by omega⟩
  exact Nat.le_trans (Nat.le_max_left _ _) (Arena.max_le_adjusted _)

/-- An area that starts off the grain. -/
def oddArea : Area := ⟨0x80000004, 0x80000404⟩

/-- Blocks of several alignments, one that grows, and one that is freed. -/
def mixedRequests : List HeapRequest :=
  [.alloc ⟨100, 64⟩, .allocZeroed ⟨24, 8⟩, .alloc ⟨1, 1⟩, .realloc ⟨0x80000008, ⟨24, 8⟩⟩ 40,
    .dealloc (some 0x80000020) ⟨1, 1⟩, .alloc ⟨16, 256⟩]

theorem live_blocks_apart_mixedRequests :
    let u := fresh (some (.ofArea oddArea)) .zero
    Heap.unset.init oddArea = .ok (some (.ofArea oddArea)) ∧ oddArea.start ≠ 0 ∧
      u.Lawful mixedRequests ∧
      ((u.run mixedRequests).live.map HeapBlock.range).Pairwise Hole.Apart := by
  have accepted : Heap.unset.init oddArea = .ok (some (.ofArea oddArea)) := rfl
  have start : oddArea.start ≠ 0 := by decide
  have lawful : (fresh (some (.ofArea oddArea)) .zero).Lawful mixedRequests := by decide +kernel
  exact ⟨accepted, start, lawful, (live_blocks_apart accepted start .zero _ lawful).2⟩

/-! ## Starting over -/

theorem Keeps.eq_of_nil (accepted : Heap.unset.init a = .ok heap) (keeps : Keeps a u r)
    (none : u.live = []) : r = Arena.ofArea a := by
  obtain ⟨-, large, rfl⟩ := Heap.eq_of_init accepted
  have size := (Arena.total_ofArea large).2.2.1
  have pos : 0 < r.total := keeps.total_eq ▸ Nat.lt_of_lt_of_le (by decide) size
  obtain ⟨-, bottom, total, accounts⟩ := keeps
  rw [none] at accounts
  have holes := accounts.holes_eq_of_nil pos
  have used := accounts.used_eq
  obtain ⟨_, _, _, _⟩ := r
  dsimp only at *
  rw [holes, used, bottom, total]
  rfl

/-- After every lawful run of a heap that got an area, each address of the memory that it manages
lies in one hole or in one block that lives, and the holes do not touch. When all blocks were freed,
the heap answers whatever comes as it would have at first. -/
theorem tiles_and_starts_over (accepted : Heap.unset.init a = .ok heap) (memory : Memory)
    (rs : List HeapRequest) (lawful : (fresh heap memory).Lawful rs) :
    let u := (fresh heap memory).run rs
    (∃ r, u.space.heap = some r ∧ Manages a r.bottom r.total ∧
      (∀ x, coverage x (r.holes ++ u.live.map HeapBlock.range) =
        if r.bottom ≤ x ∧ x < r.bottom + r.total then 1 else 0) ∧
      (∀ h ∈ r.holes, 0 < h.size) ∧ r.holes.Pairwise fun h k => h.stop < k.start) ∧
    (u.live = [] → ∀ memory' later,
      u.space.answers later = (fresh heap memory').space.answers later) := by
  obtain ⟨r, keeps⟩ := (keeps_fresh accepted memory).run lawful
  refine ⟨⟨r, keeps.heap_eq, keeps.manages accepted, keeps.accounts.covers, fun h mem => ?_,
    keeps.accounts.separated⟩, fun none memory' later => ?_⟩
  · exact (keeps.accounts.grained h mem).pos
  · refine HeapSpace.answers_congr ?_ later
    rw [keeps.heap_eq, keeps.eq_of_nil accepted none]
    exact (Heap.eq_of_init accepted).2.2.symm

/-- Blocks that are freed in another order than they were taken. -/
def freedRequests : List HeapRequest :=
  mixedRequests ++ [.dealloc (some 0x80000040) ⟨100, 64⟩, .dealloc (some 0x80000100) ⟨16, 256⟩,
    .dealloc (some 0x800000a8) ⟨40, 8⟩]

theorem tiles_and_starts_over_freedRequests :
    let u := fresh (some (.ofArea oddArea)) .zero
    Heap.unset.init oddArea = .ok (some (.ofArea oddArea)) ∧ u.Lawful freedRequests ∧
      (u.run freedRequests).space.answers mixedRequests = u.space.answers mixedRequests := by
  have accepted : Heap.unset.init oddArea = .ok (some (.ofArea oddArea)) := rfl
  have lawful : (fresh (some (.ofArea oddArea)) .zero).Lawful freedRequests := by decide +kernel
  have none : ((fresh (some (.ofArea oddArea)) .zero).run freedRequests).live = [] := by
    decide +kernel
  exact ⟨accepted, lawful, (tiles_and_starts_over accepted .zero _ lawful).2 none .zero _⟩

/-! ## Usage, and requests that are not granted -/

/-- Where the answer is no address, nothing has changed. -/
theorem after_eq_of_null {q : HeapRequest} (null : (u.space.perform q).1 = .address none) :
    u.after q = u := by
  obtain ⟨s, live⟩ := u
  cases q with
  | init other =>
    simp only [HeapSpace.perform] at null
    split at null <;> cases null
  | alloc l =>
    rcases s.alloc_cases l with refused | ⟨r, b, r', -, -, given⟩
    · simp only [after, HeapSpace.perform, refused]
      rfl
    · simp [HeapSpace.perform, given] at null
  | allocZeroed l =>
    rcases s.alloc_cases l with refused | ⟨r, b, r', -, -, given⟩
    · simp only [after, HeapSpace.perform, HeapSpace.allocZeroed, refused]
      rfl
    · simp [HeapSpace.perform, HeapSpace.allocZeroed, given] at null
  | dealloc b l => cases null
  | realloc b size =>
    rcases s.alloc_cases ⟨size, b.layout.align⟩ with refused | ⟨r, c, r', -, -, given⟩
    · simp only [after, HeapSpace.perform, HeapSpace.realloc, refused]
      rfl
    · simp [HeapSpace.perform, HeapSpace.realloc, given] at null

theorem Keeps.usage_eq (keeps : Keeps a u r) :
    let used := (u.live.map fun b => Arena.adjusted b.layout.size).sum
    u.space.heap.usage = some (r.total, used, r.total - used) ∧ used ≤ r.total := by
  have sum : (u.live.map fun b => Arena.adjusted b.layout.size).sum = r.used := by
    rw [keeps.accounts.used_eq, totalSize, List.map_map]
    rfl
  have total := keeps.accounts.total_eq
  dsimp only
  rw [sum, keeps.heap_eq]
  exact ⟨rfl, by omega⟩

/-- The usage of a heap that got an area is told by the blocks that live, after every lawful run:
the managed memory, the rounded sizes of the blocks, and the difference. Adding the size of a block
that is granted and taking off that of one that lives leave no range. A request that is answered
with no address, one to free nothing and one for another area change nothing at all. -/
theorem usage_exact (accepted : Heap.unset.init a = .ok heap) (memory : Memory) :
    ∃ bottom total, Manages a bottom total ∧ total < UInt64.size ∧
      ∀ rs, (fresh heap memory).Lawful rs →
        let u := (fresh heap memory).run rs
        let used := (u.live.map fun b => Arena.adjusted b.layout.size).sum
        u.space.heap.usage = some (total, used, total - used) ∧ used ≤ total ∧
        (∀ l b, (u.space.alloc l).1 = some b → used + Arena.adjusted l.size ≤ total) ∧
        (∀ b ∈ u.live, Arena.adjusted b.layout.size ≤ used) ∧
        (∀ q, (u.space.perform q).1 = .address none → u.after q = u) ∧
        (∀ l, u.after (.dealloc none l) = u) ∧
        ∀ other, (u.space.perform (.init other)).1 = .refused .heapAlreadyInitialized ∧
          u.after (.init other) = u := by
  have managed := (keeps_fresh accepted memory).manages accepted
  refine ⟨_, _, managed, ?_, fun rs lawful => ?_⟩
  · have high := managed.extent.1.2
    have := a.stop.toNat_lt
    exact Nat.lt_of_le_of_lt (Nat.le_trans (Nat.le_add_left _ _) high) this
  · obtain ⟨r, keeps⟩ := (keeps_fresh accepted memory).run lawful
    rw [← keeps.total_eq]
    generalize (fresh heap memory).run rs = u at keeps
    obtain ⟨usage, fits⟩ := keeps.usage_eq
    refine ⟨usage, fits, ?_, ?_, fun q => after_eq_of_null, fun l => ?_, fun other => ?_⟩
    · intro l b given
      rcases u.space.alloc_cases l with refused | ⟨r₀, b', r', heap, found, -⟩
      · rw [refused] at given
        cases given
      · obtain rfl : r = r₀ := Option.some.inj (keeps.heap_eq.symm.trans heap)
        -- the next state accounts for one more block in the same memory
        have more := (keeps.accounts.allocate found).total_eq
        obtain ⟨-, holes, -, rfl⟩ := Arena.allocate?_eq_some found
        have now := usage.symm.trans (congrArg Heap.usage keeps.heap_eq)
        have used : _ = r.used := (Prod.mk.inj (Prod.mk.inj (Option.some.inj now)).2).1
        dsimp only at more
        omega
    · intro b mem
      exact List.le_sum_of_mem (List.mem_map_of_mem mem)
    · have same : u.space.dealloc none l = u.space := by
        rw [HeapSpace.dealloc, keeps.heap_eq]
        exact congrArg (HeapSpace.mk · u.space.memory) keeps.heap_eq.symm
      simp only [after, HeapSpace.perform, same, HeapRequest.track]
    · have refused : u.space.heap.init other = .error .heapAlreadyInitialized := by
        rw [keeps.heap_eq]
        rfl
      simp only [after, HeapSpace.perform, refused, HeapRequest.track, and_self]

theorem usage_exact_mixedRequests :
    let u := (fresh (some (.ofArea oddArea)) .zero).run mixedRequests
    Heap.unset.init oddArea = .ok (some (.ofArea oddArea)) ∧
      (fresh (some (.ofArea oddArea)) .zero).Lawful mixedRequests ∧
      (∃ total, u.space.heap.usage = some (total, 160, total - 160)) ∧
      u.after (.realloc ⟨0x80000040, ⟨100, 64⟩⟩ 4096) = u := by
  have accepted : Heap.unset.init oddArea = .ok (some (.ofArea oddArea)) := rfl
  have lawful : (fresh (some (.ofArea oddArea)) .zero).Lawful mixedRequests := by decide +kernel
  obtain ⟨-, total, -, -, exactly⟩ := usage_exact accepted .zero
  obtain ⟨usage, -, -, -, unchanged, -⟩ := exactly mixedRequests lawful
  have sizes : (((fresh (some (.ofArea oddArea)) .zero).run mixedRequests).live.map
      fun b => Arena.adjusted b.layout.size).sum = 160 := by decide +kernel
  rw [sizes] at usage
  exact ⟨accepted, lawful, ⟨total, usage⟩, unchanged _ (by decide +kernel)⟩

end HartLayer.HeapUse
