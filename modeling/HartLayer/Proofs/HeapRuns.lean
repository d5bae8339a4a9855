import HartLayer.Proofs.Holes

/-!
# Runs of a heap

Callers of a heap know the blocks that live from the answers that they got (`HeapRequest.track`),
and free or move only what lives (`HeapRequest.Lawful`).

* The holes of the heap and the blocks that live take up the managed memory, each address once
  (`Arena.Accounts`). Allocating and freeing keep that (`Accounts.allocate`, `Accounts.free`).
* So it holds after every lawful run (`HeapUse.Keeps.run`).
* When no block lives, the heap is as it was when it got its area (`Accounts.holes_eq_of_nil`).
-/

namespace HartLayer

/-! ## Requests -/

structure HeapBlock where
  address : Nat
  layout : Layout
  deriving DecidableEq, Repr

/-- The memory that a block takes up. -/
def HeapBlock.range (b : HeapBlock) : Hole := ⟨b.address, Arena.adjusted b.layout.size⟩

/-- What a heap is asked for. -/
inductive HeapRequest where
  | init (a : Area)
  | alloc (l : Layout)
  | allocZeroed (l : Layout)
  | dealloc (a : Option Nat) (l : Layout)
  | realloc (b : HeapBlock) (size : Nat)
  deriving DecidableEq, Repr

inductive HeapAnswer where
  | done
  | refused (e : ResourceError)
  | address (a : Option Nat)
  deriving DecidableEq, Repr

def HeapSpace.perform (s : HeapSpace) : HeapRequest → HeapAnswer × HeapSpace
  | .init a =>
    match s.heap.init a with
    | .ok heap => (.done, { s with heap })
    | .error e => (.refused e, s)
  | .alloc l => ((s.alloc l).1 |> .address, (s.alloc l).2)
  | .allocZeroed l => (.address (s.allocZeroed l).1, (s.allocZeroed l).2)
  | .dealloc a l => (.done, s.dealloc a l)
  | .realloc b size =>
    let moved := s.realloc (some b.address) b.layout ⟨size, b.layout.align⟩
    (.address moved.1, moved.2)

/-- The answers to requests, each with the usage after it. -/
def HeapSpace.answers (s : HeapSpace) :
    List HeapRequest → List (HeapAnswer × Option (Nat × Nat × Nat))
  | [] => []
  | r :: rs => ((s.perform r).1, (s.perform r).2.heap.usage) :: (s.perform r).2.answers rs

namespace HeapRequest

/-- Only blocks that live are freed or moved, and with their own layouts. Freeing no block is
allowed. -/
def Lawful (live : List HeapBlock) : HeapRequest → Prop
  | dealloc (some a) l => ⟨a, l⟩ ∈ live
  | realloc b _ => b ∈ live
  | _ => True

instance (live : List HeapBlock) : (r : HeapRequest) → Decidable (r.Lawful live)
  | dealloc (some a) l => inferInstanceAs (Decidable (⟨a, l⟩ ∈ live))
  | realloc b _ => inferInstanceAs (Decidable (b ∈ live))
  | init _ | alloc _ | allocZeroed _ | dealloc none _ => .isTrue trivial

/-- The blocks that live after a request that was answered. -/
def track (live : List HeapBlock) : HeapRequest → HeapAnswer → List HeapBlock
  | alloc l, .address (some a) => ⟨a, l⟩ :: live
  | allocZeroed l, .address (some a) => ⟨a, l⟩ :: live
  | dealloc (some a) l, _ => live.erase ⟨a, l⟩
  | realloc b size, .address (some a) => (⟨a, ⟨size, b.layout.align⟩⟩ :: live).erase b
  | _, _ => live

end HeapRequest

/-- A heap in use, with the blocks that live. -/
structure HeapUse where
  space : HeapSpace
  live : List HeapBlock

namespace HeapUse

/-- A heap of which nothing is used. -/
def fresh (heap : Heap) (memory : Memory) : HeapUse := ⟨⟨heap, memory⟩, []⟩

def after (u : HeapUse) (r : HeapRequest) : HeapUse :=
  ⟨(u.space.perform r).2, r.track u.live (u.space.perform r).1⟩

def run (u : HeapUse) (rs : List HeapRequest) : HeapUse := rs.foldl after u

/-- Each request is lawful when it is made. -/
def Lawful (u : HeapUse) : List HeapRequest → Prop
  | [] => True
  | r :: rs => r.Lawful u.live ∧ (u.after r).Lawful rs

instance decidableLawful : (u : HeapUse) → (rs : List HeapRequest) → Decidable (u.Lawful rs)
  | _, [] => .isTrue trivial
  | u, r :: rs =>
    have := decidableLawful (u.after r) rs
    inferInstanceAs (Decidable (r.Lawful u.live ∧ (u.after r).Lawful rs))

end HeapUse

/-! ## The state of the heap and the blocks that live -/

namespace Arena

theorem grain_dvd_adjusted (size : Nat) : Hole.grain ∣ adjusted size := dvd_alignUp _ _

theorem max_le_adjusted (size : Nat) : max size Hole.minSize ≤ adjusted size :=
  le_alignUp _ (by decide)

theorem allocate?_eq_some {r r' : Arena} {l : Layout} {a : Nat}
    (found : r.allocate? l = some (a, r')) :
    Layout.isPowerOfTwo l.align = true ∧
      ∃ holes, r.holes.allocate? (adjusted l.size) l.align = some (a, holes) ∧
        r' = { r with used := r.used + adjusted l.size, holes } := by
  unfold allocate? at found
  obtain ⟨fit, fits, found⟩ := Option.bind_eq_some_iff.mp found
  obtain ⟨⟨b, holes⟩, taken, e⟩ := Option.bind_eq_some_iff.mp found
  unfold Layout.new? at fits
  split at fits
  · next valid =>
    cases fits
    cases e
    exact ⟨valid.1, holes, taken, rfl⟩
  · cases fits

/-- The holes and the blocks that live take up the managed memory. -/
structure Accounts (r : Arena) (live : List HeapBlock) : Prop where
  covers : ∀ x, coverage x (r.holes ++ live.map HeapBlock.range) =
    if r.bottom ≤ x ∧ x < r.bottom + r.total then 1 else 0
  separated : Separated r.holes
  grained : ∀ h ∈ r.holes, h.Grained
  placed : ∀ b ∈ live, Hole.grain ∣ b.address ∧ b.layout.align ∣ b.address
  used_eq : r.used = totalSize (live.map HeapBlock.range)
  total_eq : totalSize r.holes + r.used = r.total

namespace Accounts

variable {r r' : Arena} {live : List HeapBlock} {b : HeapBlock} {l : Layout} {a : Nat}

theorem grained_range (accounts : r.Accounts live) (mem : b ∈ live) : b.range.Grained :=
  ⟨(accounts.placed b mem).1, grain_dvd_adjusted _,
    Nat.le_trans (Nat.le_max_right _ _) (max_le_adjusted _)⟩

theorem allocate (accounts : r.Accounts live) (found : r.allocate? l = some (a, r')) :
    r'.Accounts (⟨a, l⟩ :: live) := by
  obtain ⟨power, holes, taken, rfl⟩ := allocate?_eq_some found
  obtain ⟨before, h, after, pieces, split, carved, rfl⟩ := Holes.allocate?_eq_some taken
  have carves := Hole.carves_of_carve? power carved
  obtain ⟨covers, separated, grained, placed, used_eq, total_eq⟩ := accounts
  rw [split] at covers separated grained total_eq
  have whole : h.Grained := grained h (by simp)
  have pos : 0 < adjusted l.size :=
    Nat.lt_of_lt_of_le (by decide) (Nat.le_trans (Nat.le_max_right _ _) (max_le_adjusted _))
  refine ⟨?_, separated.allocate carves pos, ?_, ?_, ?_, ?_⟩
  · intro x
    have same := carves.coverage x
    rw [← covers x]
    simp only [List.map_cons, coverage_append, coverage_cons, coverage_nil, HeapBlock.range] at *
    omega
  · intro k mem
    rcases List.mem_append.mp mem with mem | mem
    · exact grained k (by simp [mem])
    rcases List.mem_append.mp mem with mem | mem
    · exact carves.grained_of_mem whole (grain_dvd_adjusted _) mem
    · exact grained k (by simp [mem])
  · intro b mem
    rcases List.mem_cons.mp mem with rfl | mem
    · exact ⟨carves.grained whole.start, carves.aligned⟩
    · exact placed b mem
  · rw [List.map_cons, totalSize_cons, ← used_eq]
    exact Nat.add_comm _ _
  · have size := carves.totalSize
    simp only [totalSize_append, totalSize_cons] at *
    omega

theorem free (accounts : r.Accounts live) (mem : b ∈ live) :
    (r.free b.address b.layout).Accounts (live.erase b) := by
  have range := accounts.grained_range mem
  obtain ⟨covers, separated, grained, placed, used_eq, total_eq⟩ := accounts
  have perm := (List.perm_cons_erase mem).map HeapBlock.range
  have coverage_live (x : Nat) : coverage x (live.map HeapBlock.range) =
      coverage x (b.range :: (live.erase b).map HeapBlock.range) := perm.countP_eq _
  have size_live : totalSize (live.map HeapBlock.range) =
      totalSize (b.range :: (live.erase b).map HeapBlock.range) := (perm.map Hole.size).sum_eq
  have apart : ∀ h ∈ r.holes, b.range.Apart h := by
    intro h mem'
    rcases Hole.apart_or_common range.pos (grained h mem').pos with apart | ⟨x, within, within'⟩
    · exact apart
    · -- an address in both would be covered twice
      have once := covers x
      have block := coverage_pos_of_mem (List.mem_map_of_mem mem) within
      have hole := coverage_pos_of_mem mem' within'
      rw [coverage_append] at once
      split at once <;> omega
  refine ⟨?_, separated.release apart range grained, Holes.grained_of_mem_release range grained,
    fun c mem => placed c (List.mem_of_mem_erase mem), ?_, ?_⟩
  · intro x
    have moved := Holes.coverage_release x b.range r.holes
    rw [coverage_cons] at moved
    have before := coverage_live x
    rw [coverage_cons] at before
    show coverage x (Holes.release b.range r.holes ++ _) = _
    rw [coverage_append, moved]
    refine Eq.trans ?_ (covers x)
    rw [coverage_append, before]
    omega
  · show r.used - b.range.size = _
    rw [totalSize_cons] at size_live
    omega
  · have moved := Holes.totalSize_release b.range r.holes
    show totalSize (Holes.release b.range r.holes) + (r.used - b.range.size) = r.total
    rw [totalSize_cons] at size_live moved
    omega

/-- When no block lives, one hole takes up all of the managed memory. -/
theorem holes_eq_of_nil (accounts : r.Accounts []) (pos : 0 < r.total) :
    r.holes = [⟨r.bottom, r.total⟩] := by
  obtain ⟨covers, separated, grained, -, used_eq, total_eq⟩ := accounts
  simp only [List.map_nil, List.append_nil, totalSize_nil] at covers used_eq
  -- the start of a hole is managed, and so is all that lies behind it in the hole
  have managed : ∀ h ∈ r.holes, r.bottom ≤ h.start ∧ h.start < r.bottom + r.total := by
    intro h mem
    have size := (grained h mem).pos
    have inside := covers h.start
    have here : 0 < coverage h.start r.holes :=
      coverage_pos_of_mem mem (by unfold Hole.stop; omega)
    split at inside <;> omega
  have covered (x : Nat) (inside : r.bottom ≤ x ∧ x < r.bottom + r.total) :
      ∃ h ∈ r.holes, h.start ≤ x ∧ x < h.stop := by
    refine exists_mem_of_coverage_pos ?_
    rw [covers x, if_pos inside]
    exact Nat.one_pos
  have first := covered r.bottom (by omega)
  generalize r.holes = hs at *
  match hs with
  | [] => simp at first
  | [h] =>
    have start := managed h (by simp)
    simp only [List.mem_singleton, exists_eq_left, totalSize_cons, totalSize_nil] at first total_eq
    obtain ⟨start', size'⟩ := h
    simp only [List.cons.injEq, Hole.mk.injEq, and_true]
    dsimp only at *
    omega
  | h :: k :: hs =>
    -- what lies between two holes would not be covered
    exfalso
    obtain ⟨behind, -⟩ := List.pairwise_cons.mp separated
    have start := managed h (by simp)
    have next := managed k (by simp)
    have gap := behind k (by simp)
    obtain ⟨l, mem, inside⟩ := covered h.stop (by unfold Hole.stop at *; omega)
    rcases List.mem_cons.mp mem with rfl | mem
    · omega
    · have := behind l mem
      omega

end Accounts

/-! ## From the area on -/

theorem total_ofArea {a : Area} (large : ¬a.size < Heap.minSize) :
    (ofArea a).bottom = alignUp a.start.toNat Hole.grain ∧
      (ofArea a).total = alignDown (a.stop.toNat - (ofArea a).bottom) Hole.grain ∧
      Hole.minSize ≤ (ofArea a).total ∧ (ofArea a).bottom + (ofArea a).total ≤ a.stop.toNat := by
  have size := a.toNat_size
  have least : 32 ≤ a.size.toNat := UInt64.not_lt.mp large
  have grain : Hole.grain = 8 := rfl
  have min : Hole.minSize = 16 := rfl
  simp only [ofArea, alignUp, alignDown, size, grain, min] at *
  refine ⟨trivial, ?_, ?_, ?_⟩ <;> omega

theorem accounts_ofArea {a : Area} (large : ¬a.size < Heap.minSize) :
    (ofArea a).Accounts [] := by
  obtain ⟨-, total, min, -⟩ := total_ofArea large
  refine ⟨?_, List.pairwise_singleton _ _, ?_, ?_, rfl, ?_⟩
  · intro x
    show coverage x [⟨(ofArea a).bottom, (ofArea a).total⟩] = _
    rw [coverage_cons]
    rfl
  · intro h mem
    obtain rfl : h = ⟨(ofArea a).bottom, (ofArea a).total⟩ := List.mem_singleton.mp mem
    refine ⟨dvd_alignUp _ _, ?_, min⟩
    rw [total]
    exact Nat.dvd_mul_left _ _
  · intro b mem
    cases mem
  · show totalSize [⟨(ofArea a).bottom, (ofArea a).total⟩] + 0 = _
    simp

end Arena

/-! ## Runs -/

theorem Heap.eq_of_init {h heap : Heap} {a : Area} (accepted : h.init a = .ok heap) :
    h = .unset ∧ ¬a.size < minSize ∧ heap = some (.ofArea a) := by
  cases h with
  | some r => cases accepted
  | none =>
    unfold init at accepted
    dsimp only at accepted
    split at accepted
    · cases accepted
    · next large =>
      cases accepted
      exact ⟨rfl, large, rfl⟩

/-- An allocation that is not granted changes nothing; one that is takes a block of the arena. -/
theorem HeapSpace.alloc_cases (s : HeapSpace) (l : Layout) :
    s.alloc l = (none, s) ∨
      ∃ r a r', s.heap = some r ∧ r.allocate? l = some (a, r') ∧
        s.alloc l = (some a, { s with heap := some r' }) := by
  obtain ⟨h, m⟩ := s
  unfold alloc Heap.alloc
  cases h with
  | none => exact .inl rfl
  | some r =>
    cases found : r.allocate? l with
    | none => exact .inl (by simp [found])
    | some p => exact .inr ⟨r, p.1, p.2, rfl, found, by simp [found]⟩

namespace HeapUse

variable {a : Area} {u : HeapUse} {r : Arena}

/-- A heap that got the area `a` accounts for its memory. -/
structure Keeps (a : Area) (u : HeapUse) (r : Arena) : Prop where
  heap_eq : u.space.heap = some r
  bottom_eq : r.bottom = (Arena.ofArea a).bottom
  total_eq : r.total = (Arena.ofArea a).total
  accounts : r.Accounts u.live

theorem keeps_fresh {heap : Heap} (accepted : Heap.unset.init a = .ok heap) (memory : Memory) :
    Keeps a (fresh heap memory) (.ofArea a) := by
  obtain ⟨-, large, rfl⟩ := Heap.eq_of_init accepted
  exact ⟨rfl, rfl, rfl, Arena.accounts_ofArea large⟩

theorem allocZeroed_cases (u : HeapUse) (l : Layout) :
    (u.space.perform (.allocZeroed l)).1 = .address none ∧ u.after (.allocZeroed l) = u ∨
    ∃ r c r', u.space.heap = some r ∧ r.allocate? l = some (c, r') ∧
      (u.space.perform (.allocZeroed l)).1 = .address (some c) ∧
      u.after (.allocZeroed l) =
        ⟨⟨some r', u.space.memory.fill c.toUInt64 l.size 0⟩, ⟨c, l⟩ :: u.live⟩ := by
  rcases u.space.alloc_cases l with refused | ⟨r, c, r', heap, found, given⟩
  · left
    simp only [after, HeapSpace.perform, HeapSpace.allocZeroed, refused]
    exact ⟨trivial, rfl⟩
  · refine .inr ⟨r, c, r', heap, found, ?_⟩
    simp only [after, HeapSpace.perform, HeapSpace.allocZeroed, given]
    exact ⟨trivial, rfl⟩

theorem realloc_cases (u : HeapUse) (b : HeapBlock) (size : Nat) :
    (u.space.perform (.realloc b size)).1 = .address none ∧ u.after (.realloc b size) = u ∨
    ∃ r c r', u.space.heap = some r ∧ r.allocate? ⟨size, b.layout.align⟩ = some (c, r') ∧
      (u.space.perform (.realloc b size)).1 = .address (some c) ∧
      u.after (.realloc b size) =
        ⟨⟨some (r'.free b.address b.layout),
          u.space.memory.copy b.address.toUInt64 c.toUInt64 (min b.layout.size size)⟩,
          (⟨c, ⟨size, b.layout.align⟩⟩ :: u.live).erase b⟩ := by
  rcases u.space.alloc_cases ⟨size, b.layout.align⟩ with refused | ⟨r, c, r', heap, found, given⟩
  · left
    simp only [after, HeapSpace.perform, HeapSpace.realloc, refused]
    exact ⟨trivial, rfl⟩
  · refine .inr ⟨r, c, r', heap, found, ?_⟩
    simp only [after, HeapSpace.perform, HeapSpace.realloc, given]
    exact ⟨trivial, rfl⟩

/-- All that a lawful request can do: nothing, or take a block, or free one, or both. -/
theorem after_cases (heap : u.space.heap = some r) {q : HeapRequest} (lawful : q.Lawful u.live) :
    u.after q = u ∨
    (∃ b r', r.allocate? b.layout = some (b.address, r') ∧
      (u.after q).space.heap = some r' ∧ (u.after q).live = b :: u.live) ∨
    (∃ b ∈ u.live, (u.after q).space.heap = some (r.free b.address b.layout) ∧
      (u.after q).live = u.live.erase b) ∨
    ∃ b r', ∃ old ∈ u.live, r.allocate? b.layout = some (b.address, r') ∧
      (u.after q).space.heap = some (r'.free old.address old.layout) ∧
      (u.after q).live = (b :: u.live).erase old := by
  obtain ⟨⟨h, memory⟩, live⟩ := u
  obtain rfl : h = some r := heap
  cases q with
  | init other => exact .inl rfl
  | alloc l =>
    rcases HeapSpace.alloc_cases ⟨some r, memory⟩ l with refused | ⟨_, b, r', ⟨⟩, found, given⟩
    · left
      simp only [after, HeapSpace.perform, refused]
      rfl
    · refine .inr (.inl ⟨⟨b, l⟩, r', found, ?_⟩)
      simp only [after, HeapSpace.perform, given]
      exact ⟨trivial, rfl⟩
  | allocZeroed l =>
    rcases allocZeroed_cases ⟨⟨some r, memory⟩, live⟩ l with
      ⟨-, same⟩ | ⟨_, b, r', ⟨⟩, found, -, given⟩
    · exact .inl same
    · rw [given]
      exact .inr (.inl ⟨⟨b, l⟩, r', found, rfl, rfl⟩)
  | dealloc b l =>
    cases b with
    | none => exact .inl rfl
    | some b => exact .inr (.inr (.inl ⟨⟨b, l⟩, lawful, rfl, rfl⟩))
  | realloc old size =>
    rcases realloc_cases ⟨⟨some r, memory⟩, live⟩ old size with
      ⟨-, same⟩ | ⟨_, b, r', ⟨⟩, found, -, given⟩
    · exact .inl same
    · rw [given]
      exact .inr (.inr (.inr ⟨⟨b, _⟩, r', old, lawful, found, rfl, rfl⟩))

/-- Of the memory nothing is kept but what the heap and the blocks are. -/
theorem Keeps.congr {v : HeapUse} (keeps : Keeps a u r) (heap : v.space.heap = u.space.heap)
    (live : v.live = u.live) : Keeps a v r :=
  ⟨heap.trans keeps.heap_eq, keeps.bottom_eq, keeps.total_eq, live ▸ keeps.accounts⟩

/-- A block that is handed out lives beside all others. -/
theorem Keeps.take (keeps : Keeps a u r) {c : HeapBlock} {r' : Arena}
    (found : r.allocate? c.layout = some (c.address, r')) (memory : Memory) :
    Keeps a ⟨⟨some r', memory⟩, c :: u.live⟩ r' := by
  have accounts := keeps.accounts.allocate found
  obtain ⟨-, holes, -, rfl⟩ := Arena.allocate?_eq_some found
  exact ⟨rfl, keeps.bottom_eq, keeps.total_eq, accounts⟩

/-- A block that is freed leaves all others alive. -/
theorem Keeps.release (keeps : Keeps a u r) {b : HeapBlock} (mem : b ∈ u.live) (memory : Memory) :
    Keeps a ⟨⟨some (r.free b.address b.layout), memory⟩, u.live.erase b⟩
      (r.free b.address b.layout) :=
  ⟨rfl, keeps.bottom_eq, keeps.total_eq, keeps.accounts.free mem⟩

theorem Keeps.after (keeps : Keeps a u r) {q : HeapRequest} (lawful : q.Lawful u.live) :
    ∃ r', Keeps a (u.after q) r' := by
  rcases after_cases keeps.heap_eq lawful with same | ⟨b, r', found, heap, live⟩ |
    ⟨b, mem, heap, live⟩ | ⟨b, r', old, mem, found, heap, live⟩
  · rw [same]
    exact ⟨r, keeps⟩
  · exact ⟨r', (keeps.take found .zero).congr heap live⟩
  · exact ⟨_, (keeps.release mem .zero).congr heap live⟩
  · have taken := keeps.take found .zero
    exact ⟨_, (taken.release (List.mem_cons_of_mem b mem) .zero).congr heap live⟩

theorem Keeps.run (keeps : Keeps a u r) {rs : List HeapRequest} (lawful : u.Lawful rs) :
    ∃ r', Keeps a (u.run rs) r' := by
  induction rs generalizing u r with
  | nil => exact ⟨r, keeps⟩
  | cons q rs ih =>
    obtain ⟨r', kept⟩ := keeps.after lawful.1
    exact ih kept lawful.2

end HeapUse

/-! ## What answers depend on -/

/-- What the memory holds changes no answer. -/
theorem HeapSpace.perform_congr {s t : HeapSpace} (same : s.heap = t.heap) (q : HeapRequest) :
    (s.perform q).1 = (t.perform q).1 ∧ (s.perform q).2.heap = (t.perform q).2.heap := by
  obtain ⟨h, m⟩ := s
  obtain ⟨h', m'⟩ := t
  obtain rfl : h = h' := same
  cases q with
  | init a =>
    unfold perform
    dsimp only
    split <;> exact ⟨rfl, rfl⟩
  | alloc l => exact ⟨rfl, rfl⟩
  | allocZeroed l =>
    simp only [perform, allocZeroed, alloc]
    cases (h.alloc l).1 <;> exact ⟨rfl, rfl⟩
  | dealloc b l => exact ⟨rfl, rfl⟩
  | realloc b size =>
    simp only [perform, realloc, alloc]
    cases (h.alloc _).1 <;> exact ⟨rfl, rfl⟩

theorem HeapSpace.answers_congr {s t : HeapSpace} (same : s.heap = t.heap)
    (rs : List HeapRequest) : s.answers rs = t.answers rs := by
  induction rs generalizing s t with
  | nil => rfl
  | cons q rs ih =>
    obtain ⟨answer, heap⟩ := perform_congr same q
    rw [answers, answers, answer, heap, ih heap]

end HartLayer
