import HartLayer.Proofs.HeapIntegrity

/-!
# What blocks hold

Callers write through their blocks, one byte at a time, and the heap keeps its notes in the holes,
which may hold anything between any two steps (`HeapEvent`). Whatever happens, the memory of a block
that lives changes only when it is written through this very block.

* `memory_after` : a request writes nothing, or it writes to the block that it hands out;
* `Keeps.byte_step`, `Keeps.byte_steps` : the same for a step and for a run;
* `keepsContents_steps` : what callers can rely on after every lawful run.
-/

namespace HartLayer

/-! ## What happens to a heap in use -/

def HeapSpace.isFree (s : HeapSpace) (x : Word) : Bool :=
  match s.heap with
  | none => false
  | some r => 0 < coverage x.toNat r.holes

/-- The heap notes something in its holes: their bytes come to be whatever it wants. -/
def HeapSpace.note (s : HeapSpace) (f : Word → UInt8) : HeapSpace :=
  { s with memory := ⟨fun x => if s.isFree x then f x else s.memory.byte x, ∅⟩ }

/-- Where byte `i` of a block lies. -/
def HeapBlock.byteAddress (b : HeapBlock) (i : Nat) : Word := b.address.toUInt64 + i.toUInt64

/-- One thing that happens to a heap in use. -/
inductive HeapEvent where
  | request (q : HeapRequest)
  /-- A byte is written through a block. -/
  | write (b : HeapBlock) (i : Nat) (v : UInt8)
  /-- The heap notes something in its holes. What it notes while it serves a request lies in holes
  before or behind the request, and so is told before or behind it. -/
  | note (f : Word → UInt8)

namespace HeapEvent

/-- Requests are lawful, and bytes are written only inside of blocks that live. -/
def Lawful (live : List HeapBlock) : HeapEvent → Prop
  | request q => q.Lawful live
  | write b i _ => b ∈ live ∧ i < b.layout.size
  | note _ => True

instance (live : List HeapBlock) : (e : HeapEvent) → Decidable (e.Lawful live)
  | request q => inferInstanceAs (Decidable (q.Lawful live))
  | write b i _ => inferInstanceAs (Decidable (b ∈ live ∧ i < b.layout.size))
  | note _ => .isTrue trivial

/-- Whether byte `i` is written through a block. -/
def writes (b : HeapBlock) (i : Nat) : HeapEvent → Bool
  | write c j _ => decide (c = b ∧ j = i)
  | _ => false

end HeapEvent

namespace HeapUse

def step (u : HeapUse) : HeapEvent → HeapUse
  | .request q => u.after q
  | .write b i v =>
    { u with space := { u.space with memory := u.space.memory.setByte (b.byteAddress i) v } }
  | .note f => { u with space := u.space.note f }

def steps (u : HeapUse) (es : List HeapEvent) : HeapUse := es.foldl step u

/-- Each event is lawful when it happens. -/
def LawfulSteps (u : HeapUse) : List HeapEvent → Prop
  | [] => True
  | e :: es => e.Lawful u.live ∧ (u.step e).LawfulSteps es

instance decidableLawfulSteps : (u : HeapUse) → (es : List HeapEvent) → Decidable (u.LawfulSteps es)
  | _, [] => .isTrue trivial
  | u, e :: es =>
    have := decidableLawfulSteps (u.step e) es
    inferInstanceAs (Decidable (e.Lawful u.live ∧ (u.step e).LawfulSteps es))

/-- A block lives before, between and after events. -/
def LivesThrough (u : HeapUse) (b : HeapBlock) : List HeapEvent → Prop
  | [] => b ∈ u.live
  | e :: es => b ∈ u.live ∧ (u.step e).LivesThrough b es

instance decidableLivesThrough :
    (u : HeapUse) → (b : HeapBlock) → (es : List HeapEvent) → Decidable (u.LivesThrough b es)
  | u, b, [] => inferInstanceAs (Decidable (b ∈ u.live))
  | u, b, e :: es =>
    have := decidableLivesThrough (u.step e) b es
    inferInstanceAs (Decidable (b ∈ u.live ∧ (u.step e).LivesThrough b es))

/-- The bytes of a block, as many as were asked for. -/
def contents (u : HeapUse) (b : HeapBlock) : List UInt8 := u.space.peek b.address b.layout.size

variable {a : Area} {heap : Heap} {u : HeapUse} {r : Arena} {b c : HeapBlock}

/-! ## Blocks in memory -/

theorem length_contents (u : HeapUse) (b : HeapBlock) : (u.contents b).length = b.layout.size := by
  rw [contents, HeapSpace.peek, Memory.bytes, List.length_map, List.length_range]

theorem getElem?_contents (u : HeapUse) (b : HeapBlock) (i : Nat) : (u.contents b)[i]? =
    if i < b.layout.size then some (u.space.memory.byte (b.byteAddress i)) else none := by
  rw [contents, HeapSpace.peek, Memory.bytes, List.getElem?_map]
  split
  · next inside =>
    rw [List.getElem?_range inside]
    rfl
  · next outside =>
    rw [List.getElem?_eq_none (by rw [List.length_range]; omega)]
    rfl

theorem size_le_range (b : HeapBlock) : b.layout.size ≤ b.range.size :=
  Nat.le_trans (Nat.le_max_left _ _) (Arena.max_le_adjusted _)

/-- The memory of a block that lives ends before the address space does. -/
theorem Keeps.stop_lt (accepted : Heap.unset.init a = .ok heap) (keeps : Keeps a u r)
    (mem : b ∈ u.live) : b.range.stop < UInt64.size := by
  have bounds := keeps.range_bounds mem
  have high := (keeps.manages accepted).extent.1.2
  have last := a.stop.toNat_lt
  exact Nat.lt_of_le_of_lt (Nat.le_trans bounds.2 high) last

theorem toNat_byteAddress (small : b.range.stop < UInt64.size) {i : Nat} (inside : i < b.range.size) :
    (b.byteAddress i).toNat = b.address + i := by
  have stop : b.range.stop = b.address + b.range.size := rfl
  rw [HeapBlock.byteAddress, UInt64.toNat_add, Word.toNat_toUInt64 (by omega),
    Word.toNat_toUInt64 (by omega)]
  exact Nat.mod_eq_of_lt (by rw [UInt64.size] at small; omega)

/-- A byte of a block lies outside of every block apart from it. -/
theorem size_le_of_apart (apart : c.range.Apart b.range) (first : c.range.stop < UInt64.size)
    (second : b.range.stop < UInt64.size) {i : Nat} (inside : i < b.range.size) :
    c.range.size ≤ (b.byteAddress i - c.address.toUInt64).toNat := by
  have place := toNat_byteAddress second inside
  have stop : c.range.stop = c.address + c.range.size := rfl
  have stop' : b.range.stop = b.address + b.range.size := rfl
  have start : c.range.start = c.address := rfl
  have start' : b.range.start = b.address := rfl
  have small : c.address.toUInt64.toNat = c.address := Word.toNat_toUInt64 (by omega)
  unfold Hole.Apart at apart
  simp only [UInt64.toNat_sub, place, small, UInt64.size] at *
  omega

/-! ## Blocks apart -/

theorem Keeps.apart (keeps : Keeps a u r) (first : b ∈ u.live) (second : c ∈ u.live) (ne : b ≠ c) :
    b.range.Apart c.range := by
  have : Std.Symm fun b c : HeapBlock => b.range.Apart c.range := ⟨fun _ _ => Or.symm⟩
  exact (List.pairwise_map.mp keeps.pairwise_apart).forall first second ne

theorem Keeps.nodup (keeps : Keeps a u r) : u.live.Nodup := by
  refine List.Pairwise.imp_of_mem ?_ (List.pairwise_map.mp keeps.pairwise_apart)
  rintro b c mem - apart rfl
  have pos := (keeps.accounts.grained_range mem).pos
  unfold Hole.Apart Hole.stop at apart
  omega

theorem Keeps.apart_of_take (keeps : Keeps a u r) {r' : Arena}
    (found : r.allocate? c.layout = some (c.address, r')) (mem : b ∈ u.live) :
    c.range.Apart b.range := by
  have taken := (keeps.take found .zero).pairwise_apart
  exact (List.pairwise_cons.mp taken).1 b.range (List.mem_map_of_mem mem)

/-! ## What a request writes -/

/-- A request writes nothing, or it writes to the block that it hands out. -/
theorem memory_after (u : HeapUse) (q : HeapRequest) :
    (u.after q).space.memory = u.space.memory ∨
    ∃ r r', ∃ c : HeapBlock, u.space.heap = some r ∧
      r.allocate? c.layout = some (c.address, r') ∧
      ∀ x, c.layout.size ≤ (x - c.address.toUInt64).toNat →
        (u.after q).space.memory.byte x = u.space.memory.byte x := by
  cases q with
  | init other =>
    left
    simp only [after, HeapSpace.perform]
    split <;> rfl
  | alloc l => exact .inl rfl
  | allocZeroed l =>
    rcases allocZeroed_cases u l with ⟨-, same⟩ | ⟨r, c, r', heap, found, -, given⟩
    · exact .inl (congrArg (·.space.memory) same)
    · refine .inr ⟨r, r', ⟨c, l⟩, heap, found, fun x outside => ?_⟩
      rw [given, Memory.fill, Memory.byte_overlay, if_neg (Nat.not_lt.mpr outside)]
  | dealloc c l => exact .inl rfl
  | realloc old size =>
    rcases realloc_cases u old size with ⟨-, same⟩ | ⟨r, c, r', heap, found, -, moved⟩
    · exact .inl (congrArg (·.space.memory) same)
    · refine .inr ⟨r, r', ⟨c, _⟩, heap, found, fun x outside => ?_⟩
      have far := Nat.le_trans (Nat.min_le_right old.layout.size size) outside
      rw [moved, Memory.copy, Memory.byte_overlay, if_neg (Nat.not_lt.mpr far)]

/-- No request writes to a block that lives. -/
theorem byte_after (accepted : Heap.unset.init a = .ok heap) (keeps : Keeps a u r)
    (mem : b ∈ u.live) (q : HeapRequest) {i : Nat} (inside : i < b.layout.size) :
    (u.after q).space.memory.byte (b.byteAddress i) = u.space.memory.byte (b.byteAddress i) := by
  rcases memory_after u q with same | ⟨r₀, r', c, heap_eq, found, outside⟩
  · rw [same]
  · obtain rfl : r = r₀ := Option.some.inj (keeps.heap_eq.symm.trans heap_eq)
    have taken := keeps.take found .zero
    have far := size_le_of_apart (keeps.apart_of_take found mem)
      (taken.stop_lt accepted List.mem_cons_self) (keeps.stop_lt accepted mem)
      (Nat.lt_of_lt_of_le inside (size_le_range b))
    exact outside _ (Nat.le_trans (size_le_range c) far)

/-! ## What other events write -/

/-- No note is written to a block that lives. -/
theorem byte_note (accepted : Heap.unset.init a = .ok heap) (keeps : Keeps a u r) (mem : b ∈ u.live)
    (f : Word → UInt8) {i : Nat} (inside : i < b.layout.size) :
    (u.space.note f).memory.byte (b.byteAddress i) = u.space.memory.byte (b.byteAddress i) := by
  have place := toNat_byteAddress (keeps.stop_lt accepted mem)
    (Nat.lt_of_lt_of_le inside (size_le_range b))
  have taken : u.space.isFree (b.byteAddress i) = false := by
    have once := keeps.accounts.covers (b.address + i)
    have here : 0 < coverage (b.address + i) (u.live.map HeapBlock.range) := by
      refine coverage_pos_of_mem (List.mem_map_of_mem mem) ⟨Nat.le_add_right _ _, ?_⟩
      exact Nat.add_lt_add_left (Nat.lt_of_lt_of_le inside (size_le_range b)) _
    rw [coverage_append] at once
    simp only [HeapSpace.isFree, keeps.heap_eq, place, decide_eq_false_iff_not]
    split at once <;> omega
  simp only [Memory.byte, HeapSpace.note, Std.TreeMap.getElem?_emptyc, taken]
  rfl

/-- Each byte of the blocks that live has an address of its own. -/
theorem byteAddress_inj (accepted : Heap.unset.init a = .ok heap) (keeps : Keeps a u r)
    (first : b ∈ u.live) (second : c ∈ u.live) {i j : Nat} (hi : i < b.layout.size)
    (hj : j < c.layout.size) (same : b.byteAddress i = c.byteAddress j) : b = c ∧ i = j := by
  have hi := Nat.lt_of_lt_of_le hi (size_le_range b)
  have hj := Nat.lt_of_lt_of_le hj (size_le_range c)
  have places : b.address + i = c.address + j := by
    rw [← toNat_byteAddress (keeps.stop_lt accepted first) hi, same,
      toNat_byteAddress (keeps.stop_lt accepted second) hj]
  by_cases one : b = c
  · subst one
    exact ⟨rfl, Nat.add_left_cancel places⟩
  · have start : b.range.start = b.address := rfl
    have start' : c.range.start = c.address := rfl
    have apart := keeps.apart first second one
    unfold Hole.Apart Hole.stop at apart
    omega

theorem byte_write (u : HeapUse) (b : HeapBlock) (i : Nat) (v : UInt8) (x : Word) :
    (u.step (.write b i v)).space.memory.byte x =
      if x = b.byteAddress i then v else u.space.memory.byte x := by
  show (u.space.memory.write (b.byteAddress i) 1 fun _ => v).byte x = _
  rw [Memory.byte_write _ _ (by decide)]
  have here : (x - b.byteAddress i).toNat < 1 ↔ x = b.byteAddress i := by
    have := x.toNat_lt
    have := (b.byteAddress i).toNat_lt
    rw [← UInt64.toNat_inj, UInt64.toNat_sub]
    omega
  simp only [here]

/-! ## Runs -/

/-- The bytes of a block that lives change only when they are written through it. -/
theorem Keeps.byte_step (accepted : Heap.unset.init a = .ok heap) (keeps : Keeps a u r)
    {e : HeapEvent} (lawful : e.Lawful u.live) (mem : b ∈ u.live) {i : Nat}
    (inside : i < b.layout.size) (unwritten : e.writes b i = false) :
    (u.step e).space.memory.byte (b.byteAddress i) = u.space.memory.byte (b.byteAddress i) := by
  cases e with
  | request q => exact byte_after accepted keeps mem q inside
  | note f => exact byte_note accepted keeps mem f inside
  | write c j v =>
    rw [byte_write, if_neg]
    intro same
    obtain ⟨rfl, rfl⟩ := byteAddress_inj accepted keeps mem lawful.1 inside lawful.2 same
    simp [HeapEvent.writes] at unwritten

theorem Keeps.step (keeps : Keeps a u r) {e : HeapEvent} (lawful : e.Lawful u.live) :
    ∃ r', Keeps a (u.step e) r' := by
  cases e with
  | request q => exact keeps.after lawful
  | write b i v => exact ⟨r, keeps.congr rfl rfl⟩
  | note f => exact ⟨r, keeps.congr rfl rfl⟩

theorem Keeps.steps (keeps : Keeps a u r) {es : List HeapEvent} (lawful : u.LawfulSteps es) :
    ∃ r', Keeps a (u.steps es) r' := by
  induction es generalizing u r with
  | nil => exact ⟨r, keeps⟩
  | cons e es ih =>
    obtain ⟨r', kept⟩ := keeps.step lawful.1
    exact ih kept lawful.2

theorem Keeps.byte_steps (accepted : Heap.unset.init a = .ok heap) (keeps : Keeps a u r)
    {es : List HeapEvent} (lawful : u.LawfulSteps es) (lives : u.LivesThrough b es) {i : Nat}
    (inside : i < b.layout.size) (unwritten : ∀ e ∈ es, e.writes b i = false) :
    (u.steps es).space.memory.byte (b.byteAddress i) = u.space.memory.byte (b.byteAddress i) := by
  induction es generalizing u r with
  | nil => rfl
  | cons e es ih =>
    obtain ⟨r', kept⟩ := keeps.step lawful.1
    obtain ⟨here, later⟩ := List.forall_mem_cons.mp unwritten
    exact (ih kept lawful.2 lives.2 later).trans
      (keeps.byte_step accepted lawful.1 lives.1 inside here)

/-! ## What callers can rely on -/

theorem bytes_take (m : Memory) (x : Word) (n k : Nat) :
    (m.bytes x k).take n = m.bytes x (min n k) := by
  rw [Memory.bytes, Memory.bytes, ← List.map_take, List.take_range]

/-- What a copy has laid over its target are the bytes of its source. -/
theorem bytes_copy (m : Memory) (x y : Word) {n : Nat} (small : n ≤ UInt64.size) :
    (m.copy x y n).bytes y n = m.bytes x n := by
  refine List.map_congr_left fun i mem => ?_
  have inside := List.mem_range.mp mem
  rw [Memory.copy, Memory.byte_overlay, Word.toNat_add_sub y (by omega), if_pos inside]

theorem bytes_fill (m : Memory) (x : Word) (v : UInt8) {n : Nat} (small : n ≤ UInt64.size) :
    (m.fill x n v).bytes x n = List.replicate n v := by
  rw [Memory.bytes, List.eq_replicate_iff]
  refine ⟨by rw [List.length_map, List.length_range], fun w mem => ?_⟩
  obtain ⟨i, within, rfl⟩ := List.mem_map.mp mem
  have inside := List.mem_range.mp within
  rw [Memory.fill, Memory.byte_overlay, Word.toNat_add_sub x (by omega), if_pos inside]

/-- What is known of the contents of blocks. -/
structure KeepsContents (u : HeapUse) : Prop where
  /-- A byte that is written through a block is read through it, and no other byte of it changes. -/
  written : ∀ b ∈ u.live, ∀ i < b.layout.size, ∀ v,
    (u.step (.write b i v)).contents b = (u.contents b).set i v
  /-- Whatever happens while a block lives, its bytes stay as they are, unless they are written
  through it. -/
  kept : ∀ b es, u.LawfulSteps es → u.LivesThrough b es →
    ∀ i, (∀ e ∈ es, e.writes b i = false) → ((u.steps es).contents b)[i]? = (u.contents b)[i]?
  /-- Whatever the memory held, a block of zeros has zeros. -/
  zeroed : ∀ l c, (u.space.perform (.allocZeroed l)).1 = .address (some c) →
    ⟨c, l⟩ ∈ (u.after (.allocZeroed l)).live ∧
      (u.after (.allocZeroed l)).contents ⟨c, l⟩ = List.replicate l.size 0
  /-- A block that lives is either not moved, and nothing changes at all, or it is moved to a new
  one apart from it, with the same alignment and with as many of its bytes as fit. -/
  moved : ∀ b ∈ u.live, ∀ size,
    (u.space.perform (.realloc b size)).1 = .address none ∧ u.after (.realloc b size) = u ∨
    ∃ c, (u.space.perform (.realloc b size)).1 = .address (some c) ∧
      let new : HeapBlock := ⟨c, ⟨size, b.layout.align⟩⟩
      let n := min b.layout.size size
      new ∈ (u.after (.realloc b size)).live ∧ b ∉ (u.after (.realloc b size)).live ∧
        b.layout.align ∣ c ∧ new.range.Apart b.range ∧
        ((u.after (.realloc b size)).contents new).take n = (u.contents b).take n

variable (accepted : Heap.unset.init a = .ok heap) (keeps : Keeps a u r)

include accepted keeps

theorem contents_write (mem : b ∈ u.live) {i : Nat} (inside : i < b.layout.size) (v : UInt8) :
    (u.step (.write b i v)).contents b = (u.contents b).set i v := by
  refine List.ext_getElem? fun j => ?_
  rw [getElem?_contents, List.getElem?_set, length_contents, getElem?_contents, byte_write]
  by_cases same : i = j
  · subst same
    rw [if_pos rfl, if_pos inside, if_pos rfl]
  · rw [if_neg same]
    split
    · next here =>
      rw [if_neg fun equal => same (byteAddress_inj accepted keeps mem mem here inside equal).2.symm]
    · rfl

theorem contents_steps {es : List HeapEvent} (lawful : u.LawfulSteps es)
    (lives : u.LivesThrough b es) {i : Nat} (unwritten : ∀ e ∈ es, e.writes b i = false) :
    ((u.steps es).contents b)[i]? = (u.contents b)[i]? := by
  rw [getElem?_contents, getElem?_contents]
  split
  · next inside => rw [keeps.byte_steps accepted lawful lives inside unwritten]
  · rfl

/-- A block that is handed out is no larger than the address space. -/
theorem size_le_of_take {l : Layout} {c : Nat} {r' : Arena} (found : r.allocate? l = some (c, r')) :
    l.size ≤ UInt64.size := by
  have taken := keeps.take (c := ⟨c, l⟩) found .zero
  have stop := taken.stop_lt accepted List.mem_cons_self
  have room : l.size ≤ _ := size_le_range ⟨c, l⟩
  exact Nat.le_trans room (Nat.le_trans (Nat.le_add_left _ _) (Nat.le_of_lt stop))

theorem zeroed_of_allocZeroed {l : Layout} {c : Nat}
    (given : (u.space.perform (.allocZeroed l)).1 = .address (some c)) :
    ⟨c, l⟩ ∈ (u.after (.allocZeroed l)).live ∧
      (u.after (.allocZeroed l)).contents ⟨c, l⟩ = List.replicate l.size 0 := by
  rcases allocZeroed_cases u l with ⟨refused, -⟩ | ⟨r₀, c', r', heap_eq, found, answer, after⟩
  · rw [refused] at given
    cases given
  · obtain rfl : r = r₀ := Option.some.inj (keeps.heap_eq.symm.trans heap_eq)
    obtain rfl : c' = c := Option.some.inj (HeapAnswer.address.inj (answer.symm.trans given))
    rw [after]
    exact ⟨List.mem_cons_self, bytes_fill _ _ _ (size_le_of_take accepted keeps found)⟩

theorem moved_of_realloc (mem : b ∈ u.live) (size : Nat) :
    (u.space.perform (.realloc b size)).1 = .address none ∧ u.after (.realloc b size) = u ∨
    ∃ c, (u.space.perform (.realloc b size)).1 = .address (some c) ∧
      let new : HeapBlock := ⟨c, ⟨size, b.layout.align⟩⟩
      let n := min b.layout.size size
      new ∈ (u.after (.realloc b size)).live ∧ b ∉ (u.after (.realloc b size)).live ∧
        b.layout.align ∣ c ∧ new.range.Apart b.range ∧
        ((u.after (.realloc b size)).contents new).take n = (u.contents b).take n := by
  rcases realloc_cases u b size with refused | ⟨r₀, c, r', heap_eq, found, answer, after⟩
  · exact .inl refused
  · obtain rfl : r = r₀ := Option.some.inj (keeps.heap_eq.symm.trans heap_eq)
    have taken := keeps.take (c := ⟨c, ⟨size, b.layout.align⟩⟩) found .zero
    have apart := keeps.apart_of_take (c := ⟨c, ⟨size, b.layout.align⟩⟩) found mem
    have ne : b ≠ ⟨c, ⟨size, b.layout.align⟩⟩ := by
      rintro same
      rw [same] at mem
      exact (List.nodup_cons.mp taken.nodup).1 mem
    have small := size_le_of_take accepted keeps found
    refine .inr ⟨c, answer, ?_⟩
    rw [after]
    refine ⟨(List.mem_erase_of_ne ne.symm).mpr List.mem_cons_self, taken.nodup.not_mem_erase,
      (taken.accounts.placed _ List.mem_cons_self).2, apart, ?_⟩
    simp only [contents, HeapSpace.peek, bytes_take]
    rw [Nat.min_eq_left (Nat.min_le_right _ _), Nat.min_eq_left (Nat.min_le_left _ _)]
    exact bytes_copy _ _ _ (Nat.le_trans (Nat.min_le_right _ _) small)

omit accepted keeps

/-- After every lawful run of a heap that got an area, in which callers write through their blocks
and the heap may note whatever it wants in its holes, blocks keep their contents: a byte that is
written stays until it is written again or the block is freed or moved, a block of zeros has zeros,
and a block that is moved takes its bytes with it. -/
theorem keepsContents_steps (accepted : Heap.unset.init a = .ok heap) (memory : Memory)
    (es : List HeapEvent) (lawful : (fresh heap memory).LawfulSteps es) :
    KeepsContents ((fresh heap memory).steps es) := by
  obtain ⟨r, keeps⟩ := (keeps_fresh accepted memory).steps lawful
  exact
    { written := fun b mem i inside v => contents_write accepted keeps mem inside v
      kept := fun b es lawful lives i => contents_steps accepted keeps lawful lives
      zeroed := fun l c => zeroed_of_allocZeroed accepted keeps
      moved := fun b mem size => moved_of_realloc accepted keeps mem size }

/-- Two blocks, of which the first is freed, and notes all over the holes. -/
def notedEvents : List HeapEvent :=
  [.request (.alloc ⟨24, 8⟩), .request (.alloc ⟨16, 8⟩), .write ⟨0x80000008, ⟨24, 8⟩⟩ 0 7,
    .write ⟨0x80000020, ⟨16, 8⟩⟩ 3 9, .request (.dealloc (some 0x80000008) ⟨24, 8⟩),
    .note fun _ => 0xff]

/-- A block of zeros in the memory of the first one, and more notes. -/
def reusedEvents : List HeapEvent :=
  [.request (.allocZeroed ⟨24, 8⟩), .write ⟨0x80000008, ⟨24, 8⟩⟩ 23 1, .note fun _ => 0xaa]

/-- The block of zeros is at the place of the first one, and the second one moves to the place right
behind it. -/
theorem keepsContents_notedEvents :
    let start := fresh (some (.ofArea oddArea)) .zero
    let u := start.steps notedEvents
    let zeros : HeapBlock := ⟨0x80000008, ⟨24, 8⟩⟩
    let kept : HeapBlock := ⟨0x80000020, ⟨16, 8⟩⟩
    let grown : HeapBlock := ⟨0x80000030, ⟨40, 8⟩⟩
    Heap.unset.init oddArea = .ok (some (.ofArea oddArea)) ∧ start.LawfulSteps notedEvents ∧
      (u.after (.allocZeroed ⟨24, 8⟩)).contents zeros = List.replicate 24 0 ∧
      ((u.steps reusedEvents).contents kept)[3]? = (u.contents kept)[3]? ∧
      grown.range.Apart kept.range ∧
      ((u.after (.realloc kept 40)).contents grown).take 16 = (u.contents kept).take 16 := by
  intro start u zeros kept grown
  have accepted : Heap.unset.init oddArea = .ok (some (.ofArea oddArea)) := rfl
  have lawful : start.LawfulSteps notedEvents := by decide +kernel
  have keeps := keepsContents_steps accepted .zero notedEvents lawful
  have given : (u.space.perform (.realloc kept 40)).1 = .address (some grown.address) := by
    decide +kernel
  refine ⟨accepted, lawful, (keeps.zeroed _ _ (by decide +kernel)).2, ?_, ?_⟩
  · exact keeps.kept _ _ (by decide +kernel) (by decide +kernel) 3 (by decide +kernel)
  · rcases keeps.moved kept (by decide +kernel) 40 with ⟨refused, -⟩ | ⟨c, address, -, -, -, moved⟩
    · cases given.symm.trans refused
    · obtain rfl : grown.address = c :=
        Option.some.inj (HeapAnswer.address.inj (given.symm.trans address))
      exact moved

end HeapUse

end HartLayer
