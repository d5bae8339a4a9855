import HartLayer.Proofs.HeapIntegrity

/-!
# The area that a heap gets

A heap may be offered areas again and again, among other requests. It takes the first one that is
large enough (`HeapSpace.accepted_eq`); those before are too small, and those behind it come too
late. Whatever the alignment of that area, a hole is left of it when its bounds are rounded
(`Area.leavesHole`). `HeapSpace.lifeCycle_after` says what a heap answers at each moment.
-/

namespace HartLayer

namespace Area

/-- The number of addresses in an area: none if it is inverted. -/
def extent (a : Area) : Nat := a.stop.toNat - a.start.toNat

/-- Whether an area is large enough for a heap. -/
def isLarge (a : Area) : Bool := decide (32 ≤ a.extent)

/-- What holes need of an area: when its start is rounded up and what is left down to whole grains,
there is room for the description of a hole. -/
def LeavesHole (a : Area) : Prop :=
  let lost := alignUp a.start.toNat Hole.grain - a.start.toNat
  lost ≤ a.extent ∧ Hole.minSize ≤ alignDown (a.extent - lost) Hole.grain

theorem size_eq (a : Area) : a.size = a.extent.toUInt64 := by
  rw [← UInt64.toNat_inj, toNat_size, Word.toNat_toUInt64]
  · rfl
  · exact Nat.lt_of_le_of_lt (Nat.sub_le _ _) a.stop.toNat_lt

theorem size_lt_minSize_iff (a : Area) : a.size < Heap.minSize ↔ a.isLarge = false := by
  rw [UInt64.lt_iff_toNat_lt, toNat_size, isLarge, decide_eq_false_iff_not, Nat.not_le]
  rfl

theorem not_size_lt_minSize (a : Area) (large : a.isLarge = true) : ¬a.size < Heap.minSize := by
  rw [size_lt_minSize_iff, large]
  exact Bool.noConfusion

theorem leavesHole (a : Area) (large : a.isLarge = true) : a.LeavesHole := by
  have least : 32 ≤ a.stop.toNat - a.start.toNat := of_decide_eq_true large
  have grain : Hole.grain = 8 := rfl
  have min : Hole.minSize = 16 := rfl
  unfold LeavesHole
  simp only [extent, alignUp, alignDown, grain, min]
  constructor <;> omega

end Area

theorem Arena.total_bounds {a : Area} (large : a.isLarge = true) :
    24 ≤ (ofArea a).total ∧ (ofArea a).total ≤ a.extent := by
  have least : 32 ≤ a.stop.toNat - a.start.toNat := of_decide_eq_true large
  have grain : Hole.grain = 8 := rfl
  simp only [ofArea, Area.extent, Area.toNat_size, alignUp, alignDown, grain]
  constructor <;> omega

def HeapRequest.area? : HeapRequest → Option Area
  | init a => some a
  | _ => none

def offers (rs : List HeapRequest) : List Area := rs.filterMap HeapRequest.area?

namespace HeapSpace

def after (s : HeapSpace) (rs : List HeapRequest) : HeapSpace :=
  rs.foldl (fun s q => (s.perform q).2) s

/-- The areas that the heap takes of those that requests offer. -/
def accepted (s : HeapSpace) : List HeapRequest → List Area
  | [] => []
  | q :: rs =>
    (if (s.perform q).1 = .done then q.area?.toList else []) ++ (s.perform q).2.accepted rs

/-- Memory and a heap that has no area yet. -/
def bare (memory : Memory) : HeapSpace := ⟨.unset, memory⟩

variable {s : HeapSpace} {memory : Memory}

/-! ## One request -/

theorem perform_init_bare (a : Area) : (bare memory).perform (.init a) =
    if a.isLarge then (.done, ⟨some (.ofArea a), memory⟩)
    else (.refused (.heapTooSmall a.extent.toUInt64), bare memory) := by
  cases large : a.isLarge with
  | false =>
    simp only [perform, bare, Heap.init, Heap.unset, if_pos (a.size_lt_minSize_iff.mpr large)]
    rw [a.size_eq]
    rfl
  | true =>
    simp only [perform, bare, Heap.init, Heap.unset, if_neg (a.not_size_lt_minSize large)]
    rfl

/-- Without an area, nothing but an area that is large enough makes a difference. -/
theorem perform_bare {q : HeapRequest} (small : ∀ a ∈ q.area?, a.isLarge = false) :
    ((bare memory).perform q).2 = bare memory := by
  cases q with
  | init a =>
    rw [perform_init_bare, small a rfl]
    rfl
  | _ => rfl

theorem isSome_perform_bare {q : HeapRequest} {a : Area} (offered : a ∈ q.area?)
    (large : a.isLarge = true) : ((bare memory).perform q).2.heap.isSome := by
  cases q with
  | init b =>
    obtain rfl : b = a := Option.some.inj offered
    rw [perform_init_bare, if_pos large]
    rfl
  | _ => cases offered

/-! ## A heap that has its area -/

theorem isSome_alloc (has : s.heap.isSome) (l : Layout) : (s.alloc l).2.heap.isSome := by
  rcases s.alloc_cases l with refused | ⟨r, a, r', -, -, given⟩
  · rwa [refused]
  · rw [given]
    rfl

theorem isSome_dealloc (has : s.heap.isSome) (a : Option Nat) (l : Layout) :
    (s.dealloc a l).heap.isSome := by
  obtain ⟨r, heap⟩ := Option.isSome_iff_exists.mp has
  rw [dealloc, heap]
  cases a <;> rfl

theorem perform_init_of_isSome (has : s.heap.isSome) (a : Area) :
    s.perform (.init a) = (.refused .heapAlreadyInitialized, s) := by
  obtain ⟨r, heap⟩ := Option.isSome_iff_exists.mp has
  simp only [perform, Heap.init, heap]

/-- No request takes its area from a heap. -/
theorem isSome_perform (has : s.heap.isSome) (q : HeapRequest) : (s.perform q).2.heap.isSome := by
  cases q with
  | init a => rwa [perform_init_of_isSome has]
  | alloc l => exact isSome_alloc has l
  | allocZeroed l =>
    have kept := isSome_alloc has l
    simp only [perform, allocZeroed]
    cases (s.alloc l).1 <;> exact kept
  | dealloc a l => exact isSome_dealloc has a l
  | realloc b size =>
    have kept := isSome_alloc has ⟨size, b.layout.align⟩
    simp only [perform, realloc]
    cases (s.alloc ⟨size, b.layout.align⟩).1 with
    | none => exact kept
    | some c => exact isSome_dealloc (by exact kept) _ _

theorem accepted_of_isSome (has : s.heap.isSome) (rs : List HeapRequest) : s.accepted rs = [] := by
  induction rs generalizing s with
  | nil => rfl
  | cons q rs ih =>
    rw [accepted, ih (isSome_perform has q), List.append_nil]
    cases q with
    | init a =>
      rw [perform_init_of_isSome has]
      rfl
    | _ => exact ite_self _

theorem isSome_after (has : s.heap.isSome) (rs : List HeapRequest) : (s.after rs).heap.isSome := by
  induction rs generalizing s with
  | nil => exact has
  | cons q rs ih => exact ih (isSome_perform has q)

/-! ## Runs -/

theorem offers_cons (q : HeapRequest) (rs : List HeapRequest) :
    offers (q :: rs) = q.area?.toList ++ offers rs := by
  cases q <;> rfl

/-- Of all the areas that it is offered, a heap takes the first that is large enough. -/
theorem accepted_eq (memory : Memory) (rs : List HeapRequest) :
    (bare memory).accepted rs = ((offers rs).find? Area.isLarge).toList := by
  induction rs with
  | nil => rfl
  | cons q rs ih =>
    rw [accepted, offers_cons]
    cases q with
    | init a =>
      rw [perform_init_bare]
      cases large : a.isLarge with
      | false => simpa [HeapRequest.area?, large] using ih
      | true => simp [HeapRequest.area?, large, accepted_of_isSome]
    | _ =>
      rw [perform_bare (by rintro a ⟨⟩), ih]
      simp [HeapRequest.area?]

/-- As long as all areas are too small, a heap stays as it is. -/
theorem after_bare {rs : List HeapRequest} (small : ∀ a ∈ offers rs, a.isLarge = false) :
    (bare memory).after rs = bare memory := by
  induction rs with
  | nil => rfl
  | cons q rs ih =>
    rw [offers_cons, List.forall_mem_append] at small
    rw [after, List.foldl_cons, perform_bare fun a mem => small.1 a (Option.mem_toList.mpr mem)]
    exact ih small.2

theorem isSome_after_bare {rs : List HeapRequest} {a : Area} (offered : a ∈ offers rs)
    (large : a.isLarge = true) : ((bare memory).after rs).heap.isSome := by
  induction rs with
  | nil => cases offered
  | cons q rs ih =>
    rw [offers_cons, List.mem_append, Option.mem_toList] at offered
    rw [after, List.foldl_cons]
    by_cases small : ∀ b ∈ q.area?, b.isLarge = false
    · rw [perform_bare small]
      rcases offered with here | later
      · rw [small a here] at large
        cases large
      · exact ih later
    · push Not at small
      obtain ⟨b, here, enough⟩ := small
      exact isSome_after (isSome_perform_bare here (Bool.eq_true_of_not_eq_false enough)) rs

/-! ## The life of a heap -/

/-- What is known of a heap that had no area at first, after requests. -/
structure LifeCycle (memory : Memory) (rs : List HeapRequest) : Prop where
  /-- At most one area was taken: the first that is large enough. -/
  accepted_eq : (bare memory).accepted rs = ((offers rs).find? Area.isLarge).toList
  /-- Whether the heap has its area depends on whether one was large enough. -/
  isInitialized_iff : ((bare memory).after rs).heap.isInitialized = true ↔
    ∃ a ∈ offers rs, a.isLarge = true
  /-- Until then it is as it was, without usage; it hands out nothing, and nothing can be freed. -/
  before : (∀ a ∈ offers rs, a.isLarge = false) →
    let s := (bare memory).after rs
    s = bare memory ∧ s.heap.usage = none ∧ (∀ l, s.perform (.alloc l) = (.address none, s)) ∧
      (∀ l, s.perform (.allocZeroed l) = (.address none, s)) ∧
      (∀ b size, s.perform (.realloc b size) = (.address none, s)) ∧
      ∀ a l, s.perform (.dealloc a l) = (.done, s)
  /-- An area that is too small is refused with its size, and leaves the heap as it is. -/
  tooSmall : (∀ a ∈ offers rs, a.isLarge = false) → ∀ a : Area, a.isLarge = false →
    let s := (bare memory).after rs
    s.perform (.init a) = (.refused (.heapTooSmall a.extent.toUInt64), s)
  /-- The first area that is large enough is taken. It leaves a hole, and all of the memory that it
  manages is free. -/
  taken : (∀ a ∈ offers rs, a.isLarge = false) → ∀ a : Area, a.isLarge = true →
    let s := (bare memory).after rs
    ∃ r, s.perform (.init a) = (.done, ⟨some r, memory⟩) ∧ a.LeavesHole ∧
      HeapUse.Manages a r.bottom r.total ∧ Heap.usage (some r) = some (r.total, 0, r.total) ∧
      24 ≤ r.total ∧ r.total ≤ a.extent
  /-- From then on every area is refused, whatever its size, and leaves the heap as it is. -/
  again : (∃ a ∈ offers rs, a.isLarge = true) → ∀ a : Area,
    let s := (bare memory).after rs
    s.perform (.init a) = (.refused .heapAlreadyInitialized, s)

/-- Whatever was requested of a heap that had no area at first, in whatever order, and whatever
areas it was offered, it has taken at most one of them, and answers as its life cycle says. -/
theorem lifeCycle_after (memory : Memory) (rs : List HeapRequest) : LifeCycle memory rs := by
  refine ⟨accepted_eq memory rs, ⟨fun has => ?_, ?_⟩, fun small => ?_, fun small a refused => ?_,
    fun small a large => ?_, ?_⟩
  · by_contra none
    push Not at none
    rw [after_bare fun a mem => Bool.eq_false_of_not_eq_true (none a mem)] at has
    cases has
  · rintro ⟨a, offered, large⟩
    exact isSome_after_bare offered large
  · rw [after_bare small]
    exact ⟨rfl, rfl, fun _ => rfl, fun _ => rfl, fun _ _ => rfl, fun _ _ => rfl⟩
  · dsimp only
    rw [after_bare small, perform_init_bare, refused]
    rfl
  · dsimp only
    rw [after_bare small, perform_init_bare, large]
    exact ⟨.ofArea a, rfl, a.leavesHole large,
      HeapUse.manages_ofArea (a.not_size_lt_minSize large), rfl, Arena.total_bounds large⟩
  · rintro ⟨b, offered, large⟩ a
    exact perform_init_of_isSome (isSome_after_bare offered large) a

-- A smallest area, as unaligned as can be.
example : (Arena.ofArea ⟨0x80000001, 0x80000021⟩).total = 24 := by decide

end HeapSpace

end HartLayer
