import HartLayer.Area
import HartLayer.Heap.Holes
import HartLayer.Memory

/-!
# The heap

A heap manages one area, which it is given once. Sizes are rounded up to at least 16 bytes and to a
multiple of 8, and it is these rounded sizes that are counted as used.
-/

namespace HartLayer

/-- The managed memory: where it starts, how much of it there is and is used, and what is free. -/
structure Arena where
  bottom : Nat
  total : Nat
  used : Nat
  holes : Holes
  deriving DecidableEq, Repr

namespace Arena

/-- All of an area, as far as it holds whole grains, is one hole. -/
def ofArea (a : Area) : Arena :=
  let bottom := alignUp a.start.toNat Hole.grain
  let total := alignDown (a.size.toNat - (bottom - a.start.toNat)) Hole.grain
  ⟨bottom, total, 0, [⟨bottom, total⟩]⟩

/-- The size of a block that answers a request. -/
def adjusted (size : Nat) : Nat := alignUp (max size Hole.minSize) Hole.grain

/-- Allocates a block, if the rounded size still makes a layout and a hole fits it. -/
def allocate? (r : Arena) (l : Layout) : Option (Nat × Arena) := do
  let fit ← Layout.new? (adjusted l.size) l.align
  let (a, holes) ← r.holes.allocate? fit.size fit.align
  return (a, { r with used := r.used + fit.size, holes })

def free (r : Arena) (a : Nat) (l : Layout) : Arena :=
  { r with
    used := r.used - adjusted l.size
    holes := Holes.release ⟨a, adjusted l.size⟩ r.holes }

end Arena

/-- A heap before and after it was given its area. -/
abbrev Heap := Option Arena

namespace Heap

/-- The smallest area that a heap accepts. -/
def minSize : Word := 32

def unset : Heap := none

/-- Gives the heap its area. A heap that has one refuses before the size is looked at. -/
def init (h : Heap) (a : Area) : Except ResourceError Heap :=
  match h with
  | some _ => .error .heapAlreadyInitialized
  | none => if a.size < minSize then .error (.heapTooSmall a.size) else .ok (some (.ofArea a))

def isInitialized (h : Heap) : Bool := h.isSome

/-- The bytes that the heap manages, those in use, and those that are free. -/
def usage (h : Heap) : Option (Nat × Nat × Nat) :=
  h.map fun r => (r.total, r.used, r.total - r.used)

/-- Allocates a block; gives no address if there is no room or no area. -/
def alloc (h : Heap) (l : Layout) : Option Nat × Heap :=
  match h with
  | none => (none, h)
  | some r =>
    match r.allocate? l with
    | none => (none, h)
    | some (a, r) => (some a, some r)

/-- Frees a block. Without an address or an area nothing happens. -/
def dealloc (h : Heap) (a : Option Nat) (l : Layout) : Heap :=
  match h, a with
  | some r, some a => some (r.free a l)
  | _, _ => h

end Heap

/-- A heap and the memory that its blocks lie in. -/
structure HeapSpace where
  heap : Heap
  memory : Memory

namespace HeapSpace

def unset : HeapSpace := ⟨.unset, .zero⟩

/-- Allocates a block, whose bytes are what the memory held. -/
def alloc (s : HeapSpace) (l : Layout) : Option Nat × HeapSpace :=
  let (a, heap) := s.heap.alloc l
  (a, { s with heap })

def allocZeroed (s : HeapSpace) (l : Layout) : Option Nat × HeapSpace :=
  let (a, s) := s.alloc l
  match a with
  | none => (none, s)
  | some a => (some a, { s with memory := s.memory.fill a.toUInt64 l.size 0 })

def dealloc (s : HeapSpace) (a : Option Nat) (l : Layout) : HeapSpace :=
  { s with heap := s.heap.dealloc a l }

/-- Moves a block to a new one of another size and the same alignment, with as many of its bytes as
fit. Without room the old block stays. -/
def realloc (s : HeapSpace) (a : Option Nat) (old new : Layout) : Option Nat × HeapSpace :=
  let (b, s) := s.alloc new
  match b with
  | none => (none, s)
  | some b =>
    let memory := match a with
      | none => s.memory
      | some a => s.memory.copy a.toUInt64 b.toUInt64 (min old.size new.size)
    (some b, { s with memory }.dealloc a old)

def fill (s : HeapSpace) (a : Nat) (l : Layout) (b : UInt8) : HeapSpace :=
  { s with memory := s.memory.fill a.toUInt64 l.size b }

/-- The first bytes of a block. -/
def peek (s : HeapSpace) (a n : Nat) : List UInt8 := s.memory.bytes a.toUInt64 n

end HeapSpace

end HartLayer
