import HartLayer.Heap.Layout

/-!
# Lists of holes

Free memory is a list of holes in the order of their addresses. A request takes the first hole that
it fits: at its start if that is aligned, else far enough behind it that a hole remains in front.
What remains behind has to be nothing or a hole of its own. A block that is freed becomes a hole in
its place, joined with the holes that it touches.
-/

namespace HartLayer

/-- A range of free memory. -/
structure Hole where
  start : Nat
  size : Nat
  deriving DecidableEq, Repr

namespace Hole

/-- The smallest hole, which has room for its own description. -/
def minSize : Nat := 16

/-- The granularity of addresses and sizes. -/
def grain : Nat := 8

def stop (h : Hole) : Nat := h.start + h.size

/-- Where a block of a given alignment goes in a hole. -/
def blockStart (h : Hole) (align : Nat) : Nat :=
  if h.start % align = 0 then h.start else alignUp (h.start + minSize) align

/-- A hole from one address up to another one; none if nothing lies between. -/
def between (start stop : Nat) : List Hole :=
  if start < stop then [⟨start, stop - start⟩] else []

/-- Takes a block out of a hole, if it fits: the address of the block, and the holes that remain in
front of it and behind it. -/
def carve? (h : Hole) (size align : Nat) : Option (Nat × List Hole) :=
  let a := h.blockStart align
  if h.size < size ∨ h.stop < a + size then none
  else if a + size ≠ h.stop ∧ h.stop < a + size + minSize then none
  else some (a, between h.start a ++ between (a + size) h.stop)

end Hole

/-- Free memory, in the order of addresses. -/
abbrev Holes := List Hole

namespace Holes

/-- Takes a block out of the first hole that it fits. -/
def allocate? (size align : Nat) : Holes → Option (Nat × Holes)
  | [] => none
  | h :: rest =>
    match h.carve? size align with
    | some (a, pieces) => some (a, pieces ++ rest)
    | none => (allocate? size align rest).map fun (a, rest) => (a, h :: rest)

/-- Puts a hole before a list of holes behind it, joined with the first of them if they touch. -/
def consJoined (h : Hole) : Holes → Holes
  | [] => [h]
  | k :: rest => if h.stop = k.start then ⟨h.start, h.size + k.size⟩ :: rest else h :: k :: rest

/-- Puts a freed range into its place. -/
def release (b : Hole) : Holes → Holes
  | [] => [b]
  | h :: rest =>
    if b.start < h.start then consJoined b (h :: rest)
    else consJoined h (release b rest)

end Holes

end HartLayer
