import HartLayer.Word

/-!
# Layouts

A layout is the size and the alignment of a block. The alignment is a power of two, and the size,
rounded up to the alignment, stays within the signed 64-bit range.
-/

namespace HartLayer

/-- `n` rounded up to a multiple of `step`. -/
def alignUp (n step : Nat) : Nat := (n + step - 1) / step * step

/-- `n` rounded down to a multiple of `step`. -/
def alignDown (n step : Nat) : Nat := n / step * step

structure Layout where
  size : Nat
  align : Nat
  deriving DecidableEq, Repr

namespace Layout

def isPowerOfTwo (n : Nat) : Bool := n ≠ 0 && 1 <<< n.log2 = n

/-- A layout, if size and alignment allow one. -/
def new? (size align : Nat) : Option Layout :=
  if isPowerOfTwo align ∧ size + align ≤ 0x8000000000000000 then some ⟨size, align⟩ else none

end Layout

end HartLayer
