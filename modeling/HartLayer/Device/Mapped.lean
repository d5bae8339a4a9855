import HartLayer.Device.Access
import HartLayer.Memory

/-!
# Memory-mapped registers

Device registers and framebuffer as plain memory, the least significant byte first. Every write
is kept in cells of the memory, so its contents can be listed by its cells.
-/

namespace HartLayer.MappedRegisters

def answer : (a : Access) → Attempt Memory a.Answer
  | .read8 a => return (← get).byte a
  | .read32 a => return (← get).halfWord a
  | .read64 a => return (← get).word a
  | .write8 a v => modify fun m => m.setByte a v
  | .write32 a v => modify fun m => m.setHalfWord a v

/-- The two aligned 32-bit words of a cell, each with its address. -/
def halves (cell : Nat × Word) : List (Word × UInt32) :=
  let a := (8 * cell.1).toUInt64
  [(a, cell.2.toUInt32), (a + 4, (cell.2 >>> 32).toUInt32)]

/-- The aligned 32-bit words of registers and framebuffer that were written and are not zero. -/
def contents (m : Memory) : List (Word × UInt32) :=
  (m.cells.toList.flatMap halves).filter fun (a, v) => DeviceMap.contains a && v ≠ 0

end HartLayer.MappedRegisters
