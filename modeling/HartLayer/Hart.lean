import HartLayer.Context

/-!
# Harts

The layer needs two pieces of state from a hart: the trap vector and the interrupt-enable bit.
`Hart` is what it may do with them. The simulated hart keeps them as they are; the native one keeps
the vector and the whole status register, of which the enable bit is bit 3. Taking a trap moves the
enable bit into the frame and clears it; returning from the trap restores it from the frame that is
resumed.
-/

namespace HartLayer

/-- The trap state of a hart. -/
class Hart (H : Type) where
  vector : H → Word
  setVector : Word → H → H
  interruptsEnabled : H → Bool
  setInterrupts : Bool → H → H

namespace Hart

variable {H : Type} [Hart H]

/-- Takes a trap: interrupts go off. Gives the status for the frame, which remembers the enable
bit. -/
def takeTrap (h : H) : Word × H :=
  (Status.resuming (interruptsEnabled h), setInterrupts false h)

@[inline] def returnFromTrap (h : H) (c : Context) : H :=
  setInterrupts c.resumesWithInterrupts h

end Hart

/-- A hart that exists in software alone. -/
structure SimulatedHart where
  vector : Word
  mie : Bool
  deriving DecidableEq, Repr

namespace SimulatedHart

/-- No vector, interrupts off. -/
def reset : SimulatedHart := ⟨0, false⟩

instance : Inhabited SimulatedHart := ⟨reset⟩

instance : Hart SimulatedHart where
  vector h := h.vector
  setVector w h := { h with vector := w }
  interruptsEnabled h := h.mie
  setInterrupts b h := { h with mie := b }

def describe (h : SimulatedHart) : String :=
  Text.record "SimulatedHart" [("vector", Word.decimal h.vector), ("mie", toString h.mie)]

end SimulatedHart

/-- The trap registers of a real hart. -/
structure NativeHart where
  mtvec : Word
  mstatus : Word
  deriving DecidableEq, Repr

namespace NativeHart

def reset : NativeHart := ⟨0, 0⟩

instance : Inhabited NativeHart := ⟨reset⟩

instance : Hart NativeHart where
  vector h := h.mtvec
  setVector w h := { h with mtvec := w }
  interruptsEnabled h := h.mstatus &&& Status.mie != 0
  setInterrupts b h :=
    { h with mstatus := if b then h.mstatus ||| Status.mie else h.mstatus &&& ~~~Status.mie }

end NativeHart

end HartLayer
