import HartLayer.Fault
import HartLayer.Program

/-!
# Device accesses

Device routines reach registers by reads and writes of a fixed width at an address. A routine is a
program over such accesses, so it does the same on every kind of registers, and what it does to them
can be read off the program.
-/

namespace HartLayer

/-- One access to a device register. -/
inductive Access where
  | read8 (addr : Word)
  | read32 (addr : Word)
  | read64 (addr : Word)
  | write8 (addr : Word) (value : UInt8)
  | write32 (addr : Word) (value : UInt32)
  deriving DecidableEq, Repr

namespace Access

abbrev Answer : Access → Type
  | read8 _ => UInt8
  | read32 _ => UInt32
  | read64 _ => Word
  | write8 _ _ => Unit
  | write32 _ _ => Unit

def addr : Access → Word
  | read8 a | read32 a | read64 a | write8 a _ | write32 a _ => a

/-- The number of bytes that an access covers. -/
def width : Access → Word
  | read8 _ | write8 _ _ => 1
  | read32 _ | write32 _ _ => 4
  | read64 _ => 8

def isWrite : Access → Bool
  | read8 _ | read32 _ | read64 _ => false
  | write8 _ _ | write32 _ _ => true

end Access

/-- A program over device accesses. -/
abbrev Routine (α : Type) := Program Access.Answer Fault α

namespace Routine

def access (a : Access) : Routine a.Answer := Program.request a

/-- Ends with the value of a checked operation, or with its overflow. -/
def checked {α : Type} : Except Overflow α → Routine α
  | .ok a => .done a
  | .error o => .fail (.overflow o)

end Routine

/-! ## Where the devices are -/

namespace DeviceMap

def deviceBase : Word := 0xa0000000

def mmioBase : Word := 0xa1000000

def serial : Word := deviceBase + 0x3f8

/-- The status of the keyboard. -/
def keyboard : Word := deviceBase + 0x60

/-- The first field of the clock. -/
def rtc : Word := deviceBase + 0x70

/-- The counter of microseconds. -/
def timer : Word := deviceBase + 0x48

/-- The control word of the display. -/
def display : Word := deviceBase + 0x100

/-- The first pixel. -/
def framebuffer : Word := mmioBase

/-- Whether an address lies among the device registers or in the framebuffer. -/
def contains (a : Word) : Bool :=
  (deviceBase ≤ a && a < deviceBase + 0x1000) || (mmioBase ≤ a && a < mmioBase + 0x100000)

end DeviceMap

end HartLayer
