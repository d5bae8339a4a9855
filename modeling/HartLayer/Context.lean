import HartLayer.Fault
import HartLayer.Memory
import HartLayer.Text.Record

/-!
# Register frames

A `Context` is the state of one suspended execution: 32 general registers, the cause and the
status at the trap, and the address to resume at. In memory it is a frame of 288 bytes, 35 words in
the order of `Context.slot` and one word of padding. A stored frame reads back as it was stored
(`Memory.context_setContext`), and frames apart from it keep their contents
(`Memory.context_setContext_of_apart`). The status of a frame can be stored by itself
(`Memory.context_setStatus`).
-/

namespace HartLayer

/-! ## The layout of a frame in memory, in bytes -/

namespace Frame

/-- Changes whenever the layout changes. -/
def version : Nat := 1

def registers : Nat := 32

def slotSize : Nat := 8

def registersAt : Nat := 0

def causeAt : Nat := registersAt + registers * slotSize

def statusAt : Nat := causeAt + slotSize

def resumeAt : Nat := statusAt + slotSize

/-- The bytes of a frame that hold its 35 slots. -/
def used : Nat := resumeAt + slotSize

/-- The size of a frame, which keeps a stack aligned to 16 bytes. -/
def size : Nat := (used + 15) / 16 * 16

end Frame

/-! ## The general registers with a fixed role in calls -/

namespace Register

def zero : Fin 32 := 0
def ra : Fin 32 := 1
def sp : Fin 32 := 2
def a0 : Fin 32 := 10
def a1 : Fin 32 := 11
def a2 : Fin 32 := 12
def a7 : Fin 32 := 17

end Register

/-! ## The bits of the status register that the layer uses -/

namespace Status

/-- Interrupts are enabled. -/
def mie : Word := 0x8

/-- Interrupts come back on when the trap returns. -/
def mpie : Word := 0x80

/-- The trap returns to machine mode. -/
def mppMachine : Word := 0x1800

/-- The status of a frame that returns to machine mode, with or without interrupts. -/
def resuming (interrupts : Bool) : Word :=
  if interrupts then mppMachine ||| mpie else mppMachine

end Status

/-- The call number of a voluntary yield. -/
def yieldSentinel : Word := 0xffffffffffffffff

/-- The state of a suspended execution. -/
structure Context where
  gpr : Vector Word 32
  mcause : Word
  mstatus : Word
  mepc : Word
  deriving DecidableEq, Repr

namespace Context

def zeroed : Context := ⟨Vector.replicate 32 0, 0, 0, 0⟩

instance : Inhabited Context := ⟨zeroed⟩

@[inline] def cause (c : Context) : Cause := ⟨c.mcause⟩

def sp (c : Context) : Word := c.gpr[Register.sp]

/-- The value of `a0`: the first argument of a call, and its result. -/
def a0 (c : Context) : Word := c.gpr[Register.a0]

def callNumber (c : Context) : Word := c.gpr[Register.a7]

/-- Argument `n` of a synchronous call; there are six argument registers. -/
def arg (c : Context) (n : Word) : Except Fault Word :=
  if h : n.toNat < 6 then .ok (c.gpr.get ⟨10 + n.toNat, by omega⟩) else .error .noSuchArgument

def setRegister (c : Context) (i : Fin 32) (w : Word) : Context :=
  { c with gpr := c.gpr.set i w }

/-- The context that resumes with a value in `a0`. -/
def setReturnValue (c : Context) (w : Word) : Context :=
  c.setRegister Register.a0 w

/-- Whether interrupts come back on when the context resumes. -/
@[inline] def resumesWithInterrupts (c : Context) : Bool :=
  c.mstatus &&& Status.mpie != 0

/-- The context with its resume address moved on, wrapping at the end of the address space. -/
def advance (c : Context) (bytes : Word) : Context :=
  { c with mepc := c.mepc + bytes }

/-- The context that is saved when a trap strikes at an address. -/
def trapped (cause : Cause) (pc : Word) : Context :=
  { zeroed with mcause := cause.bits, mstatus := Status.resuming false, mepc := pc }

/-- The context that is saved at a synchronous call. -/
def calling (number pc : Word) : Context :=
  (trapped (.ofException .machineEnvCall) pc).setRegister Register.a7 number

/-- The 35 slots of a frame in memory order. -/
def slot (c : Context) (i : Nat) : Word :=
  if h : i < 32 then c.gpr[i] else
    match i - 32 with
    | 0 => c.mcause
    | 1 => c.mstatus
    | _ => c.mepc

def words (c : Context) : List Word :=
  c.gpr.toList ++ [c.mcause, c.mstatus, c.mepc]

/-- The fields that a reader wants first. -/
def fields (c : Context) : List (String × String) :=
  [("mepc", Word.hex c.mepc), ("mcause", c.cause.describe), ("mstatus", Word.hex c.mstatus),
    ("sp", Word.hex c.sp), ("a0", Word.hex c.a0), ("a7", Word.hex c.callNumber)]

def describe (c : Context) : String := Text.record "Context" c.fields

def describeLines (c : Context) : String := Text.recordLines "Context" c.fields

end Context

namespace Memory

@[inline] def context (m : Memory) (a : Word) : Context where
  gpr := Vector.ofFn fun i => m.word (a + (8 * i.val).toUInt64)
  mcause := m.word (a + Frame.causeAt.toUInt64)
  mstatus := m.word (a + Frame.statusAt.toUInt64)
  mepc := m.word (a + Frame.resumeAt.toUInt64)

def setContext (m : Memory) (a : Word) (c : Context) : Memory :=
  m.setWords a c.slot 35

def setStatus (m : Memory) (a w : Word) : Memory :=
  m.setWord (a + Frame.statusAt.toUInt64) w

/-- A stored frame holds the bytes of its slots, and nothing outside of it has changed. -/
theorem byte_setContext (m : Memory) (a : Word) (c : Context) (x : Word) :
    (m.setContext a c).byte x =
      if (x - a).toNat < Frame.used then (c.slot ((x - a).toNat / 8)).byteAt ((x - a).toNat % 8)
      else m.byte x :=
  byte_setWords m a c.slot (by decide) x

/-- The context in a frame is what was stored there last. -/
@[simp] theorem context_setContext (m : Memory) (a : Word) (c : Context) :
    (m.setContext a c).context a = c := by
  have read : ∀ i < 35, (m.setContext a c).word (a + (8 * i).toUInt64) = c.slot i := by
    intro i hi
    refine word_eq_of_byteAt fun j hj => ?_
    have small : 8 * i + j < 280 := by omega
    rw [Word.add_toUInt64_add, byte_setContext, Word.toNat_add_sub,
      if_pos (show 8 * i + j < Frame.used from small)]
    · rw [show (8 * i + j) / 8 = i by omega, show (8 * i + j) % 8 = j by omega]
    · exact Nat.lt_trans small (by decide)
  have regs : Vector.ofFn (fun i : Fin 32 => (m.setContext a c).word (a + (8 * i.val).toUInt64)) =
      c.gpr := by
    ext i hi
    rw [Vector.getElem_ofFn, read i (by omega), Context.slot, dif_pos hi]
  rw [context, regs]
  exact congr (congr (congrArg (Context.mk c.gpr) (read 32 (by decide)))
    (read 33 (by decide))) (read 34 (by decide))

/-- The status of a frame is its own; the rest of the context stays as it was. -/
@[simp] theorem context_setStatus (m : Memory) (a w : Word) :
    (m.setStatus a w).context a = { m.context a with mstatus := w } := by
  have read (i : Nat) (hi : i < 35) (h : i ≠ 33) :
      (m.setStatus a w).word (a + (8 * i).toUInt64) = m.word (a + (8 * i).toUInt64) := by
    have apart : (a + (8 * i).toUInt64 - (a + Frame.statusAt.toUInt64)).toNat =
        if 264 ≤ 8 * i then 8 * i - 264 else 8 * i + UInt64.size - 264 := by
      rw [Word.toNat_sub_add _ _ (show Frame.statusAt < UInt64.size by decide),
        show Frame.statusAt = 264 from rfl,
        Word.toNat_add_sub a (Nat.lt_trans (by omega : 8 * i < 280) (by decide))]
    refine word_setWord_of_apart m w ?_ ?_ <;> rw [apart, UInt64.size] <;> split <;> omega
  have regs (i : Fin 32) : (m.setStatus a w).word (a + (8 * i.val).toUInt64) =
      m.word (a + (8 * i.val).toUInt64) := read i.val (by omega) (by omega)
  have cause : (m.setStatus a w).word (a + Frame.causeAt.toUInt64) =
      m.word (a + Frame.causeAt.toUInt64) := read 32 (by decide) (by decide)
  have resume : (m.setStatus a w).word (a + Frame.resumeAt.toUInt64) =
      m.word (a + Frame.resumeAt.toUInt64) := read 34 (by decide) (by decide)
  have status : (m.setStatus a w).word (a + Frame.statusAt.toUInt64) = w := word_setWord _ _ _
  simp only [context, regs, cause, resume, status]

/-- Storing a frame leaves the frames that it does not touch as they are. -/
theorem context_setContext_of_apart (m : Memory) {a b : Word} (c : Context)
    (h : ∀ i < Frame.used, Frame.used ≤ (b + i.toUInt64 - a).toNat) :
    (m.setContext a c).context b = m.context b := by
  have read : ∀ k, k + 8 ≤ Frame.used →
      (m.setContext a c).word (b + k.toUInt64) = m.word (b + k.toUInt64) := by
    intro k hk
    refine word_congr fun i hi => ?_
    rw [Word.add_toUInt64_add, byte_setContext, if_neg]
    exact Nat.not_lt.2 (h (k + i) (by omega))
  have regs (i : Fin 32) : (m.setContext a c).word (b + (8 * i.val).toUInt64) =
      m.word (b + (8 * i.val).toUInt64) :=
    read _ (Nat.le_trans (by omega : 8 * i.val + 8 ≤ 256) (by decide))
  simp only [context, regs, read _ (show Frame.causeAt + 8 ≤ Frame.used by decide),
    read _ (show Frame.statusAt + 8 ≤ Frame.used by decide),
    read _ (show Frame.resumeAt + 8 ≤ Frame.used by decide)]

end Memory

end HartLayer
