import HartLayer.Word

/-!
# Trap causes

The cause register of a trapped hart holds a code; its top bit says whether the trap is an
interrupt. Every 64-bit value is a cause, also those that no named trap has.
-/

namespace HartLayer

/-- The synchronous exceptions. -/
inductive Exception where
  | instructionMisaligned
  | instructionFault
  | illegalInstruction
  | breakpoint
  | loadMisaligned
  | loadFault
  | storeMisaligned
  | storeFault
  | userEnvCall
  | supervisorEnvCall
  | machineEnvCall
  | instructionPageFault
  | loadPageFault
  | storePageFault
  deriving DecidableEq, Repr

def Exception.code : Exception → Word
  | .instructionMisaligned => 0
  | .instructionFault => 1
  | .illegalInstruction => 2
  | .breakpoint => 3
  | .loadMisaligned => 4
  | .loadFault => 5
  | .storeMisaligned => 6
  | .storeFault => 7
  | .userEnvCall => 8
  | .supervisorEnvCall => 9
  | .machineEnvCall => 11
  | .instructionPageFault => 12
  | .loadPageFault => 13
  | .storePageFault => 15

inductive Interrupt where
  | supervisorSoft
  | machineSoft
  | supervisorTimer
  | machineTimer
  | supervisorExternal
  | machineExternal
  deriving DecidableEq, Repr

def Interrupt.code : Interrupt → Word
  | .supervisorSoft => 1
  | .machineSoft => 3
  | .supervisorTimer => 5
  | .machineTimer => 7
  | .supervisorExternal => 9
  | .machineExternal => 11

/-- The contents of the cause register. -/
structure Cause where
  bits : Word
  deriving DecidableEq, Repr, Inhabited

namespace Cause

/-- The bit that marks an interrupt. -/
def interruptBit : Word := 0x8000000000000000

def ofException (e : Exception) : Cause := ⟨e.code⟩

/-- The cause of an interrupt is its code with the interrupt bit. -/
def ofInterrupt (i : Interrupt) : Cause := ⟨interruptBit ||| i.code⟩

def isInterrupt (c : Cause) : Bool := c.bits &&& interruptBit != 0

/-- The bits below the interrupt bit. -/
def code (c : Cause) : Word := c.bits &&& ~~~interruptBit

def display (c : Cause) : String := Word.decimal c.bits

/-- A cause spelled out for a reader: its class, its code and its bits. -/
def describe (c : Cause) : String :=
  let class_ := if c.isInterrupt then "Interrupt" else "Exception"
  s!"TrapCause::{class_}(code: {Word.decimal c.code}, raw: {Word.hex c.bits})"

end Cause

end HartLayer
