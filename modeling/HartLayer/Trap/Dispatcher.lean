import HartLayer.Classification
import HartLayer.Hart
import HartLayer.Policy
import HartLayer.Ring

/-!
# Dispatchers and trap systems

A dispatcher remembers which handler is installed, how many traps it delivered, the newest traps
that the cause table does not name, and whether it is handling a trap right now. A trap system is a
dispatcher with the hart that it serves and the configuration in force.
-/

namespace HartLayer

/-- The name of a handler. What a handler does is given separately. -/
structure HandlerId where
  index : Nat
  deriving DecidableEq, Repr

/-- A trap that the cause table does not name. -/
structure UnknownTrap where
  cause : Cause
  pc : Word
  deriving DecidableEq, Repr

def UnknownTrap.describe (u : UnknownTrap) : String :=
  Text.record "UnknownTrap" [("cause", u.cause.describe), ("pc", Word.decimal u.pc)]

/-- How many unknown traps are remembered. -/
def trapLogCapacity : Nat := 32

abbrev TrapLog := Ring UnknownTrap trapLogCapacity

/-- What a dispatcher remembers. `logHeld` says that the kernel is busy with the log. -/
structure Dispatcher where
  handler : Option HandlerId
  log : TrapLog
  logHeld : Bool
  dispatching : Bool
  delivered : Word
  deriving Repr

namespace Dispatcher

/-- No handler, nothing delivered, nothing logged. -/
def idle : Dispatcher := ⟨none, .empty, false, false, 0⟩

instance : Inhabited Dispatcher := ⟨idle⟩

/-- A copy of the log, unless it is held. -/
def unknownTraps (d : Dispatcher) : Option TrapLog :=
  if d.logHeld then none else some (.ofList d.log.toList)

/-- Puts a handler in the place of the one before, which is returned. -/
def install (d : Dispatcher) (h : HandlerId) : Option HandlerId × Dispatcher :=
  (d.handler, { d with handler := some h })

end Dispatcher

/-- A dispatcher, the hart that it serves, and the configuration. -/
structure TrapSystem (H : Type) where
  dispatcher : Dispatcher
  hart : H
  config : TrapConfig

namespace TrapSystem

variable {H : Type} [Hart H]

def fresh (hart : H) : TrapSystem H := ⟨.idle, hart, .standard⟩

def policy (s : TrapSystem H) : InterruptPolicy := s.config.interrupts

/-- Whether interrupts are enabled; never so where the policy keeps them off. -/
def interruptsEnabled (s : TrapSystem H) : Bool :=
  s.policy.allowsInterrupts && Hart.interruptsEnabled s.hart

/-- Switches interrupts on or off; always off where the policy keeps them off. -/
def setInterrupts (s : TrapSystem H) (on : Bool) : TrapSystem H :=
  { s with hart := Hart.setInterrupts (s.policy.allowsInterrupts && on) s.hart }

/-- Sets the vector, the configuration and the handler. Interrupts are switched off where the
policy keeps them off, and are otherwise left alone. -/
def init (s : TrapSystem H) (config : TrapConfig) (h : HandlerId) (vector : Word) :
    TrapSystem H where
  dispatcher := (s.dispatcher.install h).2
  hart :=
    let hart := Hart.setVector vector s.hart
    if config.interrupts.allowsInterrupts then hart else Hart.setInterrupts false hart
  config := config

end TrapSystem

end HartLayer
