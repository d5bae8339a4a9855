import HartLayer.Text.Record

/-!
# The configuration of the trap layer

The one choice is whether interrupts may be switched on at all.
-/

namespace HartLayer

/-- What the calls that switch interrupts do. -/
inductive InterruptPolicy where
  /-- They read and write the enable bit of the hart. -/
  | masking
  /-- Interrupts stay off. -/
  | alwaysDisabled
  deriving DecidableEq, Repr

namespace InterruptPolicy

def allowsInterrupts (p : InterruptPolicy) : Bool := p = masking

def name : InterruptPolicy → String
  | masking => "Masking"
  | alwaysDisabled => "AlwaysDisabled"

end InterruptPolicy

/-- The configuration that initialisation is given. -/
structure TrapConfig where
  interrupts : InterruptPolicy
  deriving DecidableEq, Repr

namespace TrapConfig

def masking : TrapConfig := ⟨.masking⟩

/-- Interrupts stay off. -/
def inert : TrapConfig := ⟨.alwaysDisabled⟩

/-- The configuration in force when none was chosen. -/
def standard : TrapConfig := masking

instance : Inhabited TrapConfig := ⟨standard⟩

def describe (c : TrapConfig) : String :=
  Text.record "CteConfig" [("interrupts", c.interrupts.name)]

end TrapConfig

end HartLayer
