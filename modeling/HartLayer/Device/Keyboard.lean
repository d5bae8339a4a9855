import HartLayer.Device.Access

/-!
# The keyboard

The status word holds a key code, with bit 15 set for a press. A status other than zero has to be
acknowledged, by a write to the word behind it, before the next one is presented.
-/

namespace HartLayer.Keyboard

/-- The bit that marks a press. -/
def keydownMask : UInt32 := 0x8000

/-- Where a status is acknowledged. -/
def acknowledge : Word := DeviceMap.keyboard + 4

/-- A key that went down or came up. -/
structure KeyEvent where
  keydown : Bool
  keycode : UInt32
  deriving DecidableEq, Repr

namespace KeyEvent

/-- The event that a status stands for. -/
def ofStatus (status : UInt32) : KeyEvent :=
  ⟨status &&& keydownMask != 0, status &&& ~~~keydownMask⟩

/-- Whether no key was pending. -/
def isNone (e : KeyEvent) : Bool := e.keycode == 0 && !e.keydown

end KeyEvent

/-- Whether there is a keyboard. There always is. -/
def present : Routine Bool := .done true

/-- Takes the pending key, if there is one. -/
def poll : Routine KeyEvent := do
  let status ← Routine.access (.read32 DeviceMap.keyboard)
  if status ≠ 0 then Routine.access (.write32 acknowledge 1)
  return .ofStatus status

end HartLayer.Keyboard
