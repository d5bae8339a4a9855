import HartLayer.Device.Access

/-!
# Clocks

The timer counts microseconds in one 64-bit register. The real-time clock has six signed fields in
consecutive words, the seconds first.
-/

namespace HartLayer.Clock

structure DateTime where
  second : Int32
  minute : Int32
  hour : Int32
  day : Int32
  month : Int32
  year : Int32
  deriving DecidableEq

/-- Microseconds since start-up. -/
def uptime : Routine Word :=
  Routine.access (.read64 DeviceMap.timer)

/-- One field of the clock. -/
def field (index : Word) : Routine Int32 := do
  return (← Routine.access (.read32 (DeviceMap.rtc + 4 * index))).toInt32

def now : Routine DateTime := do
  let second ← field 0
  let minute ← field 1
  let hour ← field 2
  let day ← field 3
  let month ← field 4
  let year ← field 5
  return ⟨second, minute, hour, day, month, year⟩

end HartLayer.Clock
