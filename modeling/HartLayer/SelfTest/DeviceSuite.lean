import HartLayer.Device.Clock
import HartLayer.Device.Display
import HartLayer.Device.Keyboard
import HartLayer.Device.Serial
import HartLayer.SelfTest.Rig

/-!
# Self tests of the devices

Without devices every case is skipped.
-/

namespace HartLayer.SelfTest.DeviceSuite

/-- A case on the devices, skipped if there are none. The body is given what runs a routine. -/
def onDevices (name description : String)
    (body : ({α : Type} → Routine α → Check α) → Check Unit) : Case Rig :=
  check name description do
    match (← Check.rig).devices with
    | none => throw .skip
    | some bus => body (Check.routine bus)

/-- The serial line takes a text. -/
def serialPuts : Case Rig :=
  onDevices "serial_puts" "Serial port takes a direct string write" fun run =>
    run (Serial.put "  serial: direct write ok\n")

/-- The timer does not run backwards. -/
def uptimeMonotonic : Case Rig :=
  onDevices "uptime_monotonic" "Timer never runs backwards" fun run => do
    let first ← run Clock.uptime
    let second ← run Clock.uptime
    .require (first ≤ second)
      s!"uptime went backwards: {Word.decimal first} -> {Word.decimal second}"
    Check.println s!"  uptime: {Word.decimal second} us"

/-- A number with at least two characters, filled up with a zero in front. -/
def twoDigits (n : Int32) : String :=
  let n := n.toInt
  if 0 ≤ n ∧ n < 10 then s!"0{n}" else s!"{n}"

/-- The clock reports a time of day. -/
def rtcFields : Case Rig :=
  onDevices "rtc_fields" "RTC reports a plausible time of day" fun run => do
    let now ← run Clock.now
    let within (n : Int32) (bound : Int) : Bool := 0 ≤ n.toInt && n.toInt < bound
    .require (within now.second 60) s!"second out of range: {now.second.toInt}"
    .require (within now.minute 60) s!"minute out of range: {now.minute.toInt}"
    .require (within now.hour 24) s!"hour out of range: {now.hour.toInt}"
    let date := s!"{now.year.toInt}-{twoDigits now.month}-{twoDigits now.day}"
    let time := s!"{twoDigits now.hour}:{twoDigits now.minute}:{twoDigits now.second}"
    Check.println s!"  rtc: {date} {time}"

/-- Polls at most a number of times for an empty event. -/
def drained (poll : Check Keyboard.KeyEvent) : Nat → Check Bool
  | 0 => return false
  | n + 1 => do
    if (← poll).isNone then return true
    drained poll n

/-- The keyboard runs out of events. -/
def keyboardPoll : Case Rig :=
  onDevices "keyboard_poll" "Keyboard poll drains to an empty event" fun run => do
    .require (← run Keyboard.present) "keyboard not present"
    unless ← drained (run Keyboard.poll) 64 do
      Check.println "  FAIL: keyboard never reported an empty queue"
      throw .fail

/-- Four by four white pixels in a corner, shown at once. -/
def whiteCorner : Display.Drawing :=
  ⟨0, 0, 4, 4, some (List.replicate 16 0x00ffffff), true⟩

/-- The display takes pixels. A screen without pixels is no display. -/
def gpuSync : Case Rig :=
  onDevices "gpu_sync" "Framebuffer write followed by a sync" fun run => do
    .require (← run Display.ready) "VGA controller not ready"
    let screen ← run Display.screen
    Check.println s!"  screen: {screen.width}x{screen.height}"
    if screen.width = 0 ∨ screen.height = 0 then throw .skip
    run (Display.draw screen whiteCorner)

def cases : List (Case Rig) :=
  [serialPuts, uptimeMonotonic, rtcFields, keyboardPoll, gpuSync]

def run : Attempt (Session Rig) Unit := Session.runSuite "IOE" cases

end HartLayer.SelfTest.DeviceSuite
