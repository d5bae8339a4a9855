import HartLayer.Device.Bus
import HartLayer.Device.Clock
import HartLayer.Device.Display
import HartLayer.Device.Keyboard
import HartLayer.Device.Mapped
import HartLayer.Device.Serial

/-!
# Trying out device routines

Steps that access device registers or run a device routine on them.
-/

namespace HartLayer.Bench

/-- A screen that is given, or the one that the device reports. -/
inductive ScreenChoice where
  | given (s : Display.Screen)
  | reported

inductive DeviceStep where
  | access (a : Access)
  | putByte (b : UInt8)
  | put (text : String)
  | uptime
  | now
  | keyboardPresent
  | poll
  | displayReady
  | screen
  | memorySize (s : ScreenChoice)
  | draw (s : ScreenChoice) (d : Display.Drawing)

inductive DeviceReply where
  | nothing
  | word (w : Word)
  | flag (b : Bool)
  | time (t : Clock.DateTime)
  | key (k : Keyboard.KeyEvent)
  | screen (s : Display.Screen) (memory : Word)

def ScreenChoice.choose : ScreenChoice → Routine Display.Screen
  | given s => .done s
  | reported => Display.screen

/-- A single access. The address right behind it has to be an address, too. -/
def singleAccess (a : Access) : Routine DeviceReply := do
  let _ ← Routine.checked (Word.checkedAdd a.addr a.width)
  match a with
  | .read8 _ => return .word (← Routine.access (.read8 a.addr)).toUInt64
  | .read32 _ => return .word (← Routine.access (.read32 a.addr)).toUInt64
  | .read64 _ => return .word (← Routine.access (.read64 a.addr))
  | .write8 _ v => do
    Routine.access (.write8 a.addr v)
    return .nothing
  | .write32 _ v => do
    Routine.access (.write32 a.addr v)
    return .nothing

def DeviceStep.routine : DeviceStep → Routine DeviceReply
  | access a => singleAccess a
  | putByte b => do
    Serial.putByte b
    return .nothing
  | put text => do
    Serial.put text
    return .nothing
  | uptime => return .word (← Clock.uptime)
  | now => return .time (← Clock.now)
  | keyboardPresent => return .flag (← Keyboard.present)
  | poll => return .key (← Keyboard.poll)
  | displayReady => return .flag (← Display.ready)
  | screen => do
    let s ← Display.screen
    return .screen s (← Routine.checked s.memorySize)
  | memorySize s => return .word (← Routine.checked (← s.choose).memorySize)
  | draw s d => do
    Display.draw (← s.choose) d
    return .nothing

/-- The outcome of a step on the scripted bus, with the accesses that the step made. -/
structure BusReport where
  result : Except Fault DeviceReply
  accesses : List Access

def playBus (queues : List (Word × List Word)) (steps : List DeviceStep) : List BusReport :=
  let played : StateM Bus (List BusReport) := steps.mapM fun s bus =>
    let (result, bus) := Attempt.runFrom (s.routine.run Bus.answer) bus
    (⟨result, bus.accesses.toList⟩, { bus with accesses := #[] })
  (played.run (.ofQueues queues)).1

/-- Performs steps on memory-mapped registers. Gives the outcomes and the words that are not zero at
the end. -/
def playMapped (steps : List DeviceStep) :
    List (Except Fault DeviceReply) × List (Word × UInt32) :=
  let played : StateM Memory (List (Except Fault DeviceReply)) :=
    steps.mapM fun s memory => Attempt.runFrom (s.routine.run MappedRegisters.answer) memory
  let (outcomes, memory) := played.run .zero
  (outcomes, MappedRegisters.contents memory)

end HartLayer.Bench
