import HartLayer.Device.Bus
import HartLayer.Heap
import HartLayer.SelfTest.Runner
import HartLayer.Trap.Delivery

/-!
# The rig of the self tests

The self tests work on two trap systems and a heap of their own, beside the global system, so that
they can run at any time without touching what the kernel works on. Off the machine there are no
devices.
-/

namespace HartLayer.SelfTest

/-- What the recording handler and the test thread have seen. -/
structure Recorder where
  calls : Nat
  kinds : List EventKind
  entryArg : Word
  deriving DecidableEq, Repr

def Recorder.empty : Recorder := ⟨0, [], 0⟩

/-- What the self tests work on: trap systems behind the global one, and a heap. -/
structure Rig where
  world : World SimulatedHart 2 Recorder
  heap : Heap
  devices : Option Bus

namespace Rig

/-- Where the stack of the rig starts. -/
def stackBase : Word := 0x7e0000000000

def fresh (devices : Option Bus) : Rig :=
  ⟨.boot .standard .reset 2 stackBase .empty, .unset, devices⟩

instance : HasConsole Rig where
  print text r := { r with world := r.world.print text }

/-- The system that the tests set up. -/
def tested : SystemId 2 := 1

/-- The system without a handler. -/
def bare : SystemId 2 := 2

/-- Counts the call, remembers the kind of the first eight, and resumes the trapped context. -/
def recordingHandler : Handlers 2 Recorder := fun _ event frame => do
  Script.onKernel fun r =>
    { r with calls := r.calls + 1, kinds := (r.kinds ++ [event.kind]).take 8 }
  return some frame

/-- The code of the test thread, which remembers its argument. -/
def threadCode (_entry arg : Word) : Script 2 Recorder Unit :=
  Script.onKernel fun r => { r with entryArg := arg }

/-- Runs a script on the trap systems of the rig. -/
def script {α : Type} (p : Script 2 Recorder α) : Attempt Rig α :=
  Attempt.onPart Rig.world (fun w r => { r with world := w }) (World.exec recordingHandler p)

/-- Answers an access to the devices. A byte for the serial line appears on the console. -/
def access (a : Access) : Attempt (Bus × Console) a.Answer := do
  match a with
  | .write8 addr v =>
    if addr = DeviceMap.serial then modify fun (bus, c) => (bus, c.putByte v)
  | _ => pure ()
  (Bus.answer a).onPart Prod.fst fun bus (_, c) => (bus, c)

/-- Runs a device routine on a bus, with what it prints going to the console of the rig. -/
def routine {α : Type} (bus : Bus) (p : Routine α) : Attempt Rig α :=
  Attempt.onPart (fun r => (r.devices.getD bus, r.world.console))
    (fun (bus, c) r => { r with devices := some bus, world := { r.world with console := c } })
    (p.run access)

end Rig

/-- The body of a case: it ends early with a verdict, or comes to its end and passes. -/
abbrev Check := ExceptT Verdict (Attempt Rig)

namespace Check

def println (text : String) : Check Unit :=
  ExceptT.lift (modify (HasConsole.print (text ++ "\n")))

/-- Fails with a message unless a condition holds. -/
def require (cond : Bool) (message : String) : Check Unit := do
  unless cond do
    println ("  FAIL: " ++ message)
    throw .fail

def script {α : Type} (p : Script 2 Recorder α) : Check α :=
  ExceptT.lift (Rig.script p)

def routine {α : Type} (bus : Bus) (p : Routine α) : Check α :=
  ExceptT.lift (Rig.routine bus p)

def rig : Check Rig :=
  ExceptT.lift (get : Attempt Rig Rig)

def verdict (c : Check Unit) : Attempt Rig Verdict := do
  match ← c.run with
  | .ok () => return .pass
  | .error v => return v

end Check

/-- A case with a body of checks. -/
def check (name description : String) (body : Check Unit) : Case Rig :=
  ⟨name, description, body.verdict⟩

end HartLayer.SelfTest
