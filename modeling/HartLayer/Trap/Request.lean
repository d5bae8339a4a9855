import HartLayer.Trap.World
import HartLayer.KernelThread

/-!
# What kernel code may ask for

Handlers, entry functions and the code of a kernel are scripts: finite programs that work on
frames, call the trap layer, print, and keep state of their own. `Request` lists all they may ask
for. A handler is told the event and the frame, and ends with the frame to resume, or with none.
-/

namespace HartLayer

/-- A request to the trap layer or to the kernel's own state. -/
inductive Request (n : Nat) (κ : Type) where
  | context (frame : Word)
  | setContext (frame : Word) (c : Context)
  /-- Installs a handler and gives the one it replaces. -/
  | install (s : SystemId n) (h : HandlerId)
  /-- Sets vector, configuration and handler, and says so on the console. -/
  | init (s : SystemId n) (config : TrapConfig) (h : HandlerId) (vector : Word)
  /-- Dispatches a trap with a given cause and gives the frame to resume. -/
  | dispatch (s : SystemId n) (cause : Cause) (frame : Word)
  /-- Dispatches the trap saved in a frame. There has to be a frame. -/
  | handle (s : SystemId n) (frame : Word)
  /-- Takes the trap saved in a frame on the hart of the global system and returns from it. -/
  | simulateTrap (frame : Word)
  /-- Yields to the global system with a frame that lives as long as the call. -/
  | yieldNow
  | interruptsEnabled (s : SystemId n)
  /-- Switches interrupts, as far as the policy allows. -/
  | setInterrupts (s : SystemId n) (on : Bool)
  /-- The enable bit of the hart, whatever the policy. -/
  | hartInterrupts (s : SystemId n)
  | setHartInterrupts (s : SystemId n) (on : Bool)
  | vector (s : SystemId n)
  | setVector (s : SystemId n) (w : Word)
  | config (s : SystemId n)
  /-- Prepares a thread under the policy in force and gives its frame. -/
  | newThread (s : SystemId n) (stack : Area) (entry arg : Word)
  /-- Prepares a thread under a given policy and gives its frame. -/
  | newThreadUnder (policy : InterruptPolicy) (stack : Area) (entry arg : Word)
  | delivered (s : SystemId n)
  /-- The newest unknown traps, unless the log is held. -/
  | unknownTraps (s : SystemId n)
  /-- Takes or releases the log. -/
  | holdLog (s : SystemId n) (held : Bool)
  | print (text : String)
  | printBytes (bs : Array UInt8)
  | note (e : Entry n)
  /-- The kernel's own state. -/
  | kernel
  | setKernel (k : κ)

abbrev Request.Answer {n : Nat} {κ : Type} : Request n κ → Type
  | .context _ => Context
  | .setContext _ _ => Unit
  | .install _ _ => Option HandlerId
  | .init _ _ _ _ => Unit
  | .dispatch _ _ _ => Word
  | .handle _ _ => Word
  | .simulateTrap _ => Word
  | .yieldNow => Unit
  | .interruptsEnabled _ => Bool
  | .setInterrupts _ _ => Unit
  | .hartInterrupts _ => Bool
  | .setHartInterrupts _ _ => Unit
  | .vector _ => Word
  | .setVector _ _ => Unit
  | .config _ => TrapConfig
  | .newThread _ _ _ _ => Word
  | .newThreadUnder _ _ _ _ => Word
  | .delivered _ => Word
  | .unknownTraps _ => Option TrapLog
  | .holdLog _ _ => Unit
  | .print _ => Unit
  | .printBytes _ => Unit
  | .note _ => Unit
  | .kernel => κ
  | .setKernel _ => Unit

/-- Code of the kernel. -/
abbrev Script (n : Nat) (κ α : Type) := Program (Request.Answer (n := n) (κ := κ)) Fault α

/-- What every handler does with an event and a frame. -/
abbrev Handlers (n : Nat) (κ : Type) := HandlerId → Event → Word → Script n κ (Option Word)

namespace Script

variable {n : Nat} {κ : Type}

def ask (r : Request n κ) : Script n κ r.Answer := Program.request r

def onContext (frame : Word) (f : Context → Context) : Script n κ Unit := do
  let c ← ask (.context frame)
  ask (.setContext frame (f c))

def onKernel (f : κ → κ) : Script n κ Unit := do
  let k ← ask .kernel
  ask (.setKernel (f k))

def log (level : LogLevel) (text : String) : Script n κ Unit :=
  ask (.print (level.line text))

/-- Enters the code of a thread that has never run, as resuming its frame would: the saved resume
address selects the code, and `a0` is its argument. -/
def enter (code : Word → Word → Script n κ Unit) (frame : Word) : Script n κ Unit := do
  let c ← ask (.context frame)
  code c.mepc c.a0

end Script

end HartLayer
