import HartLayer.Console
import HartLayer.Program
import HartLayer.Symbol
import HartLayer.Trap.Dispatcher

/-!
# The world of the trap layer

Several trap systems share one memory, in which all frames live, and one console. The first system
is the global one. The world also holds the kernel's own state and a journal of what the handlers
saw, and it knows where the next trap of the running code would push its frame.
-/

namespace HartLayer

/-- One of the global system and `n` others. -/
abbrev SystemId (n : Nat) := Fin (n + 1)

/-- The system that the calls without a system use. -/
def SystemId.global {n : Nat} : SystemId n := 0

/-- One call of a handler: who was called, by which system, and what was handed over. -/
structure Invocation (n : Nat) where
  system : SystemId n
  handler : HandlerId
  event : Event
  frame : Word
  context : Context
  deriving DecidableEq, Repr

/-- What a handler noted about a dispatcher. Interrupts are not noted where no hart is attached,
and the length of the log is not known while the log is held. -/
structure Observation where
  delivered : Word
  interrupts : Option Bool
  logged : Option Nat
  deriving DecidableEq, Repr

inductive Entry (n : Nat) where
  | handled (call : Invocation n)
  | noted (seen : Observation)
  | entered (code : Symbol) (arg : Word)
  deriving DecidableEq, Repr

/-- The state of the trap layer and of the kernel above it, and where their code lies. -/
structure World (H : Type) (n : Nat) (κ : Type) where
  code : CodeMap
  memory : Memory
  systems : Vector (TrapSystem H) (n + 1)
  stack : Word
  console : Console
  journal : Array (Entry n)
  kernel : κ

abbrev World.Run (H : Type) (n : Nat) (κ : Type) := Attempt (World H n κ)

namespace World

variable {H κ α : Type} {n : Nat}

/-- The state at start-up: fresh systems, empty memory. -/
def boot (code : CodeMap) (hart : H) (n : Nat) (stack : Word) (kernel : κ) : World H n κ where
  code := code
  memory := .zero
  systems := Vector.replicate (n + 1) (.fresh hart)
  stack := stack
  console := .empty
  journal := #[]
  kernel := kernel

def system (w : World H n κ) (s : SystemId n) : TrapSystem H := w.systems[s]

def onSystem (w : World H n κ) (s : SystemId n) (f : TrapSystem H → TrapSystem H) : World H n κ :=
  { w with systems := w.systems.set s (f w.systems[s]) }

def onDispatcher (w : World H n κ) (s : SystemId n) (f : Dispatcher → Dispatcher) : World H n κ :=
  w.onSystem s fun t => { t with dispatcher := f t.dispatcher }

def dispatcher (w : World H n κ) (s : SystemId n) : Dispatcher := (w.system s).dispatcher

@[inline] def context (w : World H n κ) (frame : Word) : Context := w.memory.context frame

def setContext (w : World H n κ) (frame : Word) (c : Context) : World H n κ :=
  { w with memory := w.memory.setContext frame c }

/-- Takes a trap on the hart of a system: its frame gets the status, and interrupts go off. -/
def takeTrap [Hart H] (w : World H n κ) (s : SystemId n) (frame : Word) : World H n κ :=
  let (status, hart) := Hart.takeTrap (w.system s).hart
  { w.onSystem s fun t => { t with hart } with memory := w.memory.setStatus frame status }

/-- Returns from a trap on the hart of a system to the context in a frame. -/
def returnFromTrap [Hart H] (w : World H n κ) (s : SystemId n) (frame : Word) : World H n κ :=
  w.onSystem s fun t => { t with hart := Hart.returnFromTrap t.hart (w.context frame) }

def print (w : World H n κ) (text : String) : World H n κ :=
  { w with console := w.console.put text }

def log (w : World H n κ) (level : LogLevel) (text : String) : World H n κ :=
  w.print (level.line text)

def note (w : World H n κ) (e : Entry n) : World H n κ :=
  { w with journal := w.journal.push e }

/-- Pushes a frame below the stack for the time of a computation, which is given its address. -/
def withFrame (c : Context) (body : Word → Run H n κ α) : Run H n κ α := fun w =>
  let stack := w.stack
  let frame := stack - Frame.size.toUInt64
  let body := (body frame).ensuring fun w' => { w' with stack }
  body.runFrom { w.setContext frame c with stack := frame }

/-! ## What a change of one system leaves alone -/

@[simp] theorem system_onSystem_self (w : World H n κ) (s : SystemId n)
    (f : TrapSystem H → TrapSystem H) : (w.onSystem s f).system s = f (w.system s) := by
  simp [onSystem, system]

theorem system_onSystem_of_ne (w : World H n κ) {s t : SystemId n} (h : s ≠ t)
    (f : TrapSystem H → TrapSystem H) : (w.onSystem s f).system t = w.system t := by
  have h' : s.val ≠ t.val := fun e => h (Fin.ext e)
  simp [onSystem, system, h']

@[simp] theorem dispatcher_onDispatcher_self (w : World H n κ) (s : SystemId n)
    (f : Dispatcher → Dispatcher) :
    (w.onDispatcher s f).dispatcher s = f (w.dispatcher s) := by
  simp only [onDispatcher, dispatcher, system_onSystem_self]

theorem dispatcher_onDispatcher_of_ne (w : World H n κ) {s t : SystemId n} (h : s ≠ t)
    (f : Dispatcher → Dispatcher) : (w.onDispatcher s f).dispatcher t = w.dispatcher t := by
  simp only [onDispatcher, dispatcher, system_onSystem_of_ne w h]

@[simp] theorem context_onSystem (w : World H n κ) (s : SystemId n)
    (f : TrapSystem H → TrapSystem H) (a : Word) :
    (w.onSystem s f).context a = w.context a := rfl

@[simp] theorem context_setContext (w : World H n κ) (a : Word) (c : Context) :
    (w.setContext a c).context a = c :=
  Memory.context_setContext w.memory a c

/-- A frame whose trap is taken keeps all of its context but the status. -/
@[simp] theorem context_takeTrap [Hart H] (w : World H n κ) (s : SystemId n) (a : Word) :
    (w.takeTrap s a).context a =
      { w.context a with mstatus := (Hart.takeTrap (w.system s).hart).1 } :=
  Memory.context_setStatus w.memory a _

@[simp] theorem context_returnFromTrap [Hart H] (w : World H n κ) (s : SystemId n)
    (next a : Word) : (w.returnFromTrap s next).context a = w.context a := rfl

@[simp] theorem system_setContext (w : World H n κ) (a : Word) (c : Context) (s : SystemId n) :
    (w.setContext a c).system s = w.system s := rfl

end World

end HartLayer
