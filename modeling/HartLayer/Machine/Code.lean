import HartLayer.Machine.MemoryMap
import HartLayer.SelfTest

/-!
# Code that runs on the machine

Kernel code makes requests to the trap layer and raises traps; only a trap can hand the hart to
another execution. Besides what the trap layer has, the machine has device registers, a heap, and a
plan of traps that it raises by itself. The plan counts call instructions: at each of them the plan
is gone through once, and what has become due is raised before the trap of the call.
-/

namespace HartLayer

/-- A trap that the machine raises by itself, once, as soon as so many calls were reached. -/
structure Injection where
  dueAt : Nat
  trap : Context
  used : Bool
  deriving DecidableEq, Repr

/-- Whether an injection is raised at a call. An interrupt waits until interrupts are enabled. -/
def Injection.isDue (i : Injection) (calls : Nat) (interrupts : Bool) : Bool :=
  !i.used && decide (i.dueAt ≤ calls) && (!i.trap.cause.isInterrupt || interrupts)

/-- What the machine has besides hart, memory and console: the number of calls reached, the plan,
the device registers, the heap and the rig of the self tests. The kernel's own state comes last. -/
structure Board (κ : Type) where
  calls : Nat
  injections : List Injection
  bus : Bus
  heap : Heap
  rig : SelfTest.Rig
  kernel : κ

namespace Board

variable {κ : Type}

def atBoot (queues : List (Word × List Word)) (injections : List Injection) (kernel : κ) :
    Board κ where
  calls := 0
  injections := injections
  bus := .ofQueues queues
  heap := .unset
  rig := .fresh none
  kernel := kernel

/-- Takes the injection at a place of the plan, if it is due. -/
def takeDue (b : Board κ) (i : Nat) (interrupts : Bool) : Option Context × Board κ :=
  match b.injections[i]? with
  | none => (none, b)
  | some j =>
    if j.isDue b.calls interrupts then
      (some j.trap, { b with injections := b.injections.set i { j with used := true } })
    else (none, b)

/-- Runs the self tests with the device registers of the board. Gives their verdict and what they
printed. -/
def selfTest (b : Board κ) : Except Fault Bool × Console × Board κ :=
  let rig := { b.rig with devices := some b.bus, world.console := .empty }
  let (passed, rig) := SelfTest.runAll.runFrom rig
  (passed, rig.world.console, { b with bus := rig.devices.getD b.bus, rig })

end Board

/-- Code of the trap layer on the machine. -/
abbrev BoardScript (κ α : Type) := Script 0 (Board κ) α

namespace BoardScript

variable {κ α : Type}

def state : BoardScript κ κ := do
  return (← Script.ask .kernel).kernel

def modify (f : κ → κ) : BoardScript κ Unit :=
  Script.onKernel fun b => { b with kernel := f b.kernel }

def print (text : String) : BoardScript κ Unit := Script.ask (.print text)

/-- Counts a call. Gives how many places the plan has. -/
def countCall : BoardScript κ Nat := do
  Script.onKernel fun b => { b with calls := b.calls + 1 }
  return (← Script.ask .kernel).injections.length

/-- Takes the injection at a place of the plan, if it is due. -/
def takeDue (i : Nat) : BoardScript κ (Option Context) := do
  let interrupts ← Script.ask (.hartInterrupts .global)
  let (c, b) := (← Script.ask .kernel).takeDue i interrupts
  Script.ask (.setKernel b)
  return c

def initHeap : BoardScript κ (Except ResourceError Unit) := do
  let b ← Script.ask .kernel
  match b.heap.init MemoryMap.heapArea with
  | .error e => return .error e
  | .ok heap =>
    Script.ask (.setKernel { b with heap })
    return .ok ()

def selfTest : BoardScript κ Bool := do
  let (passed, printed, b) := (← Script.ask .kernel).selfTest
  Script.ask (.printBytes printed.bytes)
  Script.ask (.setKernel b)
  match passed with
  | .ok p => return p
  | .error e => .fail e

/-- A trap inside a handler: its frame lies below the one that the handler was given. -/
def nestedTrap (frame : Word) (c : Context) : BoardScript κ Unit := do
  if (← Script.ask (.vector .global)) = 0 then .fail (.noVector c.cause)
  let inner := frame - Frame.size.toUInt64
  Script.ask (.setContext inner (c.setRegister Register.sp frame))
  let _ ← Script.ask (.simulateTrap inner)

/-- Raises what is due at some places of the plan, inside a handler. -/
def nestedInjections (frame : Word) : List Nat → BoardScript κ Unit
  | [] => return
  | i :: rest => do
    match ← takeDue i with
    | none => pure ()
    | some c => nestedTrap frame c
    nestedInjections frame rest

end BoardScript

def callContext (number arg : Word) : Context :=
  (Context.calling number MemoryMap.callSite).setReturnValue arg

/-- A yield inside a handler. -/
def BoardScript.nestedYield {κ : Type} (frame : Word) : BoardScript κ Unit := do
  nestedInjections frame (List.range (← countCall))
  nestedTrap frame (callContext yieldSentinel 0)

/-- What kernel code does: a request to the trap layer, or a trap. -/
inductive Instruction (κ : Type) where
  | request (r : Request 0 (Board κ))
  /-- Raises a trap with registers as they are at that moment. Its answer is `a0` as it is when the
  execution goes on. -/
  | trap (c : Context)

abbrev Instruction.Answer {κ : Type} : Instruction κ → Type
  | request r => r.Answer
  | trap _ => Word

abbrev Code (κ α : Type) := Program (Instruction.Answer (κ := κ)) Fault α

namespace Code

variable {κ α : Type}

/-- Code that raises no traps. -/
def ofScript : BoardScript κ α → Code κ α
  | Program.done a => Program.done a
  | Program.fail e => Program.fail e
  | Program.ask r next => Program.ask (.request r) fun x => ofScript (next x)

def ask (r : Request 0 (Board κ)) : Code κ r.Answer := Program.request (Instruction.request r)

def trap (c : Context) : Code κ Word := Program.request (Instruction.trap c)

/-- Raises what is due at some places of the plan. -/
def injections : List Nat → Code κ Unit
  | [] => return
  | i :: rest => do
    match ← ofScript (BoardScript.takeDue i) with
    | none => pure ()
    | some c => let _ ← trap c
    injections rest

def call (number arg : Word) : Code κ Word := do
  injections (List.range (← ofScript BoardScript.countCall))
  trap (callContext number arg)

def yieldNow : Code κ Unit := do
  let _ ← call yieldSentinel 0

end Code

end HartLayer
