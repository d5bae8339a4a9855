import HartLayer.Demo.Scheduler
import HartLayer.Machine.Run

/-!
# The demo kernel

The boot code sets up the heap, runs the self tests, installs the event handler and makes two
threads. Its first yield starts the first of them. Each thread asks for its number, prints it, and
yields, for as long as the scheduler lets it.
-/

namespace HartLayer.Demo

def handler : HandlerId := ⟨0⟩

def println (text : String) : Code Scheduler Unit :=
  Code.ofScript (BoardScript.print (text ++ "\n"))

def log (level : LogLevel) (text : String) : Code Scheduler Unit :=
  Code.ofScript (Script.log level text)

/-- Stops the machine with status one. -/
def giveUp {α : Type} : Code Scheduler α := .fail (.halted 1)

/-- Some rounds of a thread with a tag. -/
def rounds (tag : Word) : (left done : Nat) → Code Scheduler Unit
  | 0, _ => return
  | left + 1, done => do
    let id ← Code.call whoAmI 0
    println s!"[thread {Word.decimal id}] tag {Word.hex tag}, round {toString done}"
    Code.yieldNow
    rounds tag left (done + 1)

/-- The code of a thread. Every round ends with a yield, and the machine stops at the first yield
too many, so no thread gets through all of these rounds. -/
def worker (tag : Word) : Code Scheduler Unit := rounds tag (maxSwitches + 1) 0

def boot : Code Scheduler Word := do
  log .info "nt_hal demo starting"
  if let .error e ← Code.ofScript BoardScript.initHeap then
    log .error s!"Heap initialization failed: {e.message}"
    giveUp
  let heap := MemoryMap.heapArea
  log .info s!"Heap: [{Word.hex heap.start}, {Word.hex heap.stop})"
  unless ← Code.ofScript BoardScript.selfTest do giveUp
  Code.ask (.init .global .standard handler MemoryMap.trapEntry)
  let thread (slot tag : Word) : Code Scheduler Word :=
    Code.ask (.newThread .global (MemoryMap.threadStack slot) MemoryMap.threadEntry tag)
  let a ← thread 0 0xa
  let b ← thread 1 0xb
  Code.ofScript (BoardScript.modify fun s => s.withThreads a b)
  Code.yieldNow
  log .warn "Boot context resumed unexpectedly"
  giveUp

def kernel : KernelCode Scheduler where
  handlers _ := onEvent
  thread _ tag := worker tag

/-- Runs the demo with what device registers read and the traps that the machine raises by itself.
Each switch but the last hands the hart to another execution. -/
def run (queues : List (Word × List Word)) (injections : List Injection) :
    Machine.Trace × Except Stop Word :=
  let (result, m) :=
    Machine.run kernel (maxSwitches + 1) boot (.boot (.atBoot queues injections .initial))
  (m.takeTrace.1, result)

end HartLayer.Demo
