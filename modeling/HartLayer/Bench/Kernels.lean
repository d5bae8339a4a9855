import HartLayer.Machine.Run

/-!
# A kernel that performs steps

The boot code performs steps one by one. Its handler prints what it is told and then does what its
mode says; its threads print and yield a number of times and then return.
-/

namespace HartLayer.Bench

/-- What the handler does with an event. -/
inductive HandlerMode where
  /-- Resumes the trapped frame. -/
  | echo
  | giveUp
  | answer
  /-- Hands the hart to the next frame of the run queue at a yield, and answers calls. -/
  | takeTurns
  | halt
  | nest
  deriving DecidableEq, Repr

/-- The mode of the handler and the frames that wait for their turn. -/
structure Turns where
  mode : HandlerMode
  queue : List Word
  deriving DecidableEq, Repr

namespace Turns

def initial : Turns := ⟨.echo, []⟩

def capacity : Nat := 8

/-- Lets a frame wait, if there is room. -/
def enqueue (t : Turns) (frame : Word) : Turns :=
  if t.queue.length < capacity then { t with queue := t.queue ++ [frame] } else t

/-- Takes the first frame that waits. -/
def dequeue (t : Turns) : Option Word × Turns := (t.queue.head?, { t with queue := t.queue.tail })

end Turns

inductive KernelStep where
  | init (config : TrapConfig) (mode : HandlerMode)
  | setMode (mode : HandlerMode)
  | interrupts
  | hartInterrupts
  | setInterrupts (on : Bool)
  | setHartInterrupts (on : Bool)
  | vector
  | setVector (w : Word)
  | yieldNow
  | call (number arg : Word)
  | raise (cause : Cause) (pc : Word)
  | newThread (slot rounds : Word)
  | delivered
  | unknownTraps
  | heap
  | initHeap
  | usage
  | alloc (size align : Word)
  | putByte (b : UInt8)
  | halt (code : Int)
  | panic (n : Int)
  | selfTest

/-- What a step gave, unless the machine stopped in it, and what it showed. -/
structure KernelReport where
  result : Option Word
  trace : Machine.Trace

/-- How the run ends. -/
inductive KernelEnd where
  | done
  | stopped (s : Stop)

namespace KernelBench

abbrev Handling (α : Type) := BoardScript Turns α

abbrev Running (α : Type) := Code Turns α

def handler : HandlerId := ⟨0⟩

def flag (b : Bool) : Word := if b then 1 else 0

/-- Answers a call; leaves the frame of any other event as it is. -/
def answered (event : Event) (frame : Word) : Handling (Option Word) := do
  if event.kind = .syscall then
    Script.onContext frame fun c => c.setReturnValue (c.callNumber + 100)
  return some frame

/-- Does what the mode says. -/
def obey (mode : HandlerMode) (event : Event) (frame : Word) : Handling (Option Word) :=
  match mode with
  | .echo => return some frame
  | .giveUp => return none
  | .answer => answered event frame
  | .takeTurns => do
    if event.kind = .yield then
      let (next, t) := ((← BoardScript.state).enqueue frame).dequeue
      BoardScript.modify fun _ => t
      return next
    else answered event frame
  | .halt => .fail (.halted 9)
  | .nest => do
    BoardScript.nestedYield frame
    return some frame

/-- Prints the event and whether interrupts are enabled, and does what the mode says. -/
def onEvent (event : Event) (frame : Word) : Handling (Option Word) := do
  let c ← Script.ask (.context frame)
  let interrupts ← Script.ask (.interruptsEnabled .global)
  BoardScript.print
    s!"{event.display} pc {Word.hex c.mepc} int {toString interrupts}\n"
  obey (← BoardScript.state).mode event frame

def print (text : String) : Running Unit := Code.ofScript (BoardScript.print text)

def interruptsNow : Running Word := return flag (← Code.ask (.interruptsEnabled .global))

def rounds (total : Word) : (left done : Nat) → Running Unit
  | 0, _ => return
  | left + 1, done => do
    let interrupts ← Code.ask (.interruptsEnabled .global)
    print s!"thread {Word.decimal total} round {toString done} int {toString interrupts}\n"
    Code.yieldNow
    rounds total left (done + 1)

def thread (total : Word) : Running Unit := do
  rounds total total.toNat 0
  print s!"thread {Word.decimal total} returns\n"

/-- What is done for an allocation: the address, zero if there is no room, all ones if size and
alignment make no layout. -/
def allocate (size align : Word) : Handling Word := do
  match Layout.new? size.toNat align.toNat with
  | none => return 0xffffffffffffffff
  | some l =>
    let b ← Script.ask .kernel
    let (a, heap) := b.heap.alloc l
    Script.ask (.setKernel { b with heap })
    return (a.getD 0).toUInt64

/-- The three numbers of the usage of a heap, if it has its area. -/
def usageText : Option (Nat × Nat × Nat) → String
  | none => "None\n"
  | some (total, used, free) =>
    s!"Some(({toString total}, {toString used}, {toString free}))\n"

def perform : KernelStep → Running Word
  | .init config mode => do
    Code.ofScript (BoardScript.modify fun t => { t with mode })
    Code.ask (.init .global config handler MemoryMap.trapEntry)
    return 1
  | .setMode mode => do
    Code.ofScript (BoardScript.modify fun t => { t with mode })
    return 0
  | .interrupts => interruptsNow
  | .hartInterrupts => return flag (← Code.ask (.hartInterrupts .global))
  | .setInterrupts on => do
    Code.ask (.setInterrupts .global on)
    interruptsNow
  | .setHartInterrupts on => do
    Code.ask (.setHartInterrupts .global on)
    interruptsNow
  | .vector => Code.ask (.vector .global)
  | .setVector w => do
    Code.ask (.setVector .global w)
    Code.ask (.vector .global)
  | .yieldNow => do
    Code.yieldNow
    interruptsNow
  | .call number arg => Code.call number arg
  | .raise cause pc => Code.trap (.trapped cause pc)
  | .newThread slot total => do
    let frame ← Code.ask (.newThread .global (MemoryMap.threadStack slot)
      MemoryMap.threadEntry total)
    Code.ofScript (BoardScript.modify fun t => t.enqueue frame)
    return flag (← Code.ask (.context frame)).resumesWithInterrupts
  | .delivered => Code.ask (.delivered .global)
  | .unknownTraps => do
    match ← Code.ask (.unknownTraps .global) with
    | none => .fail (.aborted "the log is held")
    | some log =>
      print (log.describe UnknownTrap.describe ++ "\n")
      return log.size.toUInt64
  | .heap => do
    print (MemoryMap.heapArea.describe ++ "\n")
    return MemoryMap.heapArea.size
  | .initHeap => do
    match ← Code.ofScript BoardScript.initHeap with
    | .ok () => return 0
    | .error e =>
      print (e.message ++ "\n")
      return 1
  | .usage => do
    let heap := (← Code.ask .kernel).heap
    print (usageText heap.usage)
    return flag heap.isInitialized
  | .alloc size align => Code.ofScript (allocate size align)
  | .putByte b => do
    Code.ask (.printBytes #[b])
    return 0
  | .halt code => .fail (.halted code)
  | .panic n => .fail (.aborted s!"probe panics with {toString n}")
  | .selfTest => return flag (← Code.ofScript BoardScript.selfTest)

def kernel : KernelCode Turns where
  handlers _ := onEvent
  thread _ total := thread total

/-- How often steps and the threads they make can pass control to another execution: once for each
step, and once for each round of a thread. -/
def switches : List KernelStep → Nat
  | [] => 0
  | .newThread _ total :: rest => total.toNat + 1 + switches rest
  | _ :: rest => 1 + switches rest

/-- Performs steps up to the first one that stops the machine. -/
def reports (budget : Nat) : List KernelStep → Machine Turns → List KernelReport × KernelEnd
  | [], _ => ([], .done)
  | s :: rest, m =>
    let (result, m) := Machine.run kernel budget (perform s) m
    let (trace, m) := m.takeTrace
    match result with
    | .error stop => ([⟨none, trace⟩], .stopped stop)
    | .ok w =>
      let (later, how) := reports budget rest m
      (⟨some w, trace⟩ :: later, how)

/-- Performs steps from start-up, with what device registers read and the traps that the machine
raises by itself. -/
def play (queues : List (Word × List Word)) (injections : List Injection)
    (steps : List KernelStep) : List KernelReport × KernelEnd :=
  reports (switches steps + injections.length) steps (.boot (.atBoot queues injections .initial))

end KernelBench

end HartLayer.Bench
