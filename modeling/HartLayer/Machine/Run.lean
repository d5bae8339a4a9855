import HartLayer.Machine.Code

/-!
# Running a kernel on the machine

An execution runs until a trap hands the hart to another one, until its code ends, or until a fault
stops the machine. A trapped execution is found again by its frame; a frame that belongs to no
suspended execution starts a new one at its resume address. Executions are numbered in the order in
which they start, the boot code being number 0.
-/

namespace HartLayer

/-- The code of a kernel: what its handlers do, and the code of threads by entry address and
argument. -/
structure KernelCode (κ : Type) where
  handlers : Handlers 0 (Board κ)
  thread : Word → Word → Code κ Unit

/-- A suspended execution: its number, where its registers are, and how it goes on. -/
structure Suspension (κ : Type) where
  id : Nat
  frame : Word
  resume : Word → Code κ Word

/-- A trap that was handled: who was trapped with which registers, what `a0` became, who goes on,
and whether interrupts are enabled then. -/
structure TrapRecord where
  source : Nat
  cause : Cause
  callNumber : Word
  result : Word
  target : Nat
  interrupts : Bool
  deriving DecidableEq, Repr

/-- The machine between two executions. -/
structure Machine (κ : Type) where
  world : World NativeHart 0 (Board κ)
  current : Nat
  started : Nat
  suspended : List (Suspension κ)
  traps : Array TrapRecord

inductive Stop where
  | halted (status : Word)
  | noVector (cause : Cause)
  /-- Control passed between executions more often than was allowed for. -/
  | budgetSpent
  deriving DecidableEq, Repr

namespace World

variable {κ : Type}

/-- Takes a trap: pushes a frame, lets the handler choose a frame, and returns to that one. Gives
the frame pushed and the one chosen. -/
def trap (handlers : Handlers 0 κ) (c : Context) : Run NativeHart 0 κ (Word × Word) := do
  let w ← get
  if Hart.vector (w.system .global).hart = 0 then throw (.noVector c.cause)
  withFrame (c.setRegister Register.sp w.stack) fun frame => do
    return (frame, ← answer handlers (.simulateTrap frame))

end World

namespace Machine

variable {κ : Type}

/-- The stack of an execution that its traps push frames on. -/
def stackOf (id : Nat) : Word := 0x7f0000000000 + 0x10000 * id.toUInt64

/-- The machine when the boot code starts: no vector, interrupts off. -/
def boot (board : Board κ) : Machine κ where
  world := .boot .standard .reset 0 (stackOf 0) board
  current := 0
  started := 1
  suspended := []
  traps := #[]

/-- The number of the execution that a frame belongs to, or will. -/
def owner (m : Machine κ) (frame : Word) : Nat :=
  match m.suspended.find? (·.frame = frame) with
  | some s => s.id
  | none => m.started

def record (m : Machine κ) (c : Context) (frame : Word) (target : Nat) : Machine κ :=
  { m with traps := m.traps.push {
      source := m.current
      cause := c.cause
      callNumber := c.callNumber
      result := (m.world.context frame).a0
      target
      interrupts := Hart.interruptsEnabled (m.world.system .global).hart } }

/-- How a stretch of an execution ends. -/
inductive Pause where
  | finished (w : Word)
  | faulted (f : Fault)
  | switched (frame : Word)

/-- Runs the current execution up to the end of its code, a fault, or a switch to another one. -/
def advance (k : KernelCode κ) : Code κ Word → Machine κ → Pause × Machine κ
  | .done w, m => (.finished w, m)
  | .fail f, m => (.faulted f, m)
  | Program.ask (.request r) next, m =>
    match (World.answer k.handlers r).runFrom m.world with
    | (.error f, world) => (.faulted f, { m with world })
    | (.ok x, world) => advance k (next x) { m with world }
  | Program.ask (.trap c) next, m =>
    match (World.trap k.handlers c).runFrom m.world with
    | (.error f, world) => (.faulted f, { m with world })
    | (.ok (frame, chosen), world) =>
      let m := { m with world }
      if chosen = frame then
        advance k (next (world.context frame).a0) (m.record c frame m.current)
      else
        let m := m.record c frame (m.owner chosen)
        (.switched chosen, { m with suspended := ⟨m.current, frame, next⟩ :: m.suspended })

/-- Goes on with the execution that a frame belongs to, or starts one. A thread that comes to the
end of its code has no place to return to. -/
def switchTo (k : KernelCode κ) (frame : Word) (m : Machine κ) : Code κ Word × Machine κ :=
  let c := m.world.context frame
  let m := { m with current := m.owner frame, world.stack := stackOf (m.owner frame) }
  match m.suspended.find? (·.frame = frame) with
  | some s => (s.resume c.a0, { m with suspended := m.suspended.filter (·.id ≠ s.id) })
  | none =>
    ((k.thread c.mepc c.a0).andThen fun () => .fail .threadReturned,
      { m with started := m.started + 1 })

/-- The last words of the kernel after a fault that it does not survive. The place of the fault in
the sources is not known here and is written `@location`. -/
def lastWords (f : Fault) : List String :=
  ["KERNEL PANIC!", "  Location: @location", "  Message: " ++ f.message, "System halted."]

def stop (f : Fault) (m : Machine κ) : Stop × Machine κ :=
  match f with
  | .halted code => (.halted (UInt64.ofInt code), m)
  | .noVector cause => (.noVector cause, m)
  | f =>
    let world := m.world.onSystem .global fun s => s.setInterrupts false
    (.halted 1, { m with world := (lastWords f).foldl (fun w line => w.log .error line) world })

/-- Runs the machine up to the end of the boot code or a stop, with a budget for how often control
passes between executions. -/
def run (k : KernelCode κ) : Nat → Code κ Word → Machine κ → Except Stop Word × Machine κ
  | budget, code, m =>
    match advance k code m with
    | (.finished w, m) => (.ok w, m)
    | (.faulted f, m) =>
      let (s, m) := m.stop f
      (.error s, m)
    | (.switched frame, m) =>
      match budget with
      | 0 => (.error .budgetSpent, m)
      | budget + 1 =>
        let (code, m) := m.switchTo k frame
        run k budget code m

/-- What a stretch of time showed on the console, in traps and in device registers. -/
structure Trace where
  output : Array UInt8
  traps : List TrapRecord
  device : List Access
  deriving DecidableEq, Repr

/-- Whether an access belongs to the trace of the devices. The console is shown by itself. -/
def isDeviceWrite (a : Access) : Bool :=
  a.isWrite && (match a with
    | .write8 addr _ => addr ≠ DeviceMap.serial
    | _ => true)

def takeTrace (m : Machine κ) : Trace × Machine κ :=
  let bus := m.world.kernel.bus
  (⟨m.world.console.bytes, m.traps.toList, bus.accesses.toList.filter isDeviceWrite⟩,
    { m with
      traps := #[]
      world.console := .empty
      world.kernel.bus.accesses := #[] })

end Machine

end HartLayer
