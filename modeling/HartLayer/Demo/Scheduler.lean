import HartLayer.Machine.Code

/-!
# The demo scheduler

Two threads take turns: each yield parks the trapped frame where it came from and goes on with the
other thread, the boot code being parked at the first yield and never resumed. After a fixed number
of switches the next yield stops the machine.
-/

namespace HartLayer.Demo

/-- How many switches are done before the machine stops. -/
def maxSwitches : Nat := 8

/-- The call that asks for the number of the running thread. -/
def whoAmI : Word := 1

/-- The answer to a call that has none. -/
def noAnswer : Word := 0xffffffffffffffff

/-- The parked frames of the threads and of the boot code, the running thread, and the switches
that were asked for. -/
structure Scheduler where
  threads : Vector (Option Word) 2
  boot : Option Word
  current : Option (Fin 2)
  switches : Nat
  deriving DecidableEq, Repr

namespace Scheduler

/-- No threads, in the boot code. -/
def initial : Scheduler := ⟨Vector.replicate 2 none, none, none, 0⟩

/-- Two threads that have never run. -/
def withThreads (s : Scheduler) (a b : Word) : Scheduler :=
  { s with threads := #v[some a, some b] }

/-- Parks the frame of whoever was running, and counts the switch. -/
def park (s : Scheduler) (frame : Word) : Scheduler :=
  let s := match s.current with
    | some id => { s with threads := s.threads.set id (some frame) }
    | none => { s with boot := some frame }
  { s with switches := s.switches + 1 }

/-- Whether more switches were asked for than are done. -/
def isOver (s : Scheduler) : Bool := decide (maxSwitches < s.switches)

/-- The thread whose turn is next. -/
def next (s : Scheduler) : Fin 2 :=
  match s.current with
  | some id => ⟨(id.val + 1) % 2, Nat.mod_lt _ Nat.two_pos⟩
  | none => ⟨0, Nat.two_pos⟩

/-- Takes the frame of the thread whose turn is next, which becomes the running one. -/
def takeNext (s : Scheduler) : Option Word × Scheduler :=
  (s.threads[s.next], { s with current := some s.next, threads := s.threads.set s.next none })

def answer (s : Scheduler) (number : Word) : Word :=
  if number = whoAmI then
    match s.current with
    | some id => id.val.toUInt64
    | none => noAnswer
  else noAnswer

end Scheduler

/-- Hands the hart to the next thread, or stops the machine when all switches are done. -/
def switch (frame : Word) : BoardScript Scheduler (Option Word) := do
  BoardScript.modify fun s => s.park frame
  let s ← BoardScript.state
  if s.isOver then
    Script.log .info s!"{toString maxSwitches} context switches done, halting"
    .fail (.halted 0)
  else
    let (frame, s) := s.takeNext
    BoardScript.modify fun _ => s
    return frame

/-- What the demo does with an event: a yield switches, a call gets its answer, an error stops the
machine, and an interrupt is reported. -/
def onEvent (event : Event) (frame : Word) : BoardScript Scheduler (Option Word) := do
  match event.kind with
  | .yield => switch frame
  | .syscall =>
    let c ← Script.ask (.context frame)
    let value := (← BoardScript.state).answer c.callNumber
    Script.onContext frame fun c => c.setReturnValue value
    return some frame
  | .error =>
    let c ← Script.ask (.context frame)
    Script.log .error s!"Unhandled trap: {event.display} at {Word.hex c.mepc}"
    .fail (.halted 1)
  | .irqTimer | .irqIoDev =>
    Script.log .warn s!"Spurious interrupt: {event.display}"
    return some frame

end HartLayer.Demo
