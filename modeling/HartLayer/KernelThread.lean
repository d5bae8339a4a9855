import HartLayer.Context
import HartLayer.Policy

/-!
# Contexts for new threads

A thread that has never run gets a frame at the top of its stack. Resuming that frame enters the
thread's function with its argument, on the stack below the frame, with interrupts on exactly if
the policy allows them. A thread that leaves its function goes to the exit.
-/

namespace HartLayer.KernelThread

def stackAlign : Word := 16

/-- The smallest stack: a frame and four more aligned blocks. -/
def minStackSize : Word := Frame.size.toUInt64 + 4 * stackAlign

/-- The highest aligned address of a stack. -/
def stackTop (stack : Area) : Word := stack.stop &&& ~~~(stackAlign - 1)

/-- Where the frame goes: right below the top, if it lies in the stack and not at address zero. -/
def frameBase? (stack : Area) : Option Word :=
  let top := stackTop stack
  let size := Frame.size.toUInt64
  if size ≤ top ∧ stack.start ≤ top - size ∧ top - size ≠ 0 then some (top - size) else none

/-- The context of a thread that enters `entry` with `arg` on the stack below `base` and goes to
`exit` behind it. -/
def initialContext (exit base entry arg : Word) (policy : InterruptPolicy) : Context :=
  let c := Context.zeroed.setRegister Register.ra exit
  let c := c.setRegister Register.sp base
  let c := c.setRegister Register.a0 arg
  { c with mstatus := Status.resuming policy.allowsInterrupts, mepc := entry }

/-- The frame of a new thread: its address and its contents. A stack that holds no frame is refused
first, then one that holds little more. -/
def prepare (exit : Word) (stack : Area) (entry arg : Word) (policy : InterruptPolicy) :
    Except Fault (Word × Context) :=
  match frameBase? stack with
  | none => .error (.noRoomForFrame stack)
  | some base =>
    if stack.size < minStackSize then .error (.stackTooSmall stack.size minStackSize)
    else .ok (base, initialContext exit base entry arg policy)

end HartLayer.KernelThread
