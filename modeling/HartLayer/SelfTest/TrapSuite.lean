import HartLayer.SelfTest.Rig

/-!
# Self tests of the trap layer
-/

namespace HartLayer.SelfTest.TrapSuite

open Rig

def machineCall : Cause := .ofException .machineEnvCall

/-- The sentinel turns a call into a yield, and no other number does. -/
def sentinelClassification : Case Rig :=
  check "sentinel_classification" "Yield sentinel turns an ecall into a Yield event" do
    let kind (number : Word) := (classify machineCall (.calling number 0)).event.kind
    .require (kind yieldSentinel = .yield) "sentinel ecall not classified as Yield"
    for number in [0, 1, 64, yieldSentinel - 1] do
      .require (kind number = .syscall)
        s!"ecall with a7={Word.decimal number} not classified as Syscall"

/-- A call moves the resume address on, an interrupt does not. -/
def pcAdvance : Case Rig :=
  check "pc_advance" "Synchronous calls resume past the ecall" do
    let (_, called) := classifyAndAdvance machineCall (.calling 1 0x80000000)
    .require (called.mepc = 0x80000000 + callWidth) s!"pc is {Word.hex called.mepc} after the call"
    let (_, interrupted) := classifyAndAdvance (.ofInterrupt .machineTimer) called
    .require (interrupted.mepc = 0x80000000 + callWidth) "interrupt moved the pc"

/-- An unknown cause is an error and leaves the resume address alone. -/
def unknownCause : Case Rig :=
  check "unknown_cause" "Unrecognised causes become Error events" do
    let c := classify (.ofException .illegalInstruction) (.calling 0 0)
    .require (c.event.kind = .error) "expected Error"
    .require (c.event.cause.bits = 2) "raw cause lost"
    .require (c.pcAdvance = 0) "error advanced the pc"

/-- Where the frames of the cases lie. -/
def frameAt (i : Nat) : Word := 0x7d0000000000 + 0x200 * i.toUInt64

/-- Without a handler a frame comes back as it was. -/
def passthroughWithoutHandler : Case Rig :=
  check "passthrough_without_handler" "Dispatch with no handler returns the frame untouched" do
    let before := Context.calling 5 0x100
    let (out, after) ← Check.script do
      Script.ask (.setContext (frameAt 0) before)
      let out ← Script.ask (.handle bare (frameAt 0))
      return (out, ← Script.ask (.context out))
    .require (out = frameAt 0) "dispatcher returned a different frame"
    .require (after = before) "dispatcher modified the frame"

/-- The traps that the handler is shown, with the kinds of events that they are. -/
def traps : List (Context × EventKind) :=
  [(.calling 1 0x100, .syscall),
    (.calling yieldSentinel 0x200, .yield),
    (.trapped (.ofInterrupt .machineTimer) 0x300, .irqTimer),
    (.trapped (.ofInterrupt .machineExternal) 0x400, .irqIoDev),
    (.trapped (.ofException .loadFault) 0x500, .error)]

/-- Every trap reaches the handler once, in order. -/
def handlerSeesEveryTrap : Case Rig :=
  check "handler_sees_every_trap" "Each delivered trap reaches the handler once" do
    Check.script do
      Script.onKernel fun r => { r with calls := 0, kinds := [] }
      Script.ask (.init tested .masking ⟨0⟩ 0)
    for (i, (c, _)) in (List.range traps.length).zip traps do
      let out ← Check.script do
        Script.ask (.setContext (frameAt i) c)
        Script.ask (.handle tested (frameAt i))
      .require (out = frameAt i) "handler switched frames"
    let seen ← Check.script (Script.ask .kernel)
    .require (seen.calls = traps.length)
      s!"handler ran {seen.calls} times for {traps.length} traps"
    for (i, (_, kind)) in (List.range traps.length).zip traps do
      let got := seen.kinds[i]?
      let text := (got.map fun k => "Some(" ++ k.name ++ ")").getD "None"
      .require (got = some kind) s!"trap {i} delivered as {text}"

def threadStack : Area := ⟨0x7c0000000000, 0x7c0000001000⟩

def threadEntry : Word := 0x7d0000000000

/-- A new thread enters its code with its argument, on its stack. -/
def kcontextEntry : Case Rig :=
  check "kcontext_entry" "Manufactured contexts start entry(arg) on their stack" do
    let (frame, c) ← Check.script do
      let frame ← Script.ask (.newThread tested threadStack threadEntry 0xfeed)
      return (frame, ← Script.ask (.context frame))
    .require (threadStack.contains c.sp) s!"sp {Word.hex c.sp} outside the stack"
    .require (c.a0 = 0xfeed) "a0 does not carry the argument"
    let seen ← Check.script do
      Script.onKernel fun r => { r with entryArg := 0 }
      Script.enter threadCode frame
      Script.ask .kernel
    .require (seen.entryArg = 0xfeed) "entry saw the wrong argument"

/-- Switches interrupts and reads them back. -/
def switched (on : Bool) : Check Bool :=
  Check.script do
    Script.ask (.setInterrupts tested on)
    Script.ask (.interruptsEnabled tested)

/-- Interrupts follow the policy. -/
def interruptControl : Case Rig :=
  check "interrupt_control" "Interrupt accessors honour the configured policy" do
    Check.script (Script.ask (.init tested .masking ⟨0⟩ 0))
    .require (← switched true) "set(true) not observed"
    .require (← switched true) "set(true) is not idempotent"
    .require (!(← switched false)) "set(false) not observed"
    Check.script (Script.ask (.init tested .inert ⟨0⟩ 0))
    .require (!(← switched true)) "inert policy reported interrupts on"

def cases : List (Case Rig) :=
  [sentinelClassification, pcAdvance, unknownCause, passthroughWithoutHandler,
    handlerSeesEveryTrap, kcontextEntry, interruptControl]

def run : Attempt (Session Rig) Unit := do
  Session.print s!"Frame schema v{Frame.version}, {Frame.size} bytes\n"
  Session.runSuite "CTE" cases

end HartLayer.SelfTest.TrapSuite
