import HartLayer.Context

/-!
# Classifying traps

A table names the causes that the layer knows. An environment call is a yield or a system call, by
its call number, and resumes behind the call instruction; the two known interrupts resume where
they struck; every other cause is an error. The call number is all that is read of the frame.
-/

namespace HartLayer

/-- The width of the instruction that makes an environment call. -/
def callWidth : Word := 4

/-- What the table does with a cause. -/
inductive Route where
  /-- A synchronous call: a yield or a system call, by its number. -/
  | call
  /-- Always the same kind of event. -/
  | fixed (kind : EventKind)
  deriving DecidableEq, Repr

structure CauseEntry where
  cause : Cause
  route : Route
  msg : String
  deriving DecidableEq, Repr

/-- The causes that the layer knows. -/
def causeTable : List CauseEntry :=
  [⟨.ofException .userEnvCall, .call, "environment call from U-mode"⟩,
    ⟨.ofException .supervisorEnvCall, .call, "environment call from S-mode"⟩,
    ⟨.ofException .machineEnvCall, .call, "environment call from M-mode"⟩,
    ⟨.ofInterrupt .machineTimer, .fixed .irqTimer, "machine timer interrupt"⟩,
    ⟨.ofInterrupt .machineExternal, .fixed .irqIoDev, "machine external interrupt"⟩]

/-- The event of a trap, and how far the trapped execution moves on before it resumes. -/
structure Classification where
  event : Event
  pcAdvance : Word
  deriving DecidableEq, Repr

namespace Classification

/-- Whether the table does not name the cause. -/
def isUnrecognized (c : Classification) : Bool := c.event.kind = .error

/-- Moves the resume address of a trapped context on. -/
def apply (c : Classification) (ctx : Context) : Context := ctx.advance c.pcAdvance

def describe (c : Classification) : String :=
  Text.record "Classification"
    [("event", c.event.describe), ("pc_advance", Word.decimal c.pcAdvance)]

end Classification

def callKind (ctx : Context) : EventKind :=
  if ctx.callNumber = yieldSentinel then .yield else .syscall

/-- Classifies a trap of a given cause. The context is the one that trapped. -/
def classify (cause : Cause) (ctx : Context) : Classification :=
  match causeTable.find? (·.cause = cause) with
  | none => ⟨⟨.error, cause, "unrecognized trap cause"⟩, 0⟩
  | some entry =>
    match entry.route with
    | .call => ⟨⟨callKind ctx, cause, entry.msg⟩, callWidth⟩
    | .fixed kind => ⟨⟨kind, cause, entry.msg⟩, 0⟩

def classifyAndAdvance (cause : Cause) (ctx : Context) : Event × Context :=
  ((classify cause ctx).event, (classify cause ctx).apply ctx)

end HartLayer
