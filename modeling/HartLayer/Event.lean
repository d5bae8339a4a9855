import HartLayer.Cause

/-!
# Events

An event is what the kernel is told about a trap: one of five kinds, the raw cause, and a message.
-/

namespace HartLayer

/-- The reasons for which a handler is called. -/
inductive EventKind where
  | syscall
  | yield
  | error
  | irqTimer
  | irqIoDev
  deriving DecidableEq, Repr

def EventKind.name : EventKind → String
  | .syscall => "Syscall"
  | .yield => "Yield"
  | .error => "Error"
  | .irqTimer => "IrqTimer"
  | .irqIoDev => "IrqIoDev"

/-- One classified trap. -/
structure Event where
  kind : EventKind
  cause : Cause
  msg : String
  deriving DecidableEq, Repr

namespace Event

/-- An event in a message: its kind, its message and its cause in hexadecimal. -/
def display (e : Event) : String :=
  s!"{e.kind.name} ({e.msg}, cause {Word.hex e.cause.bits})"

def describe (e : Event) : String :=
  s!"Event \x7b kind: {e.kind.name}, cause: {e.cause.display}, msg: \"{e.msg}\" \x7d"

end Event

end HartLayer
