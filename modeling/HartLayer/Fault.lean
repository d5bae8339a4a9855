import HartLayer.Area
import HartLayer.Event

/-!
# Faults

A fault ends the computation that raised it. The state that was reached stays as it is, so a
computation that can fail is a state transition with a value or a fault (`Attempt`).
-/

namespace HartLayer

/-- The ways in which a computation of the layer ends without a value. -/
inductive Fault where
  /-- A trap arrived while its dispatcher was handling another one. -/
  | nestedTrap (cause : Cause)
  /-- A handler left nothing to resume. -/
  | nullContext (event : Event)
  | noFrame
  /-- No frame fits the stack of a new thread. -/
  | noRoomForFrame (stack : Area)
  /-- The stack of a new thread holds a frame but too little else. -/
  | stackTooSmall (size minimum : Word)
  | threadReturned
  /-- A call argument beyond the last argument register was asked for. -/
  | noSuchArgument
  | noSuchRegister (index : Nat)
  | halted (code : Int)
  /-- An address or a size left the 64-bit range. -/
  | overflow (kind : Overflow)
  | noVector (cause : Cause)
  /-- More dispatches were nested than there are dispatchers. -/
  | nestingExhausted
  | aborted (reason : String)
  deriving DecidableEq, Repr

def Fault.message : Fault → String
  | nestedTrap cause => s!"nested trap {cause.describe} delivered during dispatch"
  | nullContext event => s!"event handler returned a null context for {event.display}"
  | noFrame => "trap delivered without a register frame"
  | noRoomForFrame stack => s!"stack area {stack.describe} cannot hold a register frame"
  | stackTooSmall size minimum =>
    s!"kernel stack of {Word.decimal size} bytes is below the {Word.decimal minimum} byte minimum"
  | threadReturned => "kernel thread returned from its entry function"
  | noSuchArgument => "only a0-a5 carry call arguments"
  | noSuchRegister index => s!"index out of bounds: the len is 32 but the index is {index}"
  | halted code => s!"machine halted with code {code}"
  | overflow kind => kind.message
  | noVector cause => s!"no trap vector for {cause.describe}"
  | nestingExhausted => "dispatch nesting exceeds the number of dispatchers"
  | aborted reason => reason

/-- A computation over states `σ` that ends with a value or with a fault. -/
abbrev Attempt (σ : Type) := ExceptT Fault (StateM σ)

namespace Attempt

variable {σ τ α : Type}

/-- Runs a computation from a state; gives its outcome and the state it left. -/
def runFrom (x : Attempt σ α) (s : σ) : Except Fault α × σ :=
  x s

def ofFun (f : σ → Except Fault α × σ) : Attempt σ α :=
  f

/-- A value or a fault that does not depend on the state. -/
def ofExcept (r : Except Fault α) : Attempt σ α :=
  fun s => (r, s)

/-- Lets a computation on one part of the state work on the whole of it. -/
def onPart (get : σ → τ) (set : τ → σ → σ) (x : Attempt τ α) : Attempt σ α :=
  fun s => let (r, t) := x.runFrom (get s); (r, set t s)

/-- Runs a clean-up step after a computation, also if that ended with a fault. -/
def ensuring (x : Attempt σ α) (cleanUp : σ → σ) : Attempt σ α :=
  fun s => let (r, s') := x.runFrom s; (r, cleanUp s')

@[simp] theorem runFrom_ensuring (x : Attempt σ α) (cleanUp : σ → σ) (s : σ) :
    (x.ensuring cleanUp).runFrom s = ((x.runFrom s).1, cleanUp (x.runFrom s).2) := rfl

@[simp] theorem runFrom_onPart (get : σ → τ) (set : τ → σ → σ) (x : Attempt τ α) (s : σ) :
    (x.onPart get set).runFrom s = ((x.runFrom (get s)).1, set (x.runFrom (get s)).2 s) := rfl

@[simp] theorem runFrom_pure (a : α) (s : σ) :
    (pure a : Attempt σ α).runFrom s = (.ok a, s) := rfl

@[simp] theorem runFrom_throw (e : Fault) (s : σ) :
    (throw e : Attempt σ α).runFrom s = (.error e, s) := rfl

@[simp] theorem runFrom_get (s : σ) : (get : Attempt σ σ).runFrom s = (.ok s, s) := rfl

@[simp] theorem runFrom_set (s t : σ) : (set t : Attempt σ PUnit).runFrom s = (.ok ⟨⟩, t) := rfl

@[simp] theorem runFrom_modify (f : σ → σ) (s : σ) :
    (modify f : Attempt σ PUnit).runFrom s = (.ok ⟨⟩, f s) := rfl

@[simp] theorem runFrom_ofFun (f : σ → Except Fault α × σ) (s : σ) :
    (ofFun f).runFrom s = f s := rfl

@[simp] theorem runFrom_ofExcept (r : Except Fault α) (s : σ) :
    (ofExcept r : Attempt σ α).runFrom s = (r, s) := rfl
theorem runFrom_bind {β : Type} (x : Attempt σ α) (f : α → Attempt σ β) (s : σ) :
    (x >>= f).runFrom s =
      match (x.runFrom s).1 with
      | .ok a => (f a).runFrom (x.runFrom s).2
      | .error e => (.error e, (x.runFrom s).2) := by
  show ((x >>= f) : Attempt σ β) s = _
  simp only [bind, ExceptT.bind, ExceptT.mk, ExceptT.bindCont, StateT.bind, runFrom]
  generalize x s = p
  obtain ⟨r, t⟩ := p
  cases r <;> rfl

end Attempt

end HartLayer
